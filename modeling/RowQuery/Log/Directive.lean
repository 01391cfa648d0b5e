import RowQuery.Log.Pattern
import RowQuery.Log.Record
import RowQuery.Text.Blank

/-!
# Directives of a log filter

A directive is a level alone, or `source[span{field=value}]=level`, where each part but one may be
left out. It concerns the records whose source starts with its source and which have its field. One
that names a span or the value of a field is for spans and concerns no record.
-/
namespace RowQuery.Log

structure Directive where
  source : String
  field : Option String
  level : Level
  isForSpans : Bool
deriving DecidableEq, Repr

inductive DirectiveError
  | malformed
  | unknownLevel
  | badPattern (fault : Pattern.Fault)
deriving DecidableEq, Repr

def DirectiveError.message : DirectiveError → String
  | .malformed => "invalid filter directive"
  | .unknownLevel => "error parsing level filter: expected one of \"off\", \"error\", \"warn\", " ++
      "\"info\", \"debug\", \"trace\", or a number 0-5"
  | .badPattern .malformed => "invalid field filter: error building NFA"
  | .badPattern .unicodeBoundary =>
    "invalid field filter: unsupported regex feature for DFAs: cannot build DFAs for regexes " ++
      "with Unicode word boundaries; switch to ASCII word boundaries, or heuristically enable " ++
      "Unicode word boundaries or use a different regex engine"

namespace Directive

def ofLevel (l : Level) : Directive := ⟨"", none, l, false⟩

def forSpans (l : Level) : Directive := ⟨"", none, l, true⟩

def concerns (d : Directive) (r : Record) : Bool :=
  !d.isForSpans && r.source.startsWith d.source && d.field.all r.fieldNames.contains

/-- Whether a directive counts before an earlier one that concerns the same record: it names more of
the source, or as much and a field, or as much and a field of a name not less. -/
def prevails (d earlier : Directive) : Bool :=
  if d.source.length = earlier.source.length then
    match earlier.field, d.field with
    | none, _ => true
    | some _, none => false
    | some a, some b => !(b < a)
  else earlier.source.length < d.source.length

def isStart (c : Char) : Bool := Text.isAlphanumeric c || c = '-' || c = ':' || c = '_' || c = '['

def readLevel : Option (List Char) → Except DirectiveError Level
  | none | some [] => .ok .trace
  | some cs =>
    match Level.read? (String.ofList cs) with
    | some l => .ok l
    | none => .error .unknownLevel

/-- What stands between brackets: a field without a value, or what only spans have. -/
inductive Scope
  | spans
  | field (name : String)
deriving DecidableEq, Repr

structure Parts where
  source : List Char
  scope : Option Scope
  level : Option (List Char)
deriving DecidableEq, Repr

def readField (cs : List Char) : Except DirectiveError Scope :=
  let name := cs.takeWhile (· != '=')
  match cs.drop name.length with
  | [] => if name = [] then .error .malformed else .ok (.field (String.ofList name))
  | _ :: value =>
    match Pattern.fault? (value.takeWhile (· != '=')) with
    | none => .ok .spans
    | some fault => .error (.badPattern fault)

def readScope (cs : List Char) : Except DirectiveError (Scope × List Char) :=
  let span := cs.takeWhile fun c => c != ']' && c != '\x7b'
  match cs.drop span.length with
  | [] => .error .malformed
  | ']' :: rest => .ok (.spans, rest)
  | _ :: inner =>
    let field := inner.takeWhile (· != '\x7d')
    match inner.drop field.length with
    | [] => .error .malformed
    | _ :: rest => do
      let scope ← readField field
      match rest with
      | ']' :: rest => .ok (if span = [] then scope else .spans, rest)
      | _ => .error .malformed

/-- The parts of a text that starts with no blank. Blanks at its end belong to the source or the
level before them and go unnoticed behind a bracket. -/
def Parts.read (cs : List Char) : Except DirectiveError Parts :=
  let source := cs.takeWhile fun c => c != '=' && c != '['
  match cs.drop source.length with
  | [] => .ok ⟨source, none, none⟩
  | '=' :: level => .ok ⟨source, none, some level⟩
  | _ :: rest => do
    match ← readScope rest with
    | (scope, '=' :: level) => return ⟨source, some scope, some level⟩
    | (scope, rest) =>
      if rest.all Text.isBlank then return ⟨source, some scope, none⟩ else .error .malformed

def ofParts (p : Parts) : Except DirectiveError Directive := do
  let source := String.ofList p.source
  match p.scope, p.level with
  | none, none => return ((Level.read? source).map ofLevel).getD ⟨source, none, .trace, false⟩
  | none, level => return ⟨source, none, ← readLevel level, false⟩
  | some .spans, level => return forSpans (← readLevel level)
  | some (.field name), level => return ⟨source, some name, ← readLevel level, false⟩

/-- A directive with blanks in front. They displace what is behind them, so that no source matches
it and no level can be read. -/
def ofIndentedParts (p : Parts) : Except DirectiveError Directive :=
  match p.level with
  | none => .ok (forSpans .trace)
  | some _ => .error .unknownLevel

def read (text : String) : Except DirectiveError Directive :=
  let cs := text.toList.dropWhile Text.isBlank
  match cs with
  | [] => .error .malformed
  | c :: _ =>
    if !isStart c then .error .malformed
    else do
      let parts ← Parts.read cs
      if cs.length = text.length then ofParts parts else ofIndentedParts parts

end Directive
end RowQuery.Log
