import RowQuery.Text.Alphanumeric
import RowQuery.Text.Blank

/-!
# The environment

Variables with their values, to which a file of assignments adds those it does not have yet. Such a
file holds `NAME=value` lines, with `export` before the name or not. Values may be quoted, also over
several lines, and may name variables behind a dollar sign. Reading stops at the first line that
cannot be read; what was assigned before stays.
-/
namespace RowQuery.Program

abbrev Environment := List (String × String)

namespace Environment

def addNew (env : Environment) (name value : String) : Environment :=
  if (env.lookup name).isSome then env else env ++ [(name, value)]

/-! ## Lines -/

/-- Where a reader of lines stands: only between quotes does a line go on behind its end. -/
inductive Place
  | plain
  | blank
  | escape
  | single
  | singleEscape
  | double
  | doubleEscape
deriving DecidableEq, Repr

def Place.unquoted (c : Char) : Place :=
  if c = '\\' then .escape
  else if c = '"' then .double
  else if c = '\'' then .single
  else .plain

/-- The place behind a character; `none` when a comment starts there. -/
def Place.next? (c : Char) : Place → Option Place
  | .plain => if Text.isBlank c && c != '\n' && c != '\r' then some .blank else some (.unquoted c)
  | .blank => if c = '#' then none else some (.unquoted c)
  | .escape => some .plain
  | .single => some (if c = '\\' then .singleEscape else if c = '\'' then .plain else .single)
  | .singleEscape => some .single
  | .double => some (if c = '\\' then .doubleEscape else if c = '"' then .plain else .double)
  | .doubleEscape => some .double

def scanLine (place : Place) (done : List Char) : List Char → List Char × Option Place
  | [] => (done, some place)
  | c :: cs =>
    match place.next? c with
    | some place => scanLine place (c :: done) cs
    | none => (done, none)

def splitLines (line : List Char) : List Char → List (List Char)
  | [] => if line = [] then [] else [line.reverse]
  | c :: cs =>
    if c = '\n' then (c :: line).reverse :: splitLines [] cs else splitLines (c :: line) cs

def isComment (cs : List Char) : Bool := (cs.dropWhile Text.isBlank).head? = some '#'

def withoutBreak (reversed : List Char) : List Char :=
  match reversed with
  | '\n' :: '\r' :: cs => cs.reverse
  | '\n' :: cs => cs.reverse
  | cs => cs.reverse

/-- Joins lines that go on. `none` marks one that never ends. -/
def joinLines (place : Place) (done : List Char) : List (List Char) → List (Option (List Char))
  | [] => if place = .plain then [] else [none]
  | line :: lines =>
    if isComment (done.reverse ++ line) then some [] :: joinLines .plain [] lines
    else
      match scanLine place done line with
      | (before, none) => some before.reverse :: joinLines .plain [] lines
      | (all, some .plain) => some (withoutBreak all) :: joinLines .plain [] lines
      | (all, some place) => joinLines place all lines

/-! ## Values -/

/-- How the next character of a value is taken. A name is kept with its last character first. -/
inductive Mode
  | plain
  | escape
  | single
  | name (reversed : List Char)
  | braced (reversed : List Char)
  | ended
deriving DecidableEq, Repr

structure Value where
  mode : Mode
  isDouble : Bool
  reversed : List Char

/-- The value with that of a variable behind it; a variable that is not there has none. -/
def Value.substitute (env : Environment) (v : Value) (name : List Char) (mode : Mode) : Value :=
  let text := (env.lookup (String.ofList name.reverse)).getD ""
  { v with mode, reversed := text.toList.reverse ++ v.reversed }

def Value.push (v : Value) (c : Char) (mode : Mode) : Value :=
  { v with mode, reversed := c :: v.reversed }

def Value.takePlain (v : Value) (c : Char) : Value :=
  if c = '$' then { v with mode := .name [] }
  else if c = '\\' then { v with mode := .escape }
  else if v.isDouble then (if c = '"' then { v with isDouble := false } else v.push c .plain)
  else if c = '\'' then { v with mode := .single }
  else if c = '"' then { v with isDouble := true }
  else if c = ' ' ∨ c = '\t' then { v with mode := .ended }
  else v.push c .plain

/-- Takes a character of a value that goes on; `none` when it cannot stand there. A name without
braces ends at the first character that is no letter or digit, which is taken as it is. -/
def Value.take? (env : Environment) (v : Value) (c : Char) : Option Value :=
  match v.mode with
  | .ended => if c = ' ' ∨ c = '\t' then some v else none
  | .escape =>
    if ['\\', '\'', '"', '$', ' '].contains c then some (v.push c .plain)
    else if c = 'n' then some (v.push '\n' .plain)
    else none
  | .single => some (if c = '\'' then { v with mode := .plain } else v.push c .single)
  | .name name =>
    if Text.isAlphanumeric c then some { v with mode := .name (c :: name) }
    else if c = '\x7b' ∧ name = [] then some { v with mode := .braced [] }
    else if c = '$' then some (v.substitute env name (.name []))
    else some ((v.substitute env name .plain).push c .plain)
  | .braced name =>
    if c = '\x7d' then some (v.substitute env name .plain)
    else some { v with mode := .braced (c :: name) }
  | .plain => some (v.takePlain c)

def readValue? (env : Environment) (v : Value) : List Char → Option (List Char)
  | [] =>
    if v.isDouble then none
    else
      match v.mode with
      | .single | .braced _ => none
      | .name name => some (v.substitute env name .plain).reversed.reverse
      | _ => some v.reversed.reverse
  | c :: cs =>
    if v.mode = .ended ∧ c = '#' then readValue? env v []
    else
      match v.take? env c with
      | some v => readValue? env v cs
      | none => none

/-! ## Assignments -/

def isNameStart (c : Char) : Bool := c.isAlpha || c = '_'

def isNameChar (c : Char) : Bool := c.isAlphanum || c = '_' || c = '.'

def skipBlanks (cs : List Char) : List Char := cs.dropWhile Text.isBlank

def readName? (cs : List Char) : Option (List Char × List Char) :=
  if cs.head?.any isNameStart then
    some (cs.takeWhile isNameChar, skipBlanks (cs.dropWhile isNameChar))
  else none

def readEqual? : List Char → Option (List Char)
  | '=' :: cs => some (skipBlanks cs)
  | _ => none

def readAssignment? (cs : List Char) : Option (String × List Char) := do
  let (name, rest) ← readName? cs
  match readEqual? rest with
  | some value => return (String.ofList name, value)
  | none =>
    if name = "export".toList then
      let (name, rest) ← readName? rest
      return (String.ofList name, ← readEqual? rest)
    else none

/-- The assignment on a line. Either there is none, or it cannot be read, or there is one. -/
def readLine (env : Environment) (line : List Char) : Option (Option (String × String)) :=
  let cs := skipBlanks (line.reverse.dropWhile Text.isBlank).reverse
  if cs = [] ∨ cs.head? = some '#' then some none
  else do
    let (name, text) ← readAssignment? cs
    if text.head? = some '#' then return some (name, "")
    else return some (name, String.ofList (← readValue? env ⟨.plain, false, []⟩ text))

def addLines (env : Environment) : List (Option (List Char)) → Environment
  | some line :: lines =>
    match readLine env line with
    | some (some (name, value)) => addLines (env.addNew name value) lines
    | some none => addLines env lines
    | none => env
  | _ => env

def withoutMark (cs : List Char) : List Char :=
  match cs with
  | '\uFEFF' :: cs => cs
  | cs => cs

def addFile (env : Environment) (content : String) : Environment :=
  env.addLines (joinLines .plain [] (splitLines [] (withoutMark content.toList)))

end Environment
end RowQuery.Program
