import RowQuery.Decimal
import RowQuery.Log.Symbol
import RowQuery.Text.Alphanumeric
import RowQuery.Text.Blank

/-!
# Patterns for the values of fields

A value is matched as a number or by a regular expression. Whether a text is one is decided here, a
symbol at a time. Groups and classes have to close, a repetition needs something to repeat, and a
range runs upwards. Characters are those of Unicode unless a flag says otherwise. As no tables of
Unicode are held, its kinds of characters cannot be asked for and its letters not be matched in
either case; of the octets alone only ASCII can be matched. Counted repetitions cannot be written,
since a closing brace ends the field.
-/
namespace RowQuery.Log.Pattern

inductive Fault
  | malformed
  | unicodeBoundary
deriving DecidableEq, Repr

structure Flags where
  ignoresCase : Bool
  isUnicode : Bool
  skipsBlanks : Bool
deriving DecidableEq, Repr

namespace Flags

def initial : Flags := ⟨false, true, false⟩

def set (f : Flags) (value : Bool) : Char → Flags
  | 'i' => { f with ignoresCase := value }
  | 'u' => { f with isUnicode := value }
  | 'x' => { f with skipsBlanks := value }
  | _ => f

/-- Sets the flags behind each other; a hyphen turns off those that follow it. -/
def setAll (value : Bool) (f : Flags) : List Char → Flags
  | [] => f
  | '-' :: cs => f.setAll false cs
  | c :: cs => (f.set value c).setAll value cs

def foldsUnicode (f : Flags) : Bool := f.ignoresCase && f.isUnicode

def admits (f : Flags) : Symbol → Bool
  | .octet n => !f.foldsUnicode && (f.isUnicode || n < 128)
  | .kind isNegated => !f.isUnicode && !isNegated
  | .plain _ | .escaped _ => !f.foldsUnicode
  | .boundary | .edge => true

def admitsMember (f : Flags) : Symbol → Bool
  | .kind isNegated => !f.isUnicode && !isNegated
  | x => x.char?.any fun c => f.isUnicode || c.toNat < 128

end Flags

/-- Where a scan stands. A class knows how many enclose it; at its start a hyphen or a closing
bracket is a member, and behind a member a hyphen may begin a range. -/
inductive Place
  | text (hasOperand : Bool)
  | groupStart
  | flags (reversed : List Char)
  | groupName (reversed : List Char)
  | classStart (outer : Nat) (canNegate isEmpty : Bool)
  | members (outer : Nat) (last : Option Symbol)
  | range (outer : Nat) (first : Symbol)
deriving DecidableEq, Repr

structure State where
  place : Place
  flags : Flags
  outer : List Flags
  names : List (List Char)
  inComment : Bool
  hasUnicodeBoundary : Bool
deriving DecidableEq, Repr

namespace State

def initial : State := ⟨.text false, .initial, [], [], false, false⟩

def goto (s : State) (p : Place) : State := { s with place := p }

def gotoIf (s : State) (b : Bool) (p : Place) : Option State := if b then some (s.goto p) else none

def inText (s : State) (hasOperand : Bool) : Symbol → Option State
  | .plain '(' => some { s with place := .groupStart, outer := s.flags :: s.outer }
  | .plain ')' =>
    match s.outer with
    | [] => none
    | flags :: outer => some { s with place := .text true, flags, outer }
  | .plain '|' => some (s.goto (.text false))
  | .plain '[' => s.gotoIf (!s.flags.foldsUnicode) (.classStart 0 true true)
  | .plain '\x7b' => none
  | .plain '*' | .plain '+' | .plain '?' => s.gotoIf hasOperand (.text true)
  | .plain '^' | .plain '$' => some (s.goto (.text true))
  | .plain '.' => s.gotoIf s.flags.isUnicode (.text true)
  | .boundary =>
    some { s with
      place := .text true
      hasUnicodeBoundary := s.hasUnicodeBoundary || s.flags.isUnicode }
  | x => s.gotoIf (s.flags.admits x) (.text true)

def flagLetters : List Char := "imsUuRx".toList

def areFlags (reversed : List Char) : Bool :=
  reversed.all ('-' :: flagLetters).contains && decide reversed.Nodup && reversed.head? != some '-'

def inFlags (s : State) (reversed : List Char) : Symbol → Option State
  | .plain ':' =>
    { s with flags := s.flags.setAll true reversed.reverse }.gotoIf (areFlags reversed)
      (.text false)
  | .plain ')' =>
    { s with flags := s.flags.setAll true reversed.reverse, outer := s.outer.tail }.gotoIf
      (reversed ≠ [] && areFlags reversed) (.text false)
  | .plain '<' => s.gotoIf (reversed = [] || reversed = ['P']) (.groupName [])
  | .plain c => some (s.goto (.flags (c :: reversed)))
  | _ => none

def isNameLetter (isFirst : Bool) (c : Char) : Bool :=
  c == '_' || (if isFirst then Text.isAlphanumeric c && !c.isDigit
    else Text.isAlphanumeric c || ['.', '[', ']'].contains c)

def inGroupName (s : State) (reversed : List Char) : Symbol → Option State
  | .plain '>' =>
    { s with names := reversed :: s.names }.gotoIf
      (reversed ≠ [] && !s.names.contains reversed) (.text false)
  | .plain c => s.gotoIf (isNameLetter (reversed = []) c) (.groupName (c :: reversed))
  | _ => none

def closeClass (s : State) : Nat → State
  | 0 => s.goto (.text true)
  | outer + 1 => s.goto (.members outer none)

def isOperator (last : Option Symbol) (c : Char) : Bool :=
  last = some (.plain c) && ['-', '&', '~'].contains c

def inMembers (s : State) (outer : Nat) (last : Option Symbol) : Symbol → Option State
  | .plain ']' => some (s.closeClass outer)
  | .plain '[' => some (s.goto (.classStart (outer + 1) true true))
  | .plain c =>
    if isOperator last c then some (s.goto (.members outer none))
    else
      match c, last with
      | '-', some first => some (s.goto (.range outer first))
      | c, _ => s.gotoIf (s.flags.admitsMember (.plain c)) (.members outer (some (.plain c)))
  | x => s.gotoIf (s.flags.admitsMember x) (.members outer (some x))

def inClassStart (s : State) (outer : Nat) (canNegate isEmpty : Bool) (x : Symbol) : Option State :=
  if x = .plain '^' ∧ canNegate then s.gotoIf s.flags.isUnicode (.classStart outer false true)
  else if x = .plain '-' then some (s.goto (.classStart outer false false))
  else if x = .plain ']' ∧ isEmpty then some (s.goto (.members outer none))
  else s.inMembers outer none x

def isRange (first last : Symbol) : Bool :=
  match first.char?, last.char? with
  | some a, some b => a ≤ b
  | _, _ => false

def inRange (s : State) (outer : Nat) (first : Symbol) : Symbol → Option State
  | .plain ']' => some (s.closeClass outer)
  | .plain '-' => some (s.goto (.members outer none))
  | x => s.gotoIf (isRange first x && s.flags.admitsMember x) (.members outer none)

def mayPause (s : State) : Bool :=
  s.flags.skipsBlanks &&
    match s.place with
    | .flags _ | .groupName _ => false
    | _ => true

def stepPlace (s : State) (x : Symbol) : Option State :=
  match s.place with
  | .text hasOperand => s.inText hasOperand x
  | .groupStart => if x = .plain '?' then some (s.goto (.flags [])) else s.inText false x
  | .flags reversed => s.inFlags reversed x
  | .groupName reversed => s.inGroupName reversed x
  | .classStart outer canNegate isEmpty => s.inClassStart outer canNegate isEmpty x
  | .members outer last => s.inMembers outer last x
  | .range outer first => s.inRange outer first x

def step (s : State) (x : Symbol) : Option State :=
  match x with
  | .plain c =>
    if s.inComment then some { s with inComment := c != '\n' }
    else if s.mayPause && c = '#' then some { s with inComment := true }
    else if s.mayPause && Text.isBlank c then some s
    else s.stepPlace x
  | x => if s.inComment then some s else s.stepPlace x

def fault? (s : State) : Option Fault :=
  match s.place, s.outer with
  | .text _, [] => if s.hasUnicodeBoundary then some .unicodeBoundary else none
  | _, _ => some .malformed

end State

def isNumeral (cs : List Char) : Bool :=
  (Decimal.read? cs).isSome ||
    ["+inf", "+infinity", "+nan"].contains (String.ofList cs).toLower

/-- What is wrong with a text as the value of a field. -/
def fault? (cs : List Char) : Option Fault :=
  if isNumeral cs then none
  else
    match (Symbol.scan? cs).bind (·.foldlM State.step .initial) with
    | some s => s.fault?
    | none => some .malformed

end RowQuery.Log.Pattern
