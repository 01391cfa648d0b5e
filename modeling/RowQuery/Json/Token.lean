import RowQuery.Json.Number
import RowQuery.Text.Hex

/-!
# JSON tokens

A text is scanned as octets. The scan stops at the first thing that is no token, and the last token
then says why: what lies beyond can never be reached. A string token keeps the octets and escaped
units between its quotes undecoded, since a reader that skips the string does not look at them.
-/
namespace RowQuery.Json

inductive Word
  | null
  | true
  | false
deriving DecidableEq, Repr

def Word.tail : Word → List Char
  | .null => ['u', 'l', 'l']
  | .true => ['r', 'u', 'e']
  | .false => ['a', 'l', 's', 'e']

/-- Why a text is not, or not as far as it is read, a JSON text. -/
inductive Break
  | unfinishedValue
  | unfinishedNumber
  | unfinishedWord (w : Word)
  | unfinishedString
  | unfinishedList
  | unfinishedObject
  | unfinishedMember
  | expectedValue
  | expectedWord (w : Word)
  | expectedColon
  | expectedListSeparator
  | expectedObjectSeparator
  | listTrailingComma
  | objectTrailingComma
  | keyNotString
  | badNumber
  | numberOutOfRange
  | badEscape
  | badHexEscape
  | controlCharacter
  | loneSurrogate
  | unpairedSurrogate
  | invalidText
  | trailingCharacters
  | tooDeep
deriving DecidableEq, Repr

/-- An octet of a string, or a UTF-16 unit written as `\\u` and four digits. -/
inductive Piece
  | octet (b : UInt8)
  | unit (u : Nat)
deriving DecidableEq, Repr

/-- What stands between the quotes, up to the closing one or to where the string breaks off. -/
structure Quoted where
  pieces : List Piece
  ending : Option Break
deriving DecidableEq, Repr

inductive Token
  | listOpen
  | listClose
  | objectOpen
  | objectClose
  | comma
  | colon
  | word (w : Word)
  | number (l : Literal)
  | string (q : Quoted)
  | broken (b : Break)
  | stray
deriving DecidableEq

namespace Token

def isSpace (b : UInt8) : Bool := b == 0x20 || b == 0x0A || b == 0x0D || b == 0x09

def isDigit (b : UInt8) : Bool := 0x30 ≤ b && b ≤ 0x39

def chars (bs : List UInt8) : List Char := bs.map Char.ofUInt8

def scanLetters (w : Word) : List Char → List UInt8 → Token × List UInt8
  | [], bs => (.word w, bs)
  | _ :: _, [] => (.broken (.unfinishedWord w), [])
  | c :: cs, b :: bs =>
    if Char.ofUInt8 b = c then scanLetters w cs bs else (.broken (.expectedWord w), [])

def scanWord (w : Word) (bs : List UInt8) : Token × List UInt8 := scanLetters w w.tail bs

def digitsMissing (rest : List UInt8) : Token × List UInt8 :=
  (.broken (if rest = [] then .unfinishedNumber else .badNumber), [])

def scanExponent (negative : Bool) (whole fraction : List Char) (bs : List UInt8) :
    Token × List UInt8 :=
  match bs.map Char.ofUInt8 |>.take 1 with
  | [c] =>
    if c = 'e' ∨ c = 'E' then
      let (down, after) :=
        match bs.drop 1 with
        | 0x2D :: after => (true, after)
        | 0x2B :: after => (false, after)
        | after => (false, after)
      let digits := after.takeWhile isDigit
      let rest := after.dropWhile isDigit
      if digits = [] then digitsMissing rest
      else
        let power : Int := Decimal.ofDigits (chars digits)
        (.number ⟨negative, whole, fraction, some (if down then -power else power)⟩, rest)
    else (.number ⟨negative, whole, fraction, none⟩, bs)
  | _ => (.number ⟨negative, whole, fraction, none⟩, bs)

def scanNumber (negative : Bool) (bs : List UInt8) : Token × List UInt8 :=
  let whole := bs.takeWhile isDigit
  let rest := bs.dropWhile isDigit
  if whole = [] then digitsMissing rest
  else if whole.head? = some 0x30 ∧ whole.length ≠ 1 then (.broken .badNumber, [])
  else
    match rest with
    | 0x2E :: after =>
      let fraction := after.takeWhile isDigit
      if fraction = [] then digitsMissing after
      else scanExponent negative (chars whole) (chars fraction) (after.dropWhile isDigit)
    | rest => scanExponent negative (chars whole) [] rest

def hexUnit? (a b c d : UInt8) : Option Nat := Text.ofHex? (chars [a, b, c, d])

def escaped? (b : UInt8) : Option UInt8 :=
  match Char.ofUInt8 b with
  | '"' => some 0x22
  | '\\' => some 0x5C
  | '/' => some 0x2F
  | 'b' => some 0x08
  | 'f' => some 0x0C
  | 'n' => some 0x0A
  | 'r' => some 0x0D
  | 't' => some 0x09
  | _ => none

def scanString (done : List Piece) : List UInt8 → Quoted × List UInt8
  | [] => (⟨done.reverse, some .unfinishedString⟩, [])
  | 0x22 :: bs => (⟨done.reverse, none⟩, bs)
  | 0x5C :: 0x75 :: a :: b :: c :: d :: bs =>
    match hexUnit? a b c d with
    | some u => scanString (.unit u :: done) bs
    | none => (⟨done.reverse, some .badHexEscape⟩, [])
  | 0x5C :: b :: bs =>
    if b = 0x75 then (⟨done.reverse, some .unfinishedString⟩, [])
    else match escaped? b with
      | some e => scanString (.octet e :: done) bs
      | none => (⟨done.reverse, some .badEscape⟩, [])
  | [0x5C] => (⟨done.reverse, some .unfinishedString⟩, [])
  | b :: bs =>
    if b < 0x20 then (⟨done.reverse, some .controlCharacter⟩, [])
    else scanString (.octet b :: done) bs

def scanFrom (b : UInt8) (bs : List UInt8) : Token × List UInt8 :=
  match Char.ofUInt8 b with
  | '[' => (.listOpen, bs)
  | ']' => (.listClose, bs)
  | '\x7b' => (.objectOpen, bs)
  | '\x7d' => (.objectClose, bs)
  | ',' => (.comma, bs)
  | ':' => (.colon, bs)
  | '"' => let (q, rest) := scanString [] bs; (.string q, rest)
  | 'n' => scanWord .null bs
  | 't' => scanWord .true bs
  | 'f' => scanWord .false bs
  | '-' => scanNumber true bs
  | _ => if isDigit b then scanNumber false (b :: bs) else (.stray, [])

/-- The tokens left, given those done, nearest first; every token takes an octet. -/
def scanOnto (done : List Token) : Nat → List UInt8 → List Token
  | 0, _ => done.reverse
  | steps + 1, bs =>
    match bs.dropWhile isSpace with
    | [] => done.reverse
    | b :: bs =>
      let (token, rest) := scanFrom b bs
      scanOnto (token :: done) steps rest

def scan (bs : List UInt8) : List Token := scanOnto [] bs.length bs

end Token
end RowQuery.Json
