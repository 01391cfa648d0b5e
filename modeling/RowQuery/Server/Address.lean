import RowQuery.Decimal
import RowQuery.Text.Hex

/-!
# Addresses

IP addresses of both versions as texts. The four parts of the older one are decimal, without leading
zeros. The eight groups of the newer one are hexadecimal; `::` stands once for one or more groups of
zero, and an address of the older version may stand for the last two groups.
-/
namespace RowQuery.Server

inductive Address
  | v4 (a b c d : Nat)
  | v6 (groups : List Nat)
deriving DecidableEq, Repr

namespace Address

def readPart? (cs : List Char) : Option (Nat × List Char) :=
  let digits := cs.takeWhile Char.isDigit
  let value := Decimal.ofDigits digits
  if digits = [] ∨ 3 < digits.length ∨ 255 < value ∨ (digits.head? = some '0' ∧ digits ≠ ['0']) then
    none
  else some (value, cs.dropWhile Char.isDigit)

def readDot? : List Char → Option (List Char)
  | '.' :: cs => some cs
  | _ => none

def readV4? (cs : List Char) : Option ((Nat × Nat × Nat × Nat) × List Char) := do
  let (a, cs) ← readPart? cs
  let (b, cs) ← readPart? (← readDot? cs)
  let (c, cs) ← readPart? (← readDot? cs)
  let (d, cs) ← readPart? (← readDot? cs)
  return ((a, b, c, d), cs)

def readGroup? (cs : List Char) : Option (Nat × List Char) :=
  let digits := cs.takeWhile fun c => (Text.hexValue? c).isSome
  if digits = [] ∨ 4 < digits.length then none
  else (Text.ofHex? digits).map (·, cs.drop digits.length)

def readColon? (isFirst : Bool) (cs : List Char) : Option (List Char) :=
  if isFirst then some cs
  else
    match cs with
    | ':' :: cs => some cs
    | _ => none

/-- At most `room` groups, whether an older address ends them, and the rest. -/
def readGroups (isFirst : Bool) (cs : List Char) : Nat → List Nat × Bool × List Char
  | 0 => ([], false, cs)
  | room + 1 =>
    let part := readColon? isFirst cs
    let older := if room = 0 then none else part.bind readV4?
    match older, part.bind readGroup? with
    | some ((a, b, c, d), rest), _ => ([256 * a + b, 256 * c + d], true, rest)
    | none, some (g, rest) =>
      let (gs, endsOlder, rest) := readGroups false rest room
      (g :: gs, endsOlder, rest)
    | none, none => ([], false, cs)

def readV6? (cs : List Char) : Option (List Nat × List Char) :=
  match readGroups true cs 8 with
  | (head, endsOlder, rest) =>
    if head.length = 8 then some (head, rest)
    else if endsOlder then none
    else
      match rest with
      | ':' :: ':' :: rest =>
        let (tail, _, rest) := readGroups true rest (7 - head.length)
        some (head ++ List.replicate (8 - head.length - tail.length) 0 ++ tail, rest)
      | _ => none

def read? (text : String) : Option Address :=
  match readV4? text.toList with
  | some ((a, b, c, d), []) => some (.v4 a b c d)
  | some _ => none
  | none =>
    match readV6? text.toList with
    | some (groups, []) => some (.v6 groups)
    | _ => none

def hexText (n : Nat) : String := String.ofList (Nat.toDigits 16 n)

def groupsText (groups : List Nat) : String := ":".intercalate (groups.map hexText)

def v4Text (a b c d : Nat) : String := s!"{a}.{b}.{c}.{d}"

def zerosAt (groups : List Nat) : Nat := (groups.takeWhile (· = 0)).length

def longestZeros (groups : List Nat) : Nat × Nat :=
  (List.range groups.length).foldl (fun (start, length) i =>
    let n := zerosAt (groups.drop i)
    if length < n then (i, n) else (start, length)) (0, 0)

def text : Address → String
  | .v4 a b c d => v4Text a b c d
  | .v6 [0, 0, 0, 0, 0, 0xFFFF, g, h] => "::ffff:" ++ v4Text (g / 256) (g % 256) (h / 256) (h % 256)
  | .v6 groups =>
    match longestZeros groups with
    | (start, length) =>
      if length < 2 then groupsText groups
      else groupsText (groups.take start) ++ "::" ++ groupsText (groups.drop (start + length))

def withPort (port : Nat) : Address → String
  | .v4 a b c d => s!"{v4Text a b c d}:{port}"
  | .v6 groups => s!"[{(Address.v6 groups).text}]:{port}"

end Address
end RowQuery.Server
