import RowQuery.Text.CaseTable

/-!
# Lower case

The lower-case form of a text. One character, `İ`, becomes two, and a capital sigma becomes the
final form `ς` at the end of a word: when the nearest character before it that matters is cased and
the nearest one after it is not.
-/
namespace RowQuery.Text

def lowercaseChar (c : Char) : List Char :=
  if c.toNat < 128 then [c.toLower]
  else if c = 'İ' then ['i', '\u0307']
  else [mappedLowercase c]

def startsCased (cs : List Char) : Bool :=
  match cs.dropWhile isCaseIgnorable with
  | [] => false
  | c :: _ => isCased c

/-- The form of a capital sigma between the characters before it, nearest first, and those after. -/
def lowercaseSigma (before after : List Char) : Char :=
  if startsCased before && !startsCased after then 'ς' else 'σ'

def lowercaseIn (before : List Char) (c : Char) (after : List Char) : List Char :=
  if c = 'Σ' then [lowercaseSigma before after] else lowercaseChar c

/-- Lower-cases what is left, given what is done and what stands before, both nearest first. -/
def lowercaseOnto (done before : List Char) : List Char → List Char
  | [] => done.reverse
  | c :: after => lowercaseOnto ((lowercaseIn before c after).reverse ++ done) (c :: before) after

def lowercaseChars (cs : List Char) : List Char := lowercaseOnto [] [] cs

def lowercase (s : String) : String := String.ofList (lowercaseChars s.toList)

def occursIn (needle : List Char) : List Char → Bool
  | [] => needle.isEmpty
  | c :: cs => needle.isPrefixOf (c :: cs) || occursIn needle cs

theorem occursIn_iff {needle cs : List Char} : occursIn needle cs = true ↔ needle <:+: cs := by
  induction cs with
  | nil => simp [occursIn]
  | cons c cs ih => simp [occursIn, ih, List.infix_cons_iff]

end RowQuery.Text
