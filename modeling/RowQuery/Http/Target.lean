/-!
# Targets of requests

What a client asks a server for, given the URL: the path with its dot segments resolved and the
query, both with percent signs for what they cannot hold. The fragment stays with the client.
-/
namespace RowQuery.Http.Target
-- Powers are those of the core library, also where an algebra library offers its own.
attribute [local instance (high)] instPowNat

def isControl (c : Char) : Bool := c.toNat < 0x20 || 0x7E < c.toNat

def isEncodedInPath (c : Char) : Bool := isControl c || " \"<>`#?\x7b\x7d".toList.contains c

def isEncodedInQuery (c : Char) : Bool := isControl c || " \"#<>'".toList.contains c

def percent (b : UInt8) : List Char :=
  let digit (n : Nat) := (Nat.digitChar n).toUpper
  ['%', digit (b.toNat / 16), digit (b.toNat % 16)]

def encode (isEncoded : Char → Bool) (cs : List Char) : List Char :=
  cs.flatMap fun c => if isEncoded c then (String.utf8EncodeChar c).flatMap percent else [c]

def isSeparator (c : Char) : Bool := c = '/' || c = '\\'

def segments (cs : List Char) : List (List Char) := cs.splitOnP isSeparator

/-- A segment in which a dot may also be written by its code. -/
def plainDots : List Char → List Char
  | '%' :: '2' :: 'e' :: cs => '.' :: plainDots cs
  | '%' :: '2' :: 'E' :: cs => '.' :: plainDots cs
  | '.' :: cs => '.' :: plainDots cs
  | cs => cs

/-- The segments behind those done, nearest first, with a dot resolved to the segment itself and two
dots to the one above it. A path that ends in dots ends with a separator. -/
def resolve (done : List (List Char)) : List (List Char) → List (List Char)
  | [] => done.reverse
  | s :: ss =>
    let finish (done : List (List Char)) := if ss = [] then [] :: done else done
    match plainDots s with
    | ['.'] => resolve (finish done) ss
    | ['.', '.'] => resolve (finish done.tail) ss
    | _ => resolve (encode isEncodedInPath s :: done) ss

def pathText (cs : List Char) : List Char :=
  (resolve [] (segments (cs.drop 1))).flatMap ('/' :: ·)

def queryText (cs : List Char) : List Char :=
  match cs with
  | '?' :: query => '?' :: encode isEncodedInQuery query
  | _ => []

def afterScheme? (cs : List Char) : Option (List Char) :=
  let scheme := (cs.takeWhile (· != ':')).map Char.toLower
  if scheme = "http".toList ∨ scheme = "https".toList then
    match cs.dropWhile (· != ':') with
    | ':' :: rest => some (rest.dropWhile isSeparator)
    | _ => none
  else none

def isHostChar (c : Char) : Bool :=
  !isControl c && !" #%/:<>?@[\\]^|".toList.contains c

/-- Whether a text names a server: a host, and behind a colon a number of 16 bits or nothing. -/
def isServer (cs : List Char) : Bool :=
  let host := cs.takeWhile isHostChar
  let isPort (digits : List Char) : Bool :=
    digits.all Char.isDigit && digits.foldl (fun n d => 10 * n + (d.toNat - 48)) 0 < 2 ^ (16 : Nat)
  host != [] &&
    match cs.dropWhile isHostChar with
    | [] => true
    | ':' :: digits => isPort digits
    | _ => false

def isBlankOrControl (c : Char) : Bool := c.toNat ≤ 0x20

def cleaned (cs : List Char) : List Char :=
  let inner := ((cs.dropWhile isBlankOrControl).reverse.dropWhile isBlankOrControl).reverse
  inner.filter fun c => c != '\t' && c != '\n' && c != '\r'

def ofUrl? (url : String) : Option String := do
  let rest ← afterScheme? (cleaned url.toList)
  let isInServer (c : Char) : Bool := !isSeparator c && c != '?' && c != '#'
  if isServer (rest.takeWhile isInServer) then
    let whole := (rest.dropWhile isInServer).takeWhile (· != '#')
    some (String.ofList
      (pathText (whole.takeWhile (· != '?')) ++ queryText (whole.dropWhile (· != '?'))))
  else none

end RowQuery.Http.Target
