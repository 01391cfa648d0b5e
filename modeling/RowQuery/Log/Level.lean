import RowQuery.Decimal

/-!
# Levels of a log

A level is written as its name, in letters of either case, or as its rank.
-/
namespace RowQuery.Log

inductive Level
  | off
  | error
  | warn
  | info
  | debug
  | trace
deriving DecidableEq, Repr

namespace Level

def rank : Level → Nat
  | .off => 0
  | .error => 1
  | .warn => 2
  | .info => 3
  | .debug => 4
  | .trace => 5

def all : List Level := [.off, .error, .warn, .info, .debug, .trace]

def name : Level → String
  | .off => "off"
  | .error => "error"
  | .warn => "warn"
  | .info => "info"
  | .debug => "debug"
  | .trace => "trace"

def label (l : Level) : String := l.name.toUpper

def readRank? (cs : List Char) : Option Nat :=
  let digits :=
    match cs with
    | '+' :: cs => cs
    | cs => cs
  if digits ≠ [] ∧ digits.all Char.isDigit then some (Decimal.ofDigits digits) else none

def read? (text : String) : Option Level :=
  match (readRank? text.toList).bind fun n => all.find? (·.rank = n) with
  | some l => some l
  | none => all.find? (·.name = text.toLower)

end Level
end RowQuery.Log
