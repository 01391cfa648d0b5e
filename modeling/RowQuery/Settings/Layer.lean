import RowQuery.Generation

/-!
# Layers of settings

A source of settings gives some of them and leaves the others open. Of two layers the upper one
wins wherever it gives a setting; the debug flag is on when either has it on.
-/
namespace RowQuery.Settings

structure Layer where
  host : Option String := none
  port : Option Nat := none
  baseUrl : Option String := none
  model : Option String := none
  timeoutSeconds : Option Nat := none
  maxAttempts : Option Nat := none
  policy : Option Generation.Policy := none
  debug : Bool := false
deriving DecidableEq, Repr

namespace Layer

def empty : Layer := {}

def above (upper lower : Layer) : Layer where
  host := upper.host <|> lower.host
  port := upper.port <|> lower.port
  baseUrl := upper.baseUrl <|> lower.baseUrl
  model := upper.model <|> lower.model
  timeoutSeconds := upper.timeoutSeconds <|> lower.timeoutSeconds
  maxAttempts := upper.maxAttempts <|> lower.maxAttempts
  policy := upper.policy <|> lower.policy
  debug := upper.debug || lower.debug

@[simp] theorem above_empty (l : Layer) : l.above empty = l := by
  cases l
  simp [above, empty]

@[simp] theorem empty_above (l : Layer) : empty.above l = l := by
  cases l
  simp [above, empty]

theorem above_assoc (a b c : Layer) : (a.above b).above c = a.above (b.above c) := by
  simp [above, Bool.or_assoc, Option.or_assoc]

end Layer
end RowQuery.Settings
