import RowQuery.CommandLine.Parameter

/-!
# Reading a command line

Words are read from left to right. Parameters may stand before a command, with it, or both, and
those with the command win; a value that a variable gives stands under both. Each place is completed
by the variables on its own, so an unreadable variable is refused unless both places give its
parameter. A value is looked at when the next parameter comes or the words end: a word that is known
to be wrong before that goes first.
-/
namespace RowQuery.CommandLine

inductive Command
  | start
  | prompt (headers : List String)
deriving DecidableEq, Repr

inductive Stop
  | help
  | version
  | misuse (f : Fault)
deriving DecidableEq, Repr

structure Invocation where
  given : Given
  command : Option Command
deriving DecidableEq, Repr

inductive Scope
  | main
  | start
  | prompt
deriving DecidableEq, Repr

inductive Word
  | escape
  | long (name : String) (value : Option String)
  | short (letters : List Char)
  | plain

def Word.ofText (text : String) : Word :=
  match text.toList with
  | ['-', '-'] => .escape
  | '-' :: '-' :: cs =>
    let name := String.ofList (cs.takeWhile (· != '='))
    match cs.dropWhile (· != '=') with
    | [] => .long name none
    | _ :: value => .long name (some (String.ofList value))
  | '-' :: c :: cs => .short (c :: cs)
  | _ => .plain

/-- What has been read in one place. A parameter is pending until its value is looked at. -/
structure Level where
  given : Given := {}
  headers : List String := []
  pending : Option (Parameter × Option String) := none
  isEscaped : Bool := false

namespace Level

def misuse {α : Type} (f : Fault) : Except Stop α := .error (.misuse f)

def check {α : Type} (r : Except Fault α) : Except Stop α := r.mapError .misuse

def settle (l : Level) : Except Stop Level :=
  match l.pending with
  | none => .ok l
  | some (_, none) => misuse .missingValue
  | some (p, some text) => do
    return { l with given := ← check (l.given.add p text), pending := none }

def add (l : Level) (p : Parameter) (text : String) : Except Stop Level := do
  let l ← l.settle
  return { l with given := ← check (l.given.add p text) }

def await (l : Level) (p : Parameter) : Except Stop Level := do
  return { ← l.settle with pending := some (p, none) }

def stop (l : Level) (s : Stop) : Except Stop Level := do
  let _ ← l.settle
  .error s

def readLong (scope : Scope) (l : Level) (name : String) (value : Option String) :
    Except Stop Level :=
  match Parameter.ofLongName? name, value with
  | some .debug, none => l.add .debug "true"
  | some .debug, some _ => misuse .uselessValue
  | some p, none => l.await p
  | some p, some text => l.add p text
  | none, value =>
    let ending : Option Stop :=
      if name = "help" then some .help
      else if name = "version" ∧ scope = .main then some .version
      else none
    match ending, value with
    | some s, none => l.stop s
    | some _, some _ => misuse .uselessValue
    | none, _ => misuse .unknownArgument

def readShort (scope : Scope) (l : Level) : List Char → Except Stop Level
  | [] => .ok l
  | c :: rest =>
    match Parameter.ofLetter? c with
    | some p =>
      match rest with
      | [] => l.await p
      | '=' :: text => l.add p (String.ofList text)
      | text => l.add p (String.ofList text)
    | none =>
      if c = 'h' then l.stop .help
      else if c = 'V' ∧ scope = .main then l.stop .version
      else misuse .unknownArgument

def isCommandName (text : String) : Bool := text = "start" || text = "prompt" || text = "help"

def readPositional (scope : Scope) (l : Level) (text : String) : Except Stop Level :=
  match scope with
  | .main => misuse (if l.isEscaped ∧ isCommandName text then .unknownArgument else .unknownCommand)
  | .start => misuse .unknownArgument
  | .prompt => do
    let l ← l.settle
    return { l with headers := l.headers ++ [text] }

def readWord (scope : Scope) (l : Level) (text : String) : Except Stop Level :=
  if l.isEscaped then l.readPositional scope text
  else
    match Word.ofText text, l.pending with
    | .escape, _ => .ok { l with isEscaped := true }
    | .long name value, _ => l.readLong scope name value
    | .short letters, _ => l.readShort scope letters
    | .plain, some (p, none) => .ok { l with pending := some (p, some text) }
    | .plain, _ => l.readPositional scope text

def admitsCommand (scope : Scope) (l : Level) : Bool :=
  scope = .main && !l.isEscaped && !(l.pending.any (·.2.isNone))

/-- What the words behind the word `help` ask for: a command of this program, or nothing. -/
def helpOn (words : List String) : Stop :=
  match words with
  | [] => .help
  | [word] => if isCommandName word then .help else .misuse .unknownCommand
  | _ => .misuse .unknownCommand

def readWords (scope : Scope) (l : Level) :
    List String → Except Stop (Level × Option (Scope × List String))
  | [] => .ok (l, none)
  | text :: rest =>
    if l.admitsCommand scope && isCommandName text then
      if text = "start" then .ok (l, some (.start, rest))
      else if text = "prompt" then .ok (l, some (.prompt, rest))
      else .error (helpOn rest)
    else
      match l.readWord scope text with
      | .ok l => readWords scope l rest
      | .error s => .error s

def complete (environment : List (String × String)) (l : Level) : Except Stop (Given × Level) := do
  let l ← l.settle
  let full ← check (l.given.withVariables environment)
  return (full, l)

def readCommand (environment : List (String × String)) (scope : Scope) (words : List String) :
    Except Stop (Given × Command) := do
  let (l, _) ← readWords scope {} words
  let (_, l) ← l.complete environment
  match scope, l.headers with
  | .prompt, [] => misuse .missingArgument
  | .prompt, headers => return (l.given, .prompt headers)
  | _, _ => return (l.given, .start)

end Level

def read (environment : List (String × String)) (words : List String) : Except Stop Invocation := do
  let (main, next) ← Level.readWords .main {} words
  match next with
  | none =>
    let (full, _) ← main.complete environment
    return ⟨full, none⟩
  | some (scope, rest) =>
    let (given, command) ← Level.readCommand environment scope rest
    let (full, _) ← main.complete environment
    return ⟨given.above full, some command⟩

end RowQuery.CommandLine
