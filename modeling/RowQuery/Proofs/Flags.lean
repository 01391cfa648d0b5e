import Mathlib
import RowQuery.CommandLine.Reader

/-!
# What a command line gives

Which words are flags, and with which texts, can be said without looking at any value. Reading a
command line adds its flags to what is given, one after another; a value that waits to be looked at
is held back until then. So of a command line that is read, every parameter has the value of its
last flag, or else of its variable.
-/
namespace RowQuery.CommandLine

theorem exists_of_bind {ε α β : Type} {r : Except ε α} {f : α → Except ε β} {b : β}
    (h : (r >>= f) = .ok b) : ∃ a, r = .ok a ∧ f a = .ok b := by
  cases r with
  | error e => cases h
  | ok a => exact ⟨a, rfl, h⟩

inductive Setting
  | text (s : String)
  | number (n : Nat)
  | switch (on : Bool)
  | policy (p : Generation.Policy)
deriving DecidableEq, Repr

def Parameter.reads (p : Parameter) (text : String) : Except Fault Setting :=
  match p with
  | .host | .baseUrl | .model => .ok (.text text)
  | .config => (readPath text).map .text
  | .port => (readNatural 16 true text).map .number
  | .timeoutSeconds => (readNatural 64 false text).map .number
  | .maxAttempts => (readNatural 32 true text).map .number
  | .debug => (readFlag text).map .switch
  | .policy => (readPolicy text).map .policy

def Parameter.Gives (p : Parameter) (text : Option String) (value : Option Setting) : Prop :=
  Option.Rel (fun text v => p.reads text = .ok v) text value

theorem Parameter.Gives.orElse {p : Parameter} {text text' : Option String}
    {value value' : Option Setting} (h : p.Gives text value) (h' : p.Gives text' value') :
    p.Gives (text <|> text') (value <|> value') := by
  cases h with
  | some h => exact .some h
  | none => exact h'

theorem Parameter.Gives.eq_none {p : Parameter} {text : Option String} (h : p.Gives text none) :
    text = none := by
  cases h
  rfl

theorem Parameter.Gives.exists_text {p : Parameter} {text : Option String} {v : Setting}
    (h : p.Gives text (some v)) : ∃ t, text = some t ∧ p.reads t = .ok v := by
  cases h with
  | some h => exact ⟨_, rfl, h⟩

theorem Parameter.Gives.exists_value {p : Parameter} {text : String} {value : Option Setting}
    (h : p.Gives (some text) value) : ∃ v, p.reads text = .ok v ∧ value = some v := by
  cases h with
  | some h => exact ⟨_, h, rfl⟩

namespace Given
variable {g g' : Given} {p : Parameter}

def setting? (g : Given) : Parameter → Option Setting
  | .host => g.host.map .text
  | .port => g.port.map .number
  | .debug => g.debug.map .switch
  | .config => g.config.map .text
  | .baseUrl => g.baseUrl.map .text
  | .model => g.model.map .text
  | .timeoutSeconds => g.timeoutSeconds.map .number
  | .maxAttempts => g.maxAttempts.map .number
  | .policy => g.policy.map .policy

theorem isSome_setting? (g : Given) (p : Parameter) : (g.setting? p).isSome = g.has p := by
  cases p <;> exact Option.isSome_map

theorem setting?_empty (p : Parameter) : ({} : Given).setting? p = none := by
  cases p <;> rfl

theorem setting?_above (upper lower : Given) (p : Parameter) :
    (upper.above lower).setting? p = (upper.setting? p <|> lower.setting? p) := by
  cases p <;> simp [setting?, above, Option.map_or]

theorem setting?_of_set {text : String} (h : g.set p text = .ok g') :
    (∃ v, p.reads text = .ok v ∧ g'.setting? p = some v) ∧
      ∀ q, q ≠ p → g'.setting? q = g.setting? q := by
  -- Three values are taken as they stand, the others have to be read.
  cases p with
  | host | baseUrl | model =>
    cases h
    exact ⟨⟨_, rfl, rfl⟩, fun q hq => by cases q <;> first | rfl | exact absurd rfl hq⟩
  | port | debug | config | timeoutSeconds | maxAttempts | policy =>
    obtain ⟨a, ha, hg⟩ := exists_of_bind h
    cases hg
    exact ⟨⟨_, congrArg (Except.map _) ha, rfl⟩,
      fun q hq => by cases q <;> first | rfl | exact absurd rfl hq⟩

end Given

abbrev Flag := Parameter × String

def lastOf (p : Parameter) (flags : List Flag) : Option String := flags.reverse.lookup p

theorem lastOf_append (p : Parameter) (flags more : List Flag) :
    lastOf p (flags ++ more) = (lastOf p more <|> lastOf p flags) := by
  simp [lastOf, List.lookup_append]

theorem lastOf_singleton (p q : Parameter) (text : String) :
    lastOf p [(q, text)] = if p = q then some text else none := by
  by_cases h : p = q
  · simp [lastOf, h]
  · simp [lastOf, h, List.lookup_cons, beq_eq_false_iff_ne.mpr h]

namespace Given
variable {g g' : Given} {p : Parameter}

def addAll (g : Given) : List Flag → Except Fault Given
  | [] => .ok g
  | (p, text) :: flags =>
    match g.add p text with
    | .ok g => g.addAll flags
    | .error e => .error e

theorem addAll_append {flags more : List Flag} {h : Given} (hg : g.addAll flags = .ok g')
    (hg' : g'.addAll more = .ok h) : g.addAll (flags ++ more) = .ok h := by
  induction flags generalizing g with
  | nil =>
    cases hg
    exact hg'
  | cons f flags ih =>
    simp only [List.cons_append, addAll] at hg ⊢
    cases hadd : g.add f.1 f.2 with
    | error e => simp [hadd] at hg
    | ok g₁ =>
      simp only [hadd] at hg
      exact ih hg

theorem addAll_singleton {text : String} (h : g.add p text = .ok g') :
    g.addAll [(p, text)] = .ok g' := by
  simp [addAll, h]

theorem set_of_add {text : String} (h : g.add p text = .ok g') : g.set p text = .ok g' := by
  rw [add] at h
  split at h
  · cases h
  · exact h

theorem setting?_of_addAll {flags : List Flag} (h : g.addAll flags = .ok g') (p : Parameter) :
    ∃ value, p.Gives (lastOf p flags) value ∧ g'.setting? p = (value <|> g.setting? p) := by
  induction flags generalizing g with
  | nil =>
    cases h
    exact ⟨none, .none, rfl⟩
  | cons f flags ih =>
    obtain ⟨q, text⟩ := f
    simp only [addAll] at h
    cases hadd : g.add q text with
    | error e => simp [hadd] at h
    | ok g₁ =>
      simp only [hadd] at h
      obtain ⟨value, hgives, hvalue⟩ := ih h
      obtain ⟨⟨v, hreads, hv⟩, hothers⟩ := setting?_of_set (set_of_add hadd)
      -- A later flag of the parameter, if there is one, stands over this one.
      rw [← List.singleton_append, lastOf_append, lastOf_singleton]
      by_cases hq : p = q
      · subst hq
        refine ⟨value <|> some v, ?_, ?_⟩
        · rw [if_pos rfl]
          exact hgives.orElse (.some hreads)
        · rw [hvalue, hv]
          cases value <;> rfl
      · refine ⟨value, ?_, ?_⟩
        · rw [if_neg hq]
          simpa using hgives
        · rw [hvalue, hothers p hq]

theorem fillFrom_cons {environment : List (String × String)} {q : Parameter} {ps : List Parameter}
    (h : g.fillFrom environment (q :: ps) = .ok g') :
    ∃ g₁ : Given, g₁.fillFrom environment ps = .ok g' ∧
      (∀ p, p ≠ q → g₁.setting? p = g.setting? p) ∧
      ∃ value, g₁.setting? q = (g.setting? q <|> value) ∧
        (g.setting? q = none → q.Gives (environment.lookup q.variableName) value) := by
  have hhas := g.isSome_setting? q
  simp only [fillFrom] at h
  split at h
  · next text hfree htext =>
    cases hset : g.set q text with
    | error e => simp [hset] at h
    | ok g₁ =>
      simp only [hset] at h
      obtain ⟨⟨v, hreads, hv⟩, hothers⟩ := setting?_of_set hset
      rw [hfree, Option.isSome_eq_false_iff, Option.isNone_iff_eq_none] at hhas
      refine ⟨g₁, h, hothers, some v, ?_, fun _ => ?_⟩
      · rw [hv, hhas]
        rfl
      · rw [htext]
        exact .some hreads
  · next hnot =>
    refine ⟨g, h, fun _ _ => rfl, none, by simp, fun hnone => ?_⟩
    cases htext : environment.lookup q.variableName with
    | none => exact .none
    | some text =>
      rw [hnone] at hhas
      exact absurd htext (hnot text hhas.symm)

theorem setting?_of_fillFrom {environment : List (String × String)} {ps : List Parameter}
    (h : g.fillFrom environment ps = .ok g') (p : Parameter) :
    ∃ value, g'.setting? p = (g.setting? p <|> value) ∧ (g.setting? p = none →
      p.Gives (if p ∈ ps then environment.lookup p.variableName else none) value) := by
  induction ps generalizing g with
  | nil =>
    cases h
    exact ⟨none, by simp, fun _ => .none⟩
  | cons q ps ih =>
    obtain ⟨g₁, hrest, hothers, first, hfirst, hgives⟩ := fillFrom_cons h
    obtain ⟨value, hvalue, hlater⟩ := ih hrest
    by_cases hq : p = q
    · subst hq
      refine ⟨first <|> value, by rw [hvalue, hfirst]; simp [Option.or_assoc], fun hnone => ?_⟩
      have hgives := hgives hnone
      rw [if_pos List.mem_cons_self]
      cases first with
      | some v => exact hgives
      | none =>
        have hunset : environment.lookup p.variableName = none := hgives.eq_none
        -- Nothing was read for it, and a variable that is not there is not there later either.
        have hlater := hlater (by rw [hfirst, hnone]; rfl)
        rw [hunset, ite_self] at hlater
        rw [hunset]
        simpa using hlater
    · rw [hothers p hq] at hvalue hlater
      refine ⟨value, hvalue, fun hnone => ?_⟩
      simpa [hq] using hlater hnone

end Given

/-- The flags that words give, when a parameter may be waiting for its text. -/
def flagsFrom (waiting : Option Parameter) : List String → List Flag
  | [] => []
  | word :: words =>
    match Word.ofText word with
    | .escape => []
    | .long name value =>
      match Parameter.ofLongName? name, value with
      | some .debug, _ => (.debug, "true") :: flagsFrom none words
      | some p, some text => (p, text) :: flagsFrom none words
      | some p, none => flagsFrom (some p) words
      | none, _ => flagsFrom none words
    | .short letters =>
      match letters.head?.bind Parameter.ofLetter?, letters.tail with
      | some p, [] => flagsFrom (some p) words
      | some p, '=' :: text => (p, String.ofList text) :: flagsFrom none words
      | some p, text => (p, String.ofList text) :: flagsFrom none words
      | none, _ => flagsFrom waiting words
    | .plain =>
      match waiting with
      | some p => (p, word) :: flagsFrom none words
      | none => flagsFrom none words

def flags (words : List String) : List Flag := flagsFrom none words

namespace Level
variable {l l₁ l₂ : Level} {p : Parameter} {text word : String} {words : List String}
  {own more : List Flag} {scope : Scope}

def waiting (l : Level) : Option Parameter :=
  match l.pending with
  | some (p, none) => some p
  | _ => none

def held (l : Level) : List Flag :=
  match l.pending with
  | some (p, some text) => [(p, text)]
  | _ => []

def ahead (l : Level) (words : List String) : List Flag :=
  if l.isEscaped then [] else flagsFrom l.waiting words

/-- From one level to the other the flags have been read, and all of them but one that is held have
been added to what is given. -/
def Advances (l : Level) (own : List Flag) (l₁ : Level) : Prop :=
  ∃ moved, l.held ++ own = moved ++ l₁.held ∧ l.given.addAll moved = .ok l₁.given

theorem Advances.trans (h : l.Advances own l₁) (h' : l₁.Advances more l₂) :
    l.Advances (own ++ more) l₂ := by
  obtain ⟨moved, hheld, hadded⟩ := h
  obtain ⟨moved', hheld', hadded'⟩ := h'
  refine ⟨moved ++ moved', ?_, Given.addAll_append hadded hadded'⟩
  rw [← List.append_assoc, hheld, List.append_assoc, hheld', List.append_assoc]

theorem advances_self (l : Level) : l.Advances [] l := ⟨[], List.append_nil _, rfl⟩

theorem check_eq_ok {α : Type} {r : Except Fault α} {a : α} (h : check r = .ok a) : r = .ok a := by
  cases r with
  | error e => cases h
  | ok b => exact congrArg Except.ok (Except.ok.inj h)

theorem settle_eq_ok (h : l.settle = .ok l₁) :
    l.Advances [] l₁ ∧ l.waiting = none ∧ l₁.pending = none ∧ l₁.isEscaped = l.isEscaped := by
  rw [settle] at h
  split at h
  · next hpending =>
    cases h
    exact ⟨advances_self l, by rw [waiting, hpending], hpending, rfl⟩
  · cases h
  · next p text hpending =>
    obtain ⟨g, hg, hl⟩ := exists_of_bind h
    cases hl
    refine ⟨⟨[(p, text)], ?_, Given.addAll_singleton (check_eq_ok hg)⟩, by rw [waiting, hpending],
      rfl, rfl⟩
    rw [held, hpending]
    rfl

theorem add_eq_ok (h : l.add p text = .ok l₁) :
    l.Advances [(p, text)] l₁ ∧ l₁.waiting = none ∧ l₁.isEscaped = l.isEscaped := by
  obtain ⟨l₀, hsettle, hrest⟩ := exists_of_bind h
  obtain ⟨g, hg, hl⟩ := exists_of_bind hrest
  cases hl
  obtain ⟨hadvances, -, hpending, hescaped⟩ := settle_eq_ok hsettle
  have hheld : l₀.held = [] := by rw [held, hpending]
  refine ⟨hadvances.trans ⟨[(p, text)], ?_, Given.addAll_singleton (check_eq_ok hg)⟩, ?_, hescaped⟩
  · rw [hheld, held, hpending]
    rfl
  · rw [waiting, hpending]

theorem await_eq_ok (h : l.await p = .ok l₁) :
    l.Advances [] l₁ ∧ l₁.waiting = some p ∧ l₁.isEscaped = l.isEscaped := by
  obtain ⟨l₀, hsettle, hrest⟩ := exists_of_bind h
  cases hrest
  obtain ⟨hadvances, -, hpending, hescaped⟩ := settle_eq_ok hsettle
  have hheld : l₀.held = [] := by rw [held, hpending]
  have hwaits : l₀.Advances [] { l₀ with pending := some (p, none) } := by
    refine ⟨[], ?_, rfl⟩
    rw [hheld]
    rfl
  exact ⟨hadvances.trans hwaits, rfl, hescaped⟩

theorem stop_ne_ok {s : Stop} : l.stop s ≠ .ok l₁ := by
  intro h
  obtain ⟨-, -, herror⟩ := exists_of_bind h
  cases herror

def Takes (l : Level) (word : String) (words : List String) (l₁ : Level) : Prop :=
  ∃ own, l.ahead (word :: words) = own ++ l₁.ahead words ∧ l.Advances own l₁

theorem ahead_of_open (h : l.isEscaped = false) (words : List String) :
    l.ahead words = flagsFrom l.waiting words := by
  simp [ahead, h]

theorem takes_of_add (h : l.add p text = .ok l₁)
    (hopen : l.isEscaped = false)
    (hflags : flagsFrom l.waiting (word :: words) = (p, text) :: flagsFrom none words) :
    l.Takes word words l₁ := by
  obtain ⟨hadvances, hwaiting, hescaped⟩ := add_eq_ok h
  refine ⟨[(p, text)], ?_, hadvances⟩
  rw [ahead_of_open hopen, hflags, ahead_of_open (hescaped.trans hopen), hwaiting]
  rfl

theorem takes_of_await (h : l.await p = .ok l₁) (hopen : l.isEscaped = false)
    (hflags : flagsFrom l.waiting (word :: words) = flagsFrom (some p) words) :
    l.Takes word words l₁ := by
  obtain ⟨hadvances, hwaiting, hescaped⟩ := await_eq_ok h
  refine ⟨[], ?_, hadvances⟩
  rw [ahead_of_open hopen, hflags, ahead_of_open (hescaped.trans hopen), hwaiting]
  rfl

theorem takes_of_long {name : String} {value : Option String} (hopen : l.isEscaped = false)
    (hword : Word.ofText word = .long name value) (h : l.readLong scope name value = .ok l₁) :
    l.Takes word words l₁ := by
  unfold readLong at h
  cases hname : Parameter.ofLongName? name with
  | none =>
    simp only [hname] at h
    split at h
    · exact absurd h stop_ne_ok
    · cases h
    · cases h
  | some p =>
    cases p with
    | debug =>
      cases value with
      | none =>
        simp only [hname] at h
        exact takes_of_add h hopen (by simp only [flagsFrom, hword, hname])
      | some text =>
        simp only [hname] at h
        cases h
    | _ =>
      cases value with
      | none =>
        simp only [hname] at h
        exact takes_of_await h hopen (by simp only [flagsFrom, hword, hname])
      | some text =>
        simp only [hname] at h
        exact takes_of_add h hopen (by simp only [flagsFrom, hword, hname])

theorem takes_of_short {letters : List Char} (hopen : l.isEscaped = false)
    (hword : Word.ofText word = .short letters) (h : l.readShort scope letters = .ok l₁) :
    l.Takes word words l₁ := by
  unfold readShort at h
  split at h
  · cases h
    refine ⟨[], ?_, advances_self l⟩
    rw [ahead_of_open hopen, ahead_of_open hopen]
    simp [flagsFrom, hword]
  · next c rest =>
    split at h
    · next p hletter =>
      have hhead : (c :: rest).head?.bind Parameter.ofLetter? = some p := hletter
      split at h
      · exact takes_of_await h hopen (by simp only [flagsFrom, hword, hhead, List.tail_cons])
      · exact takes_of_add h hopen (by simp only [flagsFrom, hword, hhead, List.tail_cons])
      · next hnil heq =>
        refine takes_of_add h hopen ?_
        simp only [flagsFrom, hword, hhead, List.tail_cons]
    · next hletter =>
      split at h
      · exact absurd h stop_ne_ok
      · split at h
        · exact absurd h stop_ne_ok
        · cases h

theorem positional_eq_ok (h : l.readPositional scope word = .ok l₁) :
    l.Advances [] l₁ ∧ l.waiting = none ∧ l₁.waiting = none ∧ l₁.isEscaped = l.isEscaped := by
  cases scope with
  | main => cases h
  | start => cases h
  | prompt =>
    obtain ⟨l₀, hsettle, hrest⟩ := exists_of_bind h
    cases hrest
    obtain ⟨hadvances, hwaiting, hpending, hescaped⟩ := settle_eq_ok hsettle
    refine ⟨hadvances, hwaiting, ?_, hescaped⟩
    rw [waiting, hpending]

theorem takes_of_readWord (h : l.readWord scope word = .ok l₁) (words : List String) :
    l.Takes word words l₁ := by
  unfold readWord at h
  split at h
  -- Behind the escape every word is positional, so no flags are ahead any more.
  · next hescaped =>
    obtain ⟨hadvances, -, -, hescaped'⟩ := positional_eq_ok h
    refine ⟨[], ?_, hadvances⟩
    rw [ahead, if_pos hescaped, ahead, if_pos (hescaped'.trans hescaped)]
    rfl
  · next hescaped =>
    have hopen : l.isEscaped = false := Bool.eq_false_iff.mpr hescaped
    split at h
    · next hword =>
      cases h
      refine ⟨[], ?_, ⟨[], List.append_nil _, rfl⟩⟩
      rw [ahead_of_open hopen]
      simp [flagsFrom, hword, ahead]
    · next hword => exact takes_of_long hopen hword h
    · next hword => exact takes_of_short hopen hword h
    · next p hword hpending =>
      cases h
      have hwaiting : l.waiting = some p := by rw [waiting, hpending]
      refine ⟨[(p, word)], ?_, ⟨[], ?_, rfl⟩⟩
      · rw [ahead_of_open hopen, hwaiting]
        simp [flagsFrom, hword, ahead, hopen, waiting]
      · rw [held, hpending]
        rfl
    · next hword _ =>
      obtain ⟨hadvances, hwaiting, hwaiting', hescaped'⟩ := positional_eq_ok h
      refine ⟨[], ?_, hadvances⟩
      rw [ahead_of_open hopen, ahead_of_open (hescaped'.trans hopen), hwaiting, hwaiting']
      simp only [flagsFrom, hword, List.nil_append]

theorem open_of_admitsCommand (h : l.admitsCommand scope = true) :
    scope = .main ∧ l.isEscaped = false ∧ l.waiting = none := by
  obtain ⟨given, headers, pending, isEscaped⟩ := l
  simp only [admitsCommand, Bool.and_eq_true, Bool.not_eq_true', decide_eq_true_eq] at h
  refine ⟨h.1.1, h.1.2, ?_⟩
  cases pending with
  | none => rfl
  | some flag =>
    obtain ⟨p, _ | text⟩ := flag
    · simp at h
    · rfl

theorem ahead_of_command (hopen : l.isEscaped = false) (hwaiting : l.waiting = none)
    (hword : Word.ofText word = .plain) : l.ahead (word :: words) = flags words := by
  rw [ahead_of_open hopen, hwaiting]
  simp only [flagsFrom, hword, flags]

theorem readWords_eq_ok {next : Option (Scope × List String)}
    (h : l.readWords scope words = .ok (l₁, next)) :
    ∃ own, l.ahead words = own ++ (next.map fun n => flags n.2).getD [] ∧ l.Advances own l₁ := by
  -- Word by word: the flags ahead are those of the word and those that are ahead behind it.
  induction words generalizing l with
  | nil =>
    cases h
    refine ⟨[], ?_, advances_self _⟩
    simp [ahead, flagsFrom]
  | cons word words ih =>
    unfold readWords at h
    split at h
    · next hcommand =>
      obtain ⟨-, hopen, hwaiting⟩ := open_of_admitsCommand (Bool.and_eq_true_iff.mp hcommand).1
      split at h
      · next hword =>
        cases h
        exact ⟨[], ahead_of_command hopen hwaiting (hword ▸ rfl), advances_self _⟩
      · split at h
        · next hword =>
          cases h
          exact ⟨[], ahead_of_command hopen hwaiting (hword ▸ rfl), advances_self _⟩
        · cases h
    · cases hread : l.readWord scope word with
      | error s => simp [hread] at h
      | ok l₀ =>
        simp only [hread] at h
        obtain ⟨own, hahead, hadvances⟩ := takes_of_readWord hread words
        obtain ⟨rest, hahead', hadvances'⟩ := ih h
        refine ⟨own ++ rest, ?_, hadvances.trans hadvances'⟩
        rw [hahead, hahead', List.append_assoc]

theorem scopes_of_readWords {next : Scope} {rest : List String}
    (h : l.readWords scope words = .ok (l₁, some (next, rest))) : scope = .main ∧ next ≠ .main := by
  induction words generalizing l with
  | nil => cases h
  | cons word words ih =>
    unfold readWords at h
    split at h
    · next hcommand =>
      have hscope := (open_of_admitsCommand (Bool.and_eq_true_iff.mp hcommand).1).1
      split at h
      · cases h
        exact ⟨hscope, by decide⟩
      · split at h
        · cases h
          exact ⟨hscope, by decide⟩
        · cases h
    · cases hread : l.readWord scope word with
      | error s => simp [hread] at h
      | ok l₀ =>
        simp only [hread] at h
        exact ih h

theorem complete_eq_ok {environment : List (String × String)} {full : Given}
    (h : l₁.complete environment = .ok (full, l₂)) (hadvances : l.Advances own l₁) :
    l.given.addAll (l.held ++ own) = .ok l₂.given ∧
      l₂.given.withVariables environment = .ok full := by
  obtain ⟨l₀, hsettle, hrest⟩ := exists_of_bind h
  obtain ⟨g, hvariables, hpair⟩ := exists_of_bind hrest
  cases hpair
  obtain ⟨hsettled, -, hpending, -⟩ := settle_eq_ok hsettle
  -- What was held until now has been added as well.
  obtain ⟨moved, hheld, hadded⟩ := hadvances.trans hsettled
  have hnone : l₂.held = [] := by rw [held, hpending]
  rw [hnone, List.append_nil, List.append_nil] at hheld
  rw [hheld]
  exact ⟨hadded, check_eq_ok hvariables⟩

theorem readCommand_eq_ok {environment : List (String × String)} {given : Given}
    {command : Command} (hscope : scope ≠ .main)
    (h : readCommand environment scope words = .ok (given, command)) :
    ({} : Given).addAll (flags words) = .ok given := by
  obtain ⟨⟨l, next⟩, hwords, hrest⟩ := exists_of_bind h
  obtain ⟨⟨full, l'⟩, hcomplete, hpair⟩ := exists_of_bind hrest
  have hnext : next = none :=
    Option.eq_none_iff_forall_ne_some.mpr fun _ hsome =>
      hscope (scopes_of_readWords (hsome ▸ hwords)).1
  obtain ⟨own, hown, hadvances⟩ := readWords_eq_ok hwords
  rw [hnext, Option.map_none, Option.getD_none, List.append_nil] at hown
  have hflags : flags words = own := hown
  have hadded : ({} : Given).addAll own = .ok l'.given := (complete_eq_ok hcomplete hadvances).1
  have hgiven : l'.given = given := by
    dsimp only at hpair
    split at hpair
    · cases hpair
    · cases hpair
      rfl
    · cases hpair
      rfl
  rw [hflags, hadded, hgiven]

end Level

/-- The text that a command line and its variables give to a parameter: the one of its last flag, or
else the one of its variable. -/
def supplied (environment : List (String × String)) (words : List String) (p : Parameter) :
    Option String :=
  lastOf p (flags words) <|> environment.lookup p.variableName

variable {environment : List (String × String)} {words : List String}

theorem gives_of_flags {own : List Flag} {given : Given}
    (hgiven : ({} : Given).addAll own = .ok given) (p : Parameter) :
    p.Gives (lastOf p own) (given.setting? p) := by
  obtain ⟨value, hown, hsetting⟩ := Given.setting?_of_addAll hgiven p
  rw [hsetting, Given.setting?_empty]
  simpa using hown

theorem gives_of_place {own : List Flag} {given full : Given}
    (hgiven : ({} : Given).addAll own = .ok given)
    (hfull : given.withVariables environment = .ok full) (p : Parameter) :
    p.Gives (lastOf p own <|> environment.lookup p.variableName) (full.setting? p) := by
  have hown : p.Gives (lastOf p own) (given.setting? p) := gives_of_flags hgiven p
  obtain ⟨more, hmore, hunset⟩ := Given.setting?_of_fillFrom hfull p
  rw [if_pos p.mem_all] at hunset
  rw [hmore]
  cases hvalue : given.setting? p with
  | none =>
    rw [hvalue] at hown
    rw [hown.eq_none]
    exact hunset hvalue
  | some v =>
    rw [hvalue] at hown
    obtain ⟨t, htext, hreads⟩ := hown.exists_text
    rw [htext]
    exact .some hreads

theorem gives_of_read {i : Invocation} (h : read environment words = .ok i) (p : Parameter) :
    p.Gives (supplied environment words p) (i.given.setting? p) := by
  obtain ⟨⟨main, next⟩, hwords, hrest⟩ := exists_of_bind h
  obtain ⟨own, hown, hadvances⟩ := Level.readWords_eq_ok hwords
  have hflags : flags words = own ++ (next.map fun n => flags n.2).getD [] := hown
  cases next with
  | none =>
    obtain ⟨⟨full, l⟩, hcomplete, hi⟩ := exists_of_bind hrest
    cases hi
    obtain ⟨hadded, hfull⟩ := Level.complete_eq_ok hcomplete hadvances
    rw [supplied, hflags, Option.map_none, Option.getD_none, List.append_nil]
    exact gives_of_place hadded hfull p
  | some place =>
    obtain ⟨scope, rest⟩ := place
    obtain ⟨⟨given, command⟩, hcommand, hrest'⟩ := exists_of_bind hrest
    obtain ⟨⟨full, l⟩, hcomplete, hi⟩ := exists_of_bind hrest'
    cases hi
    obtain ⟨hadded, hfull⟩ := Level.complete_eq_ok hcomplete hadvances
    have hgiven := Level.readCommand_eq_ok (Level.scopes_of_readWords hwords).2 hcommand
    have hsupplied : supplied environment words p =
        (lastOf p (flags rest) <|> (lastOf p own <|> environment.lookup p.variableName)) := by
      rw [supplied, hflags, Option.map_some, Option.getD_some, lastOf_append]
      simp [Option.or_assoc]
    rw [hsupplied, Given.setting?_above]
    exact (gives_of_flags hgiven p).orElse (gives_of_place hadded hfull p)

end RowQuery.CommandLine
