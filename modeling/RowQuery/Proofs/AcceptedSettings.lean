import Mathlib
import RowQuery.Proofs.Attempts
import RowQuery.Settings.Basic

/-!
# Which settings are accepted

Of each setting the first that is present counts, and it has to pass its own check: a good one of a
lower layer does not help. The checks have an order, and the first that fails is the one reported.
What is accepted is what was given, but for the blanks around the key and the slashes behind the
base URL.
-/
namespace RowQuery.Settings

section Present
variable {α : Type}

def present (upper lower : Option α) (default : α) : α :=
  match upper, lower with
  | some a, _ => a
  | none, some a => a
  | none, none => default

theorem getD_orElse (upper lower : Option α) (default : α) :
    (upper <|> lower).getD default = present upper lower default := by
  cases upper <;> cases lower <;> rfl

end Present

/-- What the sources come to before any check. -/
structure Candidate where
  key : Option String
  host : String
  port : Nat
  baseUrl : String
  model : String
  timeoutSeconds : Nat
  maxAttempts : Nat
  policy : Generation.Policy
  origins : List String
  debug : Bool

def Candidate.ofSources (command : Layer) (file : File) (key : Option String) : Candidate where
  key := key
  host := present command.host file.layer.host defaultHost
  port := present command.port file.layer.port defaultPort
  baseUrl := present command.baseUrl file.layer.baseUrl defaultBaseUrl
  model := present command.model file.layer.model defaultModel
  timeoutSeconds := present command.timeoutSeconds file.layer.timeoutSeconds defaultTimeoutSeconds
  maxAttempts := present command.maxAttempts file.layer.maxAttempts defaultMaxAttempts
  policy := present command.policy file.layer.policy .fail
  origins := present none file.origins defaultOrigins
  debug := command.debug || file.layer.debug

namespace Error

def inOrder : List Error :=
  [.missingKey, .emptyHost, .zeroPort, .emptyBaseUrl, .emptyModel, .zeroTimeout,
    .attemptsOutOfRange]

/-- The error is true of the candidate, whatever else is. -/
def Applies (c : Candidate) : Error → Prop
  | .missingKey => ∀ k ∈ c.key, ∀ x ∈ k.toList, Text.isBlank x = true
  | .emptyHost => c.host = ""
  | .zeroPort => c.port = 0
  | .emptyBaseUrl => ∀ x ∈ c.baseUrl.toList, x = '/'
  | .emptyModel => c.model = ""
  | .zeroTimeout => c.timeoutSeconds = 0
  | .attemptsOutOfRange => ¬(1 ≤ c.maxAttempts ∧ c.maxAttempts ≤ 10)

instance (c : Candidate) : DecidablePred (Applies c)
  | .missingKey => inferInstanceAs (Decidable (∀ k ∈ c.key, ∀ x ∈ k.toList, _ = _))
  | .emptyHost => inferInstanceAs (Decidable (_ = _))
  | .zeroPort => inferInstanceAs (Decidable (_ = _))
  | .emptyBaseUrl => inferInstanceAs (Decidable (∀ x ∈ c.baseUrl.toList, _ = _))
  | .emptyModel => inferInstanceAs (Decidable (_ = _))
  | .zeroTimeout => inferInstanceAs (Decidable (_ = _))
  | .attemptsOutOfRange => inferInstanceAs (Decidable ¬_)

def verdict (c : Candidate) (es : List Error) : Except Error Unit :=
  match es.find? (Applies c ·) with
  | some e => .error e
  | none => .ok ()

theorem verdict_cons (c : Candidate) (e : Error) (es : List Error) :
    verdict c (e :: es) = if e.Applies c then .error e else verdict c es := by
  by_cases h : e.Applies c <;> simp [verdict, h]

theorem mem_inOrder (e : Error) : e ∈ inOrder := by cases e <;> decide

end Error

/-- The settings are what the candidate has, without the blanks around the key and the slashes
behind the base URL. -/
structure MadeOf (c : Candidate) (s : Settings) : Prop where
  key : ∃ k ∈ c.key, Text.Stripped k.toList s.apiKey.reveal.toList
  host : s.host = c.host
  port : s.port = c.port
  slashes : ∃ n, c.baseUrl.toList = s.baseUrl.toList ++ List.replicate n '/'
  noSlash : s.baseUrl.toList.getLast? ≠ some '/'
  model : s.model = c.model
  timeoutSeconds : s.timeoutSeconds = c.timeoutSeconds
  maxAttempts : s.maxAttempts = c.maxAttempts
  policy : s.policy = c.policy
  origins : s.origins = c.origins
  debug : s.debug = c.debug

theorem toList_withoutTrailingSlashes (s : String) :
    (withoutTrailingSlashes s).toList = s.toList.rdropWhile (· = '/') := by
  rw [withoutTrailingSlashes, String.toList_ofList, List.rdropWhile]

theorem exists_slashes (s : String) :
    ∃ n, s.toList = (withoutTrailingSlashes s).toList ++ List.replicate n '/' := by
  have hslashes : ∀ x ∈ s.toList.rtakeWhile (· = '/'), x = '/' := fun x hx =>
    of_decide_eq_true (List.mem_rtakeWhile_imp (p := (· = '/')) hx)
  refine ⟨(s.toList.rtakeWhile (· = '/')).length, ?_⟩
  rw [toList_withoutTrailingSlashes, ← List.eq_replicate_of_mem hslashes,
    List.rdropWhile_append_rtakeWhile]

theorem getLast?_withoutTrailingSlashes (s : String) :
    (withoutTrailingSlashes s).toList.getLast? ≠ some '/' := by
  rw [toList_withoutTrailingSlashes]
  by_cases hempty : s.toList.rdropWhile (· = '/') = []
  · rw [hempty]
    exact nofun
  · have hlast := List.rdropWhile_last_not (· = '/') s.toList hempty
    rw [List.getLast?_eq_some_getLast hempty]
    exact fun h => hlast (decide_eq_true (Option.some.inj h))

theorem usableKey?_eq_none_iff {key : Option String} :
    usableKey? key = none ↔ ∀ k ∈ key, ∀ x ∈ k.toList, Text.isBlank x = true := by
  cases key <;> simp [usableKey?, Text.isBlankText]

theorem usableKey?_eq_some {key : Option String} {apiKey : Secret}
    (h : usableKey? key = some apiKey) :
    ∃ k ∈ key, Text.Stripped k.toList apiKey.reveal.toList := by
  cases key with
  | none => cases h
  | some k =>
    rw [usableKey?] at h
    split at h
    · cases h
    · obtain rfl := Option.some.inj h
      refine ⟨k, rfl, ?_⟩
      rw [Text.trim, String.toList_ofList]
      exact Text.stripped_trimChars k.toList

theorem madeOf_ofLayer (command : Layer) (file : File) {key : Option String} {apiKey : Secret}
    (h : usableKey? key = some apiKey) :
    MadeOf (.ofSources command file key)
      (ofLayer (command.above file.layer) file.origins apiKey) where
  key := usableKey?_eq_some h
  host := getD_orElse ..
  port := getD_orElse ..
  slashes := by
    have hurl : (Candidate.ofSources command file key).baseUrl =
        (command.above file.layer).baseUrl.getD defaultBaseUrl := (getD_orElse ..).symm
    rw [hurl]
    exact exists_slashes _
  noSlash := getLast?_withoutTrailingSlashes _
  model := getD_orElse ..
  timeoutSeconds := getD_orElse ..
  maxAttempts := getD_orElse ..
  policy := getD_orElse ..
  origins := getD_orElse none ..
  debug := rfl

namespace MadeOf
variable {c : Candidate} {s : Settings}

theorem baseUrl_eq_empty_iff (h : MadeOf c s) :
    s.baseUrl = "" ↔ ∀ x ∈ c.baseUrl.toList, x = '/' := by
  obtain ⟨n, hslashes⟩ := h.slashes
  rw [hslashes]
  constructor
  · intro hempty x hx
    rw [hempty, String.toList_empty, List.nil_append] at hx
    exact List.eq_of_mem_replicate hx
  · intro hall
    by_contra hne
    have hlist : s.baseUrl.toList ≠ [] := fun h => hne (String.toList_eq_nil_iff.mp h)
    refine h.noSlash ?_
    rw [List.getLast?_eq_some_getLast hlist,
      hall _ (List.mem_append_left _ (List.getLast_mem hlist))]

theorem check_eq (h : MadeOf c s) : s.check = Error.verdict c Error.inOrder.tail := by
  have hattempts : (s.maxAttempts = 0 ∨ maxAttemptsLimit < s.maxAttempts) ↔
      Error.attemptsOutOfRange.Applies c := by
    simp only [Error.Applies, ← h.maxAttempts, maxAttemptsLimit]
    omega
  simp only [Error.inOrder, List.tail_cons, Error.verdict_cons]
  refine if_congr (h.host ▸ Iff.rfl) rfl (if_congr (h.port ▸ Iff.rfl) rfl ?_)
  refine if_congr h.baseUrl_eq_empty_iff rfl (if_congr (h.model ▸ Iff.rfl) rfl ?_)
  exact if_congr (h.timeoutSeconds ▸ Iff.rfl) rfl (if_congr hattempts rfl rfl)

theorem exists_last (h : MadeOf c s) (usable : ¬Error.emptyBaseUrl.Applies c) :
    ∃ front last, last ≠ '/' ∧
      s.service.endpoint.toList = front ++ last :: "/chat/completions".toList := by
  have hlist : s.baseUrl.toList ≠ [] := fun hempty =>
    usable (h.baseUrl_eq_empty_iff.mp (String.toList_eq_nil_iff.mp hempty))
  refine ⟨s.baseUrl.toList.dropLast, s.baseUrl.toList.getLast hlist, fun hlast => ?_, ?_⟩
  · exact h.noSlash (hlast ▸ List.getLast?_eq_some_getLast hlist)
  · rw [List.append_cons, List.dropLast_concat_getLast]
    exact String.toList_append

theorem attempts_eq (h : MadeOf c s) (usable : ¬Error.attemptsOutOfRange.Applies c) :
    s.generation.attempts = s.maxAttempts ∧ s.maxAttempts ≤ 10 := by
  obtain ⟨hleast, hmost⟩ := not_not.mp usable
  rw [← h.maxAttempts] at hleast hmost
  exact ⟨max_eq_left hleast, hmost⟩

end MadeOf

structure Layer.Usable (l : Layer) : Prop where
  host : l.host ≠ some ""
  port : l.port ≠ some 0
  baseUrl : ∀ u ∈ l.baseUrl, ∃ x ∈ u.toList, x ≠ '/'
  model : l.model ≠ some ""
  timeoutSeconds : l.timeoutSeconds ≠ some 0
  maxAttempts : ∀ n ∈ l.maxAttempts, 1 ≤ n ∧ n ≤ 10

variable {command : Layer} {file : File} {key : Option String}

theorem usable_of_not_applies (h : ∀ e : Error, ¬e.Applies (.ofSources command file key)) :
    command.Usable where
  host hhost := h .emptyHost (by rw [Error.Applies, Candidate.ofSources, hhost]; rfl)
  port hport := h .zeroPort (by rw [Error.Applies, Candidate.ofSources, hport]; rfl)
  baseUrl u hu := by
    by_contra hslashes
    refine h .emptyBaseUrl fun x hx => by_contra fun hne => hslashes ⟨x, ?_, hne⟩
    rw [Candidate.ofSources, Option.mem_def.mp hu] at hx
    exact hx
  model hmodel := h .emptyModel (by rw [Error.Applies, Candidate.ofSources, hmodel]; rfl)
  timeoutSeconds htimeout :=
    h .zeroTimeout (by rw [Error.Applies, Candidate.ofSources, htimeout]; rfl)
  maxAttempts n hn := by
    have hrange := not_not.mp (h .attemptsOutOfRange)
    rw [Candidate.ofSources, Option.mem_def.mp hn] at hrange
    exact hrange

theorem ofSources_cases (command : Layer) (file : File) (key : Option String) :
    let c := Candidate.ofSources command file key
    (∃ e, ofSources command file key = .error e ∧
      Error.inOrder.find? (Error.Applies c ·) = some e) ∨
    ∃ s, ofSources command file key = .ok s ∧ MadeOf c s ∧
      Error.inOrder.find? (Error.Applies c ·) = none := by
  intro c
  cases hkey : usableKey? key with
  | none =>
    have hmissing : Error.missingKey.Applies c := usableKey?_eq_none_iff.mp hkey
    refine .inl ⟨.missingKey, by rw [ofSources, hkey], ?_⟩
    exact List.find?_cons_of_pos (decide_eq_true hmissing)
  | some apiKey =>
    have hmade := madeOf_ofLayer command file hkey
    have hpresent : ¬Error.missingKey.Applies c := fun hmissing =>
      nomatch hkey.symm.trans (usableKey?_eq_none_iff.mpr hmissing)
    have hrest : Error.inOrder.find? (Error.Applies c ·) =
        Error.inOrder.tail.find? (Error.Applies c ·) :=
      List.find?_cons_of_neg (by simpa using hpresent)
    rw [ofSources, hkey, hrest]
    simp only [hmade.check_eq, Error.verdict]
    cases hfirst : Error.inOrder.tail.find? (Error.Applies c ·) with
    | some e => exact .inl ⟨e, rfl, rfl⟩
    | none => exact .inr ⟨_, rfl, hmade, rfl⟩

/-- Sources are accepted if no check fails on what they come to, and then they are what they came
to; else the error is the first that applies. -/
theorem sources_checked (command : Layer) (file : File) (key : Option String) :
    let c := Candidate.ofSources command file key
    ((∃ s, ofSources command file key = .ok s) ↔ ∀ e : Error, ¬e.Applies c) ∧
    (∀ e, ofSources command file key = .error e ↔
      Error.inOrder.find? (Error.Applies c ·) = some e) ∧
    ∀ s, ofSources command file key = .ok s →
      MadeOf c s ∧ command.Usable ∧
      (s.service.endpoint = s.baseUrl ++ "/chat/completions" ∧ ∃ front last, last ≠ '/' ∧
        s.service.endpoint.toList = front ++ last :: "/chat/completions".toList) ∧
      (s.generation.attempts = s.maxAttempts ∧ s.maxAttempts ≤ 10) ∧
      ∀ query headers replies,
        (Generation.run s.generation query headers replies).requests.length ≤ s.maxAttempts := by
  intro c
  have hnone : Error.inOrder.find? (Error.Applies c ·) = none ↔ ∀ e : Error, ¬e.Applies c := by
    rw [List.find?_eq_none]
    exact ⟨fun h e => by simpa using h e (Error.mem_inOrder e), fun h e _ => by simpa using h e⟩
  -- Either the first error that applies is reported, or none applies and the settings are made.
  rcases ofSources_cases command file key with ⟨e, hfails, hfirst⟩ | ⟨s, hok, hmade, hfirst⟩
  · refine ⟨iff_of_false ?_ fun h => ?_, fun e' => ?_, fun s hs => ?_⟩
    · rintro ⟨s, hs⟩
      exact nomatch hfails.symm.trans hs
    · exact nomatch hfirst.symm.trans (hnone.mpr h)
    · rw [hfails, hfirst, Except.error.injEq, Option.some.injEq]
    · exact nomatch hfails.symm.trans hs
  · have hgood := hnone.mp hfirst
    refine ⟨iff_of_true ⟨s, hok⟩ hgood, fun e => iff_of_false ?_ ?_, fun s' hs' => ?_⟩
    · exact fun h => nomatch hok.symm.trans h
    · exact fun h => nomatch hfirst.symm.trans h
    · obtain rfl := Except.ok.inj (hok.symm.trans hs')
      obtain ⟨hattempts, hmost⟩ := hmade.attempts_eq (hgood .attemptsOutOfRange)
      refine ⟨hmade, usable_of_not_applies hgood, ⟨rfl, hmade.exists_last (hgood .emptyBaseUrl)⟩,
        ⟨hattempts, hmost⟩, fun query headers replies => ?_⟩
      exact hattempts ▸ (Generation.outcome_run s.generation query headers replies).calls_le

theorem sources_checked_over_file :
    let command : Layer := { port := some 9100, maxAttempts := some 10 }
    let bad : Layer := { port := some 9100, model := some "", maxAttempts := some 11 }
    let file : File := { layer :=
      { port := some 0, baseUrl := some "http://h/v1//", maxAttempts := some 2, debug := true } }
    let s : Settings :=
      ⟨"127.0.0.1", 9100, "http://h/v1", defaultModel, ⟨"k"⟩, 30, 10, .fail, ["*"], true⟩
    ofSources command file (some " k ") = .ok s ∧
      MadeOf (.ofSources command file (some " k ")) s ∧ command.Usable ∧
      s.service.endpoint = "http://h/v1/chat/completions" ∧ s.generation.attempts = 10 ∧
      (∀ query headers replies,
        (Generation.run s.generation query headers replies).requests.length ≤ 10) ∧
      ofSources bad file (some "k") = .error .emptyModel ∧
      Error.inOrder.find? (Error.Applies (.ofSources bad file (some "k")) ·) =
        some .emptyModel := by
  intro command bad file s
  have hok : ofSources command file (some " k ") = .ok s := by cbv
  have hfails : ofSources bad file (some "k") = .error .emptyModel := by cbv
  obtain ⟨-, -, hall⟩ := sources_checked command file (some " k ")
  obtain ⟨hmade, husable, -, ⟨hattempts, -⟩, hcalls⟩ := hall s hok
  obtain ⟨-, hbad, -⟩ := sources_checked bad file (some "k")
  exact ⟨hok, hmade, husable, by decide, hattempts, hcalls, hfails,
    (hbad .emptyModel).mp hfails⟩

end RowQuery.Settings
