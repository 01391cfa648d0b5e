import Mathlib
import RowQuery.Proofs.Conversation
import RowQuery.Proofs.Normalization

/-!
# What policy, debug and budget change

Two conversations with the same replies, compared. Requests depend on the replies alone, so two
conversations that make the same number of calls send the same requests. The policy only decides
what a failure becomes, and debug changes the log alone. A larger budget continues a conversation
that has used its budget up, and changes nothing for one that has not.
-/
namespace RowQuery.Generation
open Chat

theorem run_requests_eq (s : Settings) (query : String) (headers : List String)
    (replies : List Reply) :
    (run s query headers replies).requests =
      (List.range (run s query headers replies).requests.length).map fun j =>
        request (conversation query headers (rejectedTexts (replies.take j))) := by
  refine List.ext_getElem (by simp) fun j hj _ => ?_
  rw [List.getElem_map, List.getElem_range]
  exact run_request (List.getElem?_eq_getElem hj)

theorem requests_continue {s t : Settings} {query : String} {headers : List String}
    {replies : List Reply}
    (h : (run s query headers replies).requests.length ≤
      (run t query headers replies).requests.length) :
    (run s query headers replies).requests <+: (run t query headers replies).requests := by
  rw [run_requests_eq s, run_requests_eq t]
  have htake : List.range (run s query headers replies).requests.length <+:
      List.range (run t query headers replies).requests.length := by
    rw [List.prefix_iff_eq_take, List.length_range, List.take_range, Nat.min_eq_left h]
  exact htake.map _

theorem Accepted.unique {reply : Reply} {filters others : Filters} (h : Accepted reply filters)
    (h' : Accepted reply others) : filters = others := by
  obtain ⟨text, warnings, htext, hread⟩ := h
  obtain ⟨text', warnings', htext', hread'⟩ := h'
  obtain rfl : text = text' := by
    rw [htext] at htext'
    exact Option.some.inj (Except.ok.inj htext')
  rw [hread] at hread'
  exact congrArg Prod.fst (Except.ok.inj hread')

def orUnfiltered : Except Error Filters → Except Error Filters
  | .ok filters => .ok filters
  | .error _ => .ok []

theorem not_accepted_error {failure : Failure} {filters : Filters} :
    ¬Accepted (.error failure) filters := by
  rintro ⟨text, warnings, htext, -⟩
  cases htext

theorem Verdict.unique {policy : Policy} {reply : Reply} {result other : Except Error Filters}
    (h : Verdict policy reply result) (h' : Verdict policy reply other) : result = other := by
  cases h with
  | accepted ha =>
    cases h' with
    | accepted hb => rw [ha.unique hb]
    | refused => exact absurd ha not_accepted_error
    | ignored => exact absurd ha not_accepted_error
  | refused =>
    cases h' with
    | accepted hb => exact absurd hb not_accepted_error
    | refused => rfl
  | ignored =>
    cases h' with
    | accepted hb => exact absurd hb not_accepted_error
    | ignored => rfl

theorem Verdict.orUnfiltered {reply : Reply} {result : Except Error Filters}
    (h : Verdict .fail reply result) : Verdict .unfiltered reply (orUnfiltered result) := by
  cases h with
  | accepted ha => exact .accepted ha
  | refused hf => exact .ignored hf

theorem Spent.unique {attempts : Nat} {policy : Policy} {result other : Except Error Filters}
    (h : Spent attempts policy result) (h' : Spent attempts policy other) : result = other := by
  cases h <;> cases h' <;> rfl

theorem Spent.orUnfiltered {attempts : Nat} {result : Except Error Filters}
    (h : Spent attempts .fail result) : Spent attempts .unfiltered (orUnfiltered result) := by
  cases h
  exact .ignored

namespace Outcome
variable {s t : Settings} {replies : List Reply} {left more : Nat} {r u : Run}

theorem same_end (h : Outcome s replies left r) (hu : Outcome t replies more u)
    (hle : left ≤ more) {k : Nat} (hk : IsLeast {i | i < left ∧ Decisive (replyAt replies i)} k) :
    r.requests.length = k + 1 ∧ u.requests.length = k + 1 ∧
      Verdict s.policy (replyAt replies k) r.result ∧
      Verdict t.policy (replyAt replies k) u.result := by
  have hk' : IsLeast {i | i < more ∧ Decisive (replyAt replies i)} k := by
    refine ⟨⟨Nat.lt_of_lt_of_le hk.1.1 hle, hk.1.2⟩, fun i hi => ?_⟩
    by_contra hlt
    exact hlt (hk.2 ⟨Nat.lt_trans (Nat.lt_of_not_le hlt) hk.1.1, hi.2⟩)
  obtain ⟨calls, -, verdict⟩ := h.decided k hk
  obtain ⟨calls', -, verdict'⟩ := hu.decided k hk'
  exact ⟨calls, calls', verdict, verdict'⟩

theorem length_le (h : Outcome s replies left r) (hu : Outcome t replies more u)
    (hle : left ≤ more) : r.requests.length ≤ u.requests.length := by
  rcases exists_first_decisive replies left with ⟨k, hk⟩ | hnone
  · obtain ⟨calls, calls', -, -⟩ := same_end h hu hle hk
    rw [calls, calls']
  · rw [(h.spent hnone).1]
    rcases exists_first_decisive replies more with ⟨k, hk⟩ | hnone'
    · rw [(hu.decided k hk).1]
      by_contra hshort
      exact hnone k (by omega) hk.1.2
    · rw [(hu.spent hnone').1]
      exact hle

end Outcome

/-- A conversation used its budget up: its result or its log says so. -/
def Run.UsedUp (r : Run) : Prop :=
  (∃ n, r.result = .error (.exhausted n)) ∨ ∃ n, .warning (.exhausted n) ∈ r.events

def Turn.events : Turn → List Event
  | .accept _ events => events
  | .stop _ => []
  | .retry _ events => events

theorem exhausted_notMem_dropped (n : Nat) (entries : List Json.Value) :
    .exhausted n ∉ Filter.dropped entries := by
  rw [Filter.dropped_eq, List.mem_filterMap]
  rintro ⟨entry, -, hloss⟩
  rw [Filter.loss?] at hloss
  split at hloss
  · cases hloss
  · split at hloss <;> cases hloss

theorem Turn.exhausted_notMem_events (n : Nat) (debug : Bool) (attempt : Nat) (reply : Reply) :
    .warning (.exhausted n) ∉ (Turn.ofReply debug attempt reply).events := by
  cases reply with
  | error failure =>
    rw [Turn.ofReply]
    split <;> simp [Turn.events]
  | ok answer =>
    cases answer with
    | none => simp [Turn.ofReply, Turn.events]
    | some text =>
      cases hread : Filter.ofReply text with
      | error e => simp [Turn.ofReply, Turn.events, hread]
      | ok read =>
        obtain ⟨filters, warnings⟩ := read
        obtain ⟨items, -, rfl⟩ := Filter.ofReply_eq_ok hread
        have hdropped := exhausted_notMem_dropped n items
        simp [Turn.ofReply, Turn.events, hread, hdropped]

theorem usedUp_exhausted (s : Settings) (replies : List Reply) :
    (exhausted s replies).UsedUp := by
  cases h : s.policy <;> simp [Run.UsedUp, exhausted, fallback, h]

theorem not_usedUp_stopped (s : Settings) (failure : Failure) (replies : List Reply) :
    ¬(stopped s failure replies).UsedUp := by
  cases h : s.policy <;> simp [Run.UsedUp, stopped, fallback, h]

theorem usedUp_after_iff {request : Request} {events : List Event} {r : Run}
    (h : ∀ n, .warning (.exhausted n) ∉ events) : (r.after request events).UsedUp ↔ r.UsedUp := by
  simp [Run.UsedUp, Run.after, h]

theorem usedUp_converse_iff (s : Settings) (messages : List Message) (replies : List Reply)
    (left : Nat) : (converse s messages replies left).UsedUp ↔
      ∀ i < left, ¬Decisive (replyAt replies i) := by
  -- By the attempts left: a decisive first reply ends it, any other leaves it to the rest.
  induction left generalizing messages replies with
  | zero => simpa [converse] using usedUp_exhausted s replies
  | succ left ih =>
    have hevents : ∀ n, .warning (.exhausted n) ∉
        (Turn.ofReply s.debug (s.attempts - left) (nextReply replies).1).events :=
      fun n => Turn.exhausted_notMem_events n _ _ _
    have hfirst := replyAt_zero replies
    rw [converse]
    rcases Turn.ofReply_cases s.debug (s.attempts - left) (nextReply replies).1 with
      ⟨filters, events, haccepted, hturn⟩ | ⟨failure, hreply, hfailure, hturn⟩ |
      ⟨hnot, events, hturn⟩
    · rw [hturn] at hevents
      have hno : ¬Run.UsedUp ⟨.ok filters, [request messages], events, (nextReply replies).2⟩ := by
        rintro (⟨n, h⟩ | ⟨n, h⟩)
        · cases h
        · exact hevents n h
      have hdecisive : Decisive (replyAt replies 0) := .inl ⟨filters, hfirst ▸ haccepted⟩
      simp only [hturn, hno, false_iff]
      exact fun h => h 0 (Nat.succ_pos left) hdecisive
    · have hdecisive : Decisive (replyAt replies 0) := .inr ⟨failure, hfirst ▸ hreply, hfailure⟩
      simp only [hturn, usedUp_after_iff fun _ => List.not_mem_nil, not_usedUp_stopped, false_iff]
      exact fun h => h 0 (Nat.succ_pos left) hdecisive
    · rw [hturn] at hevents
      have hquiet : ∀ n, .warning (.exhausted n) ∉ events := hevents
      simp only [hturn, usedUp_after_iff hquiet, ih]
      constructor
      · intro h i hi
        cases i with
        | zero => exact hfirst ▸ hnot
        | succ i =>
          rw [replyAt_succ]
          exact h i (Nat.lt_of_succ_lt_succ hi)
      · intro h i hi
        rw [← replyAt_succ]
        exact h (i + 1) (Nat.succ_lt_succ hi)

theorem usedUp_run_iff (s : Settings) (query : String) (headers : List String)
    (replies : List Reply) : (run s query headers replies).UsedUp ↔
      ∀ i < s.attempts, ¬Decisive (replyAt replies i) := by
  rw [← usedUp_converse_iff s (opening query headers), run]
  split
  · simp [Run.UsedUp]
  · exact Iff.rfl

theorem run_related {s t : Settings} (h : s.attempts = t.attempts) (query : String)
    (headers : List String) (replies : List Reply) :
    (run s query headers replies).requests = (run t query headers replies).requests ∧
    ((∃ reply, Verdict s.policy reply (run s query headers replies).result ∧
        Verdict t.policy reply (run t query headers replies).result) ∨
      (Spent s.attempts s.policy (run s query headers replies).result ∧
        Spent s.attempts t.policy (run t query headers replies).result)) := by
  have hs := outcome_run s query headers replies
  have ht := outcome_run t query headers replies
  have hle := hs.length_le ht h.le
  have hge := ht.length_le hs h.ge
  refine ⟨(requests_continue hle).eq_of_length (Nat.le_antisymm hle hge), ?_⟩
  rcases exists_first_decisive replies s.attempts with ⟨k, hk⟩ | hnone
  · obtain ⟨-, -, hverdict, hverdict'⟩ := hs.same_end ht h.le hk
    exact .inl ⟨_, hverdict, hverdict'⟩
  · exact .inr ⟨(hs.spent hnone).2.2, h ▸ (ht.spent (h ▸ hnone)).2.2⟩

theorem run_result_eq {s t : Settings} (h : s.attempts = t.attempts) (hp : s.policy = t.policy)
    (query : String) (headers : List String) (replies : List Reply) :
    (run s query headers replies).result = (run t query headers replies).result := by
  rcases (run_related h query headers replies).2 with ⟨reply, hs, ht⟩ | ⟨hs, ht⟩
  · exact (hp ▸ hs).unique ht
  · exact (hp ▸ hs).unique ht

theorem run_result_orUnfiltered {s t : Settings} (h : s.attempts = t.attempts)
    (hs : s.policy = .unfiltered) (ht : t.policy = .fail) (query : String)
    (headers : List String) (replies : List Reply) :
    (run s query headers replies).result =
      orUnfiltered (run t query headers replies).result := by
  have hrelated := (run_related h query headers replies).2
  rw [hs, ht] at hrelated
  rcases hrelated with ⟨reply, hu, hf⟩ | ⟨hu, hf⟩
  · exact hu.unique hf.orUnfiltered
  · exact hu.unique hf.orUnfiltered

/-- Two runs over the same replies: settings other than the budget leave the requests alone, a
failure is all that the policy replaces, and a larger budget only goes on where a smaller one was
used up. A budget of none counts as one. -/
theorem run_two_settings (query : String) (headers : List String) (replies : List Reply) :
    (∀ (n : Nat) (b b' : Bool),
      (∀ p p' : Policy, (run ⟨n, p, b⟩ query headers replies).requests =
        (run ⟨n, p', b'⟩ query headers replies).requests) ∧
      (∀ p : Policy, (run ⟨n, p, b⟩ query headers replies).result =
        (run ⟨n, p, b'⟩ query headers replies).result) ∧
      (run ⟨n, .unfiltered, b⟩ query headers replies).result =
        orUnfiltered (run ⟨n, .fail, b'⟩ query headers replies).result) ∧
    ∀ (n m : Nat) (p : Policy) (b : Bool), n ≤ m →
      let r := run ⟨n, p, b⟩ query headers replies
      let r' := run ⟨m, p, b⟩ query headers replies
      r.requests <+: r'.requests ∧
        (¬r.UsedUp → r.requests = r'.requests ∧ r.result = r'.result) := by
  refine ⟨fun n b b' => ?_, fun n m p b hnm => ?_⟩
  · have hn (p p' : Policy) : Settings.attempts ⟨n, p, b⟩ = Settings.attempts ⟨n, p', b'⟩ := rfl
    exact ⟨fun p p' => (run_related (hn p p') query headers replies).1,
      fun p => run_result_eq (hn p p) rfl query headers replies,
      run_result_orUnfiltered (hn .unfiltered .fail) rfl rfl query headers replies⟩
  · have hle : Settings.attempts ⟨n, p, b⟩ ≤ Settings.attempts ⟨m, p, b⟩ := by
      simp only [Settings.attempts]
      omega
    have hr := outcome_run ⟨n, p, b⟩ query headers replies
    have hr' := outcome_run ⟨m, p, b⟩ query headers replies
    have hbegins := requests_continue (hr.length_le hr' hle)
    refine ⟨hbegins, fun hused => ?_⟩
    rw [usedUp_run_iff] at hused
    rcases exists_first_decisive replies (Settings.attempts ⟨n, p, b⟩) with ⟨k, hk⟩ | hnone
    · obtain ⟨calls, calls', verdict, verdict'⟩ := hr.same_end hr' hle hk
      exact ⟨hbegins.eq_of_length (calls.trans calls'.symm), verdict.unique verdict'⟩
    · exact absurd hnone hused

theorem run_two_settings_second_of_five :
    let replies : List Reply := [.ok (some "?"), .ok (some "\x7b\x7d"), .ok (some "!")]
    let r := run ⟨2, .fail, false⟩ "q" ["a"] replies
    let r' := run ⟨5, .fail, false⟩ "q" ["a"] replies
    2 ≤ 5 ∧ ¬r.UsedUp ∧ r.result = .ok [] ∧ r.requests.length = 2 ∧
      r.requests = r'.requests ∧ r.result = r'.result := by
  intro replies r r'
  have hbad : Filter.ofReply "?" = .error (.invalidJson .expectedValue) := by cbv
  have hgood : Filter.ofReply "\x7b\x7d" = .ok ([], []) := by cbv
  have hr : r = ⟨.ok [], [request (opening "q" ["a"]),
      request (opening "q" ["a"] ++ correctionTurns "?")],
      [.warning (.unusableReply 1 (Filter.ReplyError.invalidJson .expectedValue).message)],
      [.ok (some "!")]⟩ := by
    simp [r, replies, run, Settings.attempts, converse, nextReply, Turn.ofReply, Run.after, hbad,
      hgood]
  have hused : ¬r.UsedUp := by simp [Run.UsedUp, hr]
  have hlarger := ((run_two_settings "q" ["a"] replies).2 2 5 .fail false (by decide)).2 hused
  exact ⟨by decide, hused, by rw [hr], by rw [hr]; rfl, hlarger⟩

end RowQuery.Generation
