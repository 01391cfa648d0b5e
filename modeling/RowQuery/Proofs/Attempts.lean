import Mathlib
import RowQuery.Generation

/-!
# How a conversation ends

One reply ends a conversation: the first that can be read, or that is a failure other than a
timeout. The attempts up to it are made and no more, and the result is that reply's. Where no reply
within the budget ends it, the whole budget is used. The policy decides only what is made of a
failure, so a strict conversation returns no filters that were not read from a reply.
-/
namespace RowQuery.Generation
open Chat

/-- The reply to an attempt, counted from 0; behind the last reply there are empty ones. -/
def replyAt (replies : List Reply) (i : Nat) : Reply := (replies[i]?).getD (.ok none)

/-- The reply is a text that can be read as the filters. -/
def Accepted (reply : Reply) (filters : Filters) : Prop :=
  ∃ text warnings, reply = .ok (some text) ∧ Filter.ofReply text = .ok (filters, warnings)

/-- The reply ends a conversation: a readable text or a failure that is no timeout. -/
def Decisive (reply : Reply) : Prop :=
  (∃ filters, Accepted reply filters) ∨
    ∃ failure, reply = .error failure ∧ ∀ seconds, failure ≠ .timeout seconds

/-- What a decisive reply comes to under a policy. -/
inductive Verdict : Policy → Reply → Except Error Filters → Prop
  | accepted {policy : Policy} {reply : Reply} {filters : Filters} :
      Accepted reply filters → Verdict policy reply (.ok filters)
  | refused {failure : Failure} :
      (∀ seconds, failure ≠ .timeout seconds) →
      Verdict .fail (.error failure) (.error (.backend failure))
  | ignored {failure : Failure} :
      (∀ seconds, failure ≠ .timeout seconds) → Verdict .unfiltered (.error failure) (.ok [])

/-- What a used-up budget comes to under a policy. -/
inductive Spent (attempts : Nat) : Policy → Except Error Filters → Prop
  | refused : Spent attempts .fail (.error (.exhausted attempts))
  | ignored : Spent attempts .unfiltered (.ok [])

/-- How a conversation with so many attempts left ends. The requests sent count its calls, and as
many replies are taken. -/
structure Outcome (s : Settings) (replies : List Reply) (left : Nat) (r : Run) : Prop where
  decided : ∀ k, IsLeast {i | i < left ∧ Decisive (replyAt replies i)} k →
    r.requests.length = k + 1 ∧ r.unused = replies.drop (k + 1) ∧
      Verdict s.policy (replyAt replies k) r.result
  spent : (∀ i < left, ¬Decisive (replyAt replies i)) →
    r.requests.length = left ∧ r.unused = replies.drop left ∧ Spent s.attempts s.policy r.result

theorem not_isTimeout_iff {failure : Failure} :
    ¬failure.isTimeout ↔ ∀ seconds, failure ≠ .timeout seconds := by
  cases failure <;> simp [Failure.isTimeout]

theorem Verdict.accepted_of_fail {reply : Reply} {filters : Filters}
    (h : Verdict .fail reply (.ok filters)) : Accepted reply filters := by
  cases h with
  | accepted h => exact h

theorem Verdict.ok_of_unfiltered {reply : Reply} {result : Except Error Filters}
    (h : Verdict .unfiltered reply result) : ∃ filters, result = .ok filters := by
  cases h <;> exact ⟨_, rfl⟩

theorem Spent.ok_of_unfiltered {attempts : Nat} {result : Except Error Filters}
    (h : Spent attempts .unfiltered result) : ∃ filters, result = .ok filters := by
  cases h
  exact ⟨[], rfl⟩

theorem replyAt_zero (replies : List Reply) : replyAt replies 0 = (nextReply replies).1 := by
  cases replies <;> rfl

theorem replyAt_succ (replies : List Reply) (i : Nat) :
    replyAt replies (i + 1) = replyAt (nextReply replies).2 i := by
  cases replies <;> rfl

theorem drop_succ (replies : List Reply) (n : Nat) :
    replies.drop (n + 1) = (nextReply replies).2.drop n := by
  cases replies <;> simp [nextReply]

def rejectedText? : Reply → Option String
  | .ok (some text) => if (Filter.ofReply text).isOk then none else some text
  | _ => none

theorem rejectedText?_eq_some_iff {reply : Reply} {text : String} :
    rejectedText? reply = some text ↔
      reply = .ok (some text) ∧ ∃ e, Filter.ofReply text = .error e := by
  cases reply with
  | error failure => simp [rejectedText?]
  | ok answer =>
    cases answer with
    | none => simp [rejectedText?]
    | some t =>
      simp only [rejectedText?, Except.ok.injEq, Option.some.injEq]
      constructor
      · intro h
        split at h
        · cases h
        · next hread =>
          obtain rfl := Option.some.inj h
          cases hr : Filter.ofReply t with
          | ok read => exact absurd (by rw [hr]; rfl) hread
          | error e => exact ⟨rfl, e, rfl⟩
      · rintro ⟨rfl, e, he⟩
        rw [he]
        rfl

theorem not_decisive_of_rejected {text : String} {e : Filter.ReplyError}
    (h : Filter.ofReply text = .error e) : ¬Decisive (.ok (some text)) := by
  rintro (⟨filters, t, warnings, ht, hread⟩ | ⟨failure, hfailure, -⟩)
  · cases ht
    rw [h] at hread
    cases hread
  · cases hfailure

theorem Turn.ofReply_cases (debug : Bool) (attempt : Nat) (reply : Reply) :
    (∃ filters events, Accepted reply filters ∧
      Turn.ofReply debug attempt reply = .accept filters events) ∨
    (∃ failure, reply = .error failure ∧ (∀ seconds, failure ≠ .timeout seconds) ∧
      Turn.ofReply debug attempt reply = .stop failure) ∨
    (¬Decisive reply ∧ ∃ events, Turn.ofReply debug attempt reply =
      .retry ((rejectedText? reply).toList.flatMap correctionTurns) events) := by
  cases reply with
  | error failure =>
    -- Of the failures, only a timeout is tried again.
    by_cases ht : failure.isTimeout
    · have hnot : ¬Decisive (.error failure) := by
        rintro (⟨filters, text, warnings, h, -⟩ | ⟨f, h, hf⟩)
        · cases h
        · cases h
          exact not_isTimeout_iff.mpr hf ht
      exact .inr (.inr ⟨hnot, _, by rw [Turn.ofReply, if_pos ht]; rfl⟩)
    · exact .inr (.inl ⟨failure, rfl, not_isTimeout_iff.mp ht, by rw [Turn.ofReply, if_neg ht]⟩)
  | ok answer =>
    cases answer with
    | none =>
      have hnot : ¬Decisive (.ok none) := by
        rintro (⟨filters, text, warnings, h, -⟩ | ⟨f, h, -⟩) <;> cases h
      exact .inr (.inr ⟨hnot, _, rfl⟩)
    | some text =>
      cases hread : Filter.ofReply text with
      | ok read =>
        obtain ⟨filters, warnings⟩ := read
        exact .inl ⟨filters, _, ⟨text, warnings, rfl, hread⟩, by rw [Turn.ofReply, hread]⟩
      | error e =>
        refine .inr (.inr ⟨not_decisive_of_rejected hread, ?_⟩)
        simp only [Turn.ofReply, rejectedText?, hread]
        exact ⟨_, rfl⟩

theorem exists_first_decisive (replies : List Reply) (left : Nat) :
    (∃ k, IsLeast {i | i < left ∧ Decisive (replyAt replies i)} k) ∨
      ∀ i < left, ¬Decisive (replyAt replies i) := by
  classical
  by_cases hex : ∃ i, i < left ∧ Decisive (replyAt replies i)
  · exact .inl ⟨Nat.find hex, Nat.find_spec hex, fun i hi => Nat.find_min' hex hi⟩
  · exact .inr fun i hi hd => hex ⟨i, hi, hd⟩

namespace Outcome
variable {s : Settings} {replies : List Reply} {left : Nat} {r : Run}

theorem of_first (decisive : Decisive (replyAt replies 0)) (calls : r.requests.length = 1)
    (taken : r.unused = replies.drop 1) (verdict : Verdict s.policy (replyAt replies 0) r.result) :
    Outcome s replies (left + 1) r where
  decided k hk := by
    have hle : k ≤ 0 := hk.2 ⟨Nat.succ_pos left, decisive⟩
    obtain rfl : k = 0 := Nat.le_zero.mp hle
    exact ⟨calls, taken, verdict⟩
  spent hnone := absurd decisive (hnone 0 (Nat.succ_pos left))

theorem after (indecisive : ¬Decisive (replyAt replies 0))
    (rest : Outcome s (nextReply replies).2 left r) (request : Request) (events : List Event) :
    Outcome s replies (left + 1) (r.after request events) where
  decided k hk := by
    cases k with
    | zero => exact absurd hk.1.2 indecisive
    | succ k =>
      have hleast : IsLeast {i | i < left ∧ Decisive (replyAt (nextReply replies).2 i)} k := by
        refine ⟨⟨Nat.lt_of_succ_lt_succ hk.1.1, replyAt_succ replies k ▸ hk.1.2⟩, ?_⟩
        intro i hi
        have := hk.2 ⟨Nat.succ_lt_succ hi.1, (replyAt_succ replies i).symm ▸ hi.2⟩
        omega
      obtain ⟨calls, taken, verdict⟩ := rest.decided k hleast
      refine ⟨?_, ?_, ?_⟩
      · simpa [Run.after] using calls
      · rw [drop_succ]
        exact taken
      · rw [replyAt_succ]
        exact verdict
  spent hnone := by
    obtain ⟨calls, taken, result⟩ := rest.spent fun i hi => by
      rw [← replyAt_succ]
      exact hnone (i + 1) (Nat.succ_lt_succ hi)
    refine ⟨?_, ?_, result⟩
    · simpa [Run.after] using calls
    · rw [drop_succ]
      exact taken

theorem exists_cause (h : Outcome s replies left r) :
    (∃ k < left, Verdict s.policy (replyAt replies k) r.result) ∨
      Spent s.attempts s.policy r.result := by
  rcases exists_first_decisive replies left with ⟨k, hk⟩ | hnone
  · exact .inl ⟨k, hk.1.1, (h.decided k hk).2.2⟩
  · exact .inr (h.spent hnone).2.2

theorem unused_eq (h : Outcome s replies left r) :
    r.unused = replies.drop r.requests.length := by
  rcases exists_first_decisive replies left with ⟨k, hk⟩ | hnone
  · obtain ⟨calls, taken, -⟩ := h.decided k hk
    rw [calls, taken]
  · obtain ⟨calls, taken, -⟩ := h.spent hnone
    rw [calls, taken]

theorem calls_le (h : Outcome s replies left r) : r.requests.length ≤ left := by
  rcases exists_first_decisive replies left with ⟨k, hk⟩ | hnone
  · rw [(h.decided k hk).1]
    exact hk.1.1
  · rw [(h.spent hnone).1]

theorem calls_pos (h : Outcome s replies left r) (hleft : 0 < left) : 0 < r.requests.length := by
  rcases exists_first_decisive replies left with ⟨k, hk⟩ | hnone
  · rw [(h.decided k hk).1]
    exact Nat.succ_pos k
  · rw [(h.spent hnone).1]
    exact hleft

theorem accepted_of_fail (h : Outcome s replies left r) (hs : s.policy = .fail)
    {filters : Filters} (hr : r.result = .ok filters) :
    ∃ k < left, Accepted (replyAt replies k) filters := by
  rcases h.exists_cause with ⟨k, hk, hverdict⟩ | hspent
  · rw [hs, hr] at hverdict
    exact ⟨k, hk, hverdict.accepted_of_fail⟩
  · rw [hs, hr] at hspent
    cases hspent

theorem ok_of_unfiltered (h : Outcome s replies left r) (hs : s.policy = .unfiltered) :
    ∃ filters, r.result = .ok filters := by
  rcases h.exists_cause with ⟨k, -, hverdict⟩ | hspent
  · exact (hs ▸ hverdict).ok_of_unfiltered
  · exact (hs ▸ hspent).ok_of_unfiltered

end Outcome

theorem spent_exhausted (s : Settings) (replies : List Reply) :
    Spent s.attempts s.policy (exhausted s replies).result := by
  cases h : s.policy <;> simp only [exhausted, fallback, h]
  · exact .refused
  · exact .ignored

theorem verdict_stopped (s : Settings) {failure : Failure}
    (h : ∀ seconds, failure ≠ .timeout seconds) (replies : List Reply) :
    Verdict s.policy (.error failure) (stopped s failure replies).result := by
  cases hp : s.policy <;> simp only [stopped, fallback, hp]
  · exact .refused h
  · exact .ignored h

theorem converse_outcome (s : Settings) (messages : List Message) (replies : List Reply)
    (left : Nat) : Outcome s replies left (converse s messages replies left) := by
  -- By the attempts left: the first reply is decisive, or decides nothing for those behind it.
  induction left generalizing messages replies with
  | zero =>
    refine ⟨fun k hk => absurd hk.1.1 (Nat.not_lt_zero k), fun _ => ⟨?_, ?_, ?_⟩⟩
    · simp [converse, exhausted]
    · simp [converse, exhausted]
    · exact spent_exhausted s replies
  | succ left ih =>
    have hfirst := replyAt_zero replies
    rw [converse]
    rcases Turn.ofReply_cases s.debug (s.attempts - left) (nextReply replies).1 with
      ⟨filters, events, haccepted, hturn⟩ | ⟨failure, hreply, hfailure, hturn⟩ |
      ⟨hnot, events, hturn⟩
    · simp only [hturn]
      rw [← hfirst] at haccepted
      exact .of_first (.inl ⟨filters, haccepted⟩) rfl (drop_succ replies 0).symm
        (.accepted haccepted)
    · simp only [hturn]
      rw [← hfirst] at hreply
      refine .of_first (.inr ⟨failure, hreply, hfailure⟩) rfl (drop_succ replies 0).symm ?_
      rw [hreply]
      exact verdict_stopped s hfailure (nextReply replies).2
    · simp only [hturn]
      exact .after (hfirst ▸ hnot) (ih _ _) _ _

theorem run_eq_converse (s : Settings) (query : String) (headers : List String)
    (replies : List Reply) : ∃ events, run s query headers replies =
      { converse s (opening query headers) replies s.attempts with events } := by
  rw [run]
  split <;> exact ⟨_, rfl⟩

theorem outcome_run (s : Settings) (query : String) (headers : List String)
    (replies : List Reply) : Outcome s replies s.attempts (run s query headers replies) := by
  obtain ⟨events, hr⟩ := run_eq_converse s query headers replies
  have h := converse_outcome s (opening query headers) replies s.attempts
  rw [hr]
  exact ⟨h.decided, h.spent⟩

/-- A budget of no attempts counts as one. Attempts are counted from 0, so the first decisive reply
`k` is the last of `k + 1` calls. -/
theorem run_outcome (s : Settings) (query : String) (headers : List String)
    (replies : List Reply) :
    let n := max 1 s.maxAttempts
    let r := run s query headers replies
    (∀ k, IsLeast {i | i < n ∧ Decisive (replyAt replies i)} k →
      r.requests.length = k + 1 ∧ r.unused = replies.drop (k + 1) ∧
        Verdict s.policy (replyAt replies k) r.result) ∧
    ((∀ i < n, ¬Decisive (replyAt replies i)) →
      r.requests.length = n ∧ r.unused = replies.drop n ∧ Spent n s.policy r.result) ∧
    (s.policy = .fail → ∀ filters, r.result = .ok filters →
      ∃ k < n, Accepted (replyAt replies k) filters) ∧
    (s.policy = .unfiltered → ∃ filters, r.result = .ok filters) := by
  intro n r
  have hn : n = s.attempts := Nat.max_comm 1 s.maxAttempts
  obtain ⟨events, hr⟩ := run_eq_converse s query headers replies
  have h := converse_outcome s (opening query headers) replies s.attempts
  simp only [r, hr, hn]
  exact ⟨h.decided, h.spent, fun hs filters => h.accepted_of_fail hs, h.ok_of_unfiltered⟩

/-- A refusal behind a timeout and an empty reply, under both policies, and a budget that ends
before it. -/
theorem run_outcome_after_timeout :
    let busy : Failure := .http 503 "busy"
    let replies : List Reply := [.error (.timeout 30), .ok none, .error busy, .ok none]
    let r (n : Nat) (policy : Policy) : Run := run ⟨n, policy, false⟩ "q" ["a"] replies
    ¬Decisive (replyAt replies 0) ∧ ¬Decisive (replyAt replies 1) ∧ Decisive (replyAt replies 2) ∧
      (r 4 .fail).requests.length = 3 ∧ (r 4 .fail).unused = [.ok none] ∧
      Verdict .fail (.error busy) (r 4 .fail).result ∧
      Verdict .unfiltered (.error busy) (r 4 .unfiltered).result ∧
      (r 2 .fail).requests.length = 2 ∧ Spent 2 .fail (r 2 .fail).result ∧
      (∃ filters, (r 2 .unfiltered).result = .ok filters) := by
  intro busy replies r
  have hfirst : ¬Decisive (replyAt replies 0) := by
    rintro (⟨filters, text, warnings, h, -⟩ | ⟨failure, h, hf⟩)
    · cases h
    · cases h
      exact hf 30 rfl
  have hsecond : ¬Decisive (replyAt replies 1) := by
    rintro (⟨filters, text, warnings, h, -⟩ | ⟨failure, h, hf⟩) <;> cases h
  have hthird : Decisive (replyAt replies 2) := .inr ⟨busy, rfl, nofun⟩
  have hbefore : ∀ i < 2, ¬Decisive (replyAt replies i)
    | 0, _ => hfirst
    | 1, _ => hsecond
  have hleast : IsLeast {i | i < 4 ∧ Decisive (replyAt replies i)} 2 :=
    ⟨⟨by decide, hthird⟩, fun i hi => Nat.le_of_not_lt fun hlt => hbefore i hlt hi.2⟩
  obtain ⟨hcalls, hunused, hrefused⟩ := (run_outcome ⟨4, .fail, false⟩ "q" ["a"] replies).1 2 hleast
  obtain ⟨-, -, hignored⟩ := (run_outcome ⟨4, .unfiltered, false⟩ "q" ["a"] replies).1 2 hleast
  obtain ⟨-, hspent, -, -⟩ := run_outcome ⟨2, .fail, false⟩ "q" ["a"] replies
  obtain ⟨htwo, -, hexhausted⟩ := hspent hbefore
  have hnever := (run_outcome ⟨2, .unfiltered, false⟩ "q" ["a"] replies).2.2.2 rfl
  exact ⟨hfirst, hsecond, hthird, hcalls, hunused, hrefused, hignored, htwo, hexhausted, hnever⟩

end RowQuery.Generation
