import Mathlib
import RowQuery.Chat.Completion
import RowQuery.Proofs.Conversation
import RowQuery.Proofs.OctetTexts
import RowQuery.Proofs.RecordForms

/-!
# What a service's answer says

An answer that is read is a record of choices, each of which is a record of a message, and that one
of a content. Any of the three may be an object or a list, choices and content may be missing, and a
content may be null; but every choice has to have the form, also those that are not looked at. The
reply is the content of the first choice as it stands, unless it is blank.
-/
namespace RowQuery.Chat.Completion
open Json
open Json.Record (Holds)

inductive ContentOf : Option Tree → Option String → Prop
  | absent : ContentOf none none
  | null : ContentOf (some .null) none
  | text {q : Quoted} {s : String} : q.text = .ok s → ContentOf (some (.string q)) (some s)

def MessageOf (t : Tree) (content : Option String) : Prop :=
  ∃ o, Holds "content" t o ∧ ContentOf o content

def ChoiceOf (t : Tree) (content : Option String) : Prop :=
  ∃ message, Holds "message" t (some message) ∧ MessageOf message content

inductive ChoicesOf : Option Tree → List (Option String) → Prop
  | absent : ChoicesOf none []
  | list {ts : List Tree} {contents : List (Option String)} :
      List.Forall₂ ChoiceOf ts contents → ChoicesOf (some (.list ts .closed)) contents

/-- The document is an answer whose choices have the contents. -/
structure Answers (d : Document) (contents : List (Option String)) : Prop where
  choices : ∃ o, Holds "choices" d.tree o ∧ ChoicesOf o contents
  alone : d.trailing = false

variable {room : Nat} {t : Tree}

theorem optional_string_iff {content : Option String} :
    Decoder.string.optional room t = .ok content ↔ ContentOf (some t) content := by
  constructor
  · intro h
    rw [Decoder.optional.eq_def] at h
    split at h
    · cases h
      exact .null
    · cases h
    · cases h
    · cases hs : Decoder.string room t with
      | error e =>
        rw [hs] at h
        cases h
      | ok s =>
        rw [hs] at h
        cases h
        obtain ⟨q, rfl, hq⟩ := Tree.valueWithin_eq_string_iff.mp (Decoder.string_eq_ok_iff.mp hs)
        exact .text hq
  · rintro (_ | _ | hs)
    · rfl
    · rw [Decoder.optional, Decoder.string, Decoder.ofBreak_eq_ok_iff.mpr hs]
      · rfl
      all_goals
        intro heq
        cases heq

theorem message_iff {m : Choice} :
    messageForm.decode ⟨none⟩ (room + 1) t = .ok m ↔ MessageOf t m.content := by
  rw [messageForm, Record.decode_single_iff rfl]
  simp only [Field.read_ofDecoder_iff, optional_string_iff]
  constructor
  · rintro (⟨hholds, -, rfl⟩ | ⟨t', hholds, content, hcontent, rfl⟩)
    · exact ⟨none, hholds, .absent⟩
    · exact ⟨some t', hholds, hcontent⟩
  · rintro ⟨o, hholds, hcontent⟩
    cases o with
    | none =>
      cases m
      cases hcontent
      exact .inl ⟨hholds, rfl, rfl⟩
    | some t' => exact .inr ⟨t', hholds, m.content, hcontent, rfl⟩

theorem choice_iff {c : Choice} :
    choiceForm.decode ⟨none⟩ (room + 2) t = .ok c ↔ ChoiceOf t c.content := by
  rw [choiceForm, Record.decode_single_iff rfl]
  simp only [Field.read_required_iff, message_iff]
  constructor
  · rintro (⟨-, hdefault, -⟩ | ⟨t', hholds, m, hmessage, rfl⟩)
    · cases hdefault
    · exact ⟨t', hholds, hmessage⟩
  · rintro ⟨t', hholds, hmessage⟩
    exact .inr ⟨t', hholds, c, hmessage, rfl⟩

theorem answer_iff {choices : List Choice} :
    answerForm.decode [] (room + 4) t = .ok choices ↔
      ∃ o, Holds "choices" t o ∧ ChoicesOf o (choices.map Choice.content) := by
  rw [answerForm, Record.decode_single_iff rfl]
  simp only [Field.defaulted, Field.read_ofDecoder_iff, Decoder.list_eq_ok_iff, choice_iff]
  constructor
  · rintro (⟨hholds, -, rfl⟩ | ⟨t', hholds, as, ⟨ts, rfl, hts⟩, rfl⟩)
    · exact ⟨none, hholds, .absent⟩
    · exact ⟨_, hholds, .list (List.forall₂_map_right_iff.mpr hts)⟩
  · rintro ⟨o, hholds, hchoices⟩
    generalize hcontents : choices.map Choice.content = contents at hchoices
    cases hchoices with
    | absent =>
      obtain rfl := List.map_eq_nil_iff.mp hcontents
      exact .inl ⟨hholds, rfl, rfl⟩
    | list hts =>
      rw [← hcontents, List.forall₂_map_right_iff] at hts
      exact .inr ⟨_, hholds, choices, ⟨_, rfl, hts⟩, rfl⟩

theorem choices?_eq_some_iff {octets : ByteArray} {choices : List Choice} :
    choices? octets = some choices ↔
      Answers (Document.ofBytes octets.data.toList) (choices.map Choice.content) := by
  have hoption : choices? octets = some choices ↔
      (answerForm.decode []).ofBytes octets = .ok choices := by
    rw [choices?]
    cases (answerForm.decode []).ofBytes octets <;> simp [Except.toOption]
  rw [hoption, Decoder.ofBytes_eq_ok_iff]
  exact ⟨fun h => ⟨answer_iff.mp h.1, h.2⟩, fun h => ⟨answer_iff.mpr h.choices, h.alone⟩⟩

theorem answers_iff {octets : ByteArray} {contents : List (Option String)} :
    Answers (Document.ofBytes octets.data.toList) contents ↔
      choices? octets = some (contents.map Choice.mk) := by
  rw [choices?_eq_some_iff, List.map_map]
  exact iff_of_eq (congrArg _ (List.map_id' contents).symm)

theorem content_eq_some_iff {contents : List (Option String)} {s : String} :
    content (contents.map Choice.mk) = some s ↔ contents.head? = some (some s) ∧ HasInk s := by
  rw [content, Option.filter_eq_some_iff, hasInk_iff]
  refine and_congr_left fun _ => ?_
  cases contents <;> simp

theorem content_eq_none_iff {contents : List (Option String)} :
    content (contents.map Choice.mk) = none ↔ ∀ s, contents.head? = some (some s) → ¬HasInk s := by
  simp only [Option.eq_none_iff_forall_ne_some, ne_eq, content_eq_some_iff, not_and]

section Reply
variable {service : Service} {status length : Nat} {octets body : ByteArray}

theorem reply_of_failure (hfinal : isFinal status = true)
    (hbody : body? status length octets = some body) (hstatus : ¬(200 ≤ status ∧ status < 300)) :
    service.reply (.answer status length octets) = .error (.http status (failureText body)) := by
  have hsuccess : isSuccess status = false := by simpa [isSuccess] using hstatus
  simp only [Service.reply, hfinal, hbody, hsuccess, Bool.not_true, Bool.false_eq_true, if_false]

theorem reply_of_success (hbody : body? status length octets = some body)
    (hstatus : 200 ≤ status ∧ status < 300) :
    service.reply (.answer status length octets) =
      match choices? body with
      | some choices => .ok (content choices)
      | none => .error (.invalidResponse "error decoding response body") := by
  have hsuccess : isSuccess status = true := by simpa [isSuccess] using hstatus
  have hfinal : isFinal status = true := by
    simp only [isFinal, Bool.or_eq_true, Bool.and_eq_true, decide_eq_true_eq]
    omega
  cases hchoices : choices? body <;>
    simp only [Service.reply, hfinal, hbody, hsuccess, Bool.not_true, Bool.false_eq_true, if_false,
      if_true, Option.bind_some, hchoices]

theorem failureText_toList (body : ByteArray) :
    (failureText body).toList = (Text.Octets.chars body.data.toList).take 512 :=
  String.toList_ofList

/-- What becomes of the answers of a successful status, by what their documents say. -/
structure Told (reply : Reply) (d : Document) : Prop where
  invalid : (∃ message, reply = .error (.invalidResponse message)) ↔ ¬∃ contents, Answers d contents
  nothing : reply = .ok none ↔
    ∃ contents, Answers d contents ∧ ∀ s, contents.head? = some (some s) → ¬HasInk s
  text : ∀ s, reply = .ok (some s) ↔
    ∃ contents, Answers d contents ∧ contents.head? = some (some s) ∧ HasInk s

theorem told_of_success (hbody : body? status length octets = some body)
    (hstatus : 200 ≤ status ∧ status < 300) :
    Told (service.reply (.answer status length octets))
      (Document.ofBytes body.data.toList) := by
  have hsuccess := @reply_of_success service _ _ _ _ hbody hstatus
  cases hchoices : choices? body with
  | none =>
    have hnone : ∀ contents, ¬Answers (Document.ofBytes body.data.toList) contents := by
      intro contents h
      exact nomatch hchoices.symm.trans (answers_iff.mp h)
    rw [hsuccess, hchoices]
    constructor <;> simp [hnone]
  | some choices =>
    obtain ⟨contents, rfl⟩ : ∃ contents, contents.map Choice.mk = choices :=
      ⟨choices.map Choice.content, by rw [List.map_map]; exact List.map_id' choices⟩
    have honly : ∀ others, Answers (Document.ofBytes body.data.toList) others ↔
        others = contents := fun others => by
      have hinjective : Function.Injective (List.map Choice.mk) :=
        List.map_injective_iff.mpr fun _ _ h => congrArg Choice.content h
      rw [answers_iff, hchoices, Option.some_inj, hinjective.eq_iff, eq_comm]
    rw [hsuccess, hchoices]
    constructor <;> simp [honly, content_eq_none_iff, content_eq_some_iff]

end Reply

theorem ne_timeout_of_answer {service : Service} {status length : Nat} {octets : ByteArray}
    {failure : Failure} (h : service.reply (.answer status length octets) = .error failure) :
    ∀ seconds, failure ≠ .timeout seconds := by
  rintro seconds rfl
  simp only [Service.reply] at h
  split at h
  · cases h
  · split at h
    · split at h
      · cases h
      · cases h
    · cases h

end RowQuery.Chat.Completion

namespace RowQuery.Generation
open Chat

variable {s : Settings} {replies : List Reply} {k : Nat}

structure Ended (s : Settings) (replies : List Reply) (k : Nat) (r : Run) : Prop where
  calls : r.requests.length = k + 1
  unused : r.unused = replies.drop (k + 1)
  verdict : Verdict s.policy (replyAt replies k) r.result

/-- Attempt `k` is used up for nothing: what it sent is sent again, or the budget is spent. -/
structure Wasted (s : Settings) (k : Nat) (r : Run) : Prop where
  again : k + 1 < s.attempts → k + 1 < r.requests.length ∧ r.requests[k + 1]? = r.requests[k]?
  last : k + 1 = s.attempts → r.requests.length = k + 1 ∧ Spent s.attempts s.policy r.result

theorem ended_run (query : String) (headers : List String) (hk : k < s.attempts)
    (before : ∀ i < k, ¬Decisive (replyAt replies i)) (decisive : Decisive (replyAt replies k)) :
    Ended s replies k (run s query headers replies) := by
  have hleast : IsLeast {i | i < s.attempts ∧ Decisive (replyAt replies i)} k :=
    ⟨⟨hk, decisive⟩, fun i hi => Nat.le_of_not_lt fun hlt => before i hlt hi.2⟩
  obtain ⟨calls, unused, verdict⟩ := (outcome_run s query headers replies).decided k hleast
  exact ⟨calls, unused, verdict⟩

theorem not_decisive_none : ¬Decisive (.ok none) := by
  rintro (⟨filters, text, warnings, h, -⟩ | ⟨failure, h, -⟩) <;> cases h

theorem rejectedTexts_take_of_none (h : replyAt replies k = .ok none) :
    rejectedTexts (replies.take (k + 1)) = rejectedTexts (replies.take k) := by
  rw [List.take_add_one, rejectedTexts, List.filterMap_append, ← rejectedTexts]
  cases hget : replies[k]? with
  | none => simp
  | some reply =>
    rw [replyAt, hget, Option.getD_some] at h
    simp [h, rejectedText?]

theorem wasted_run (query : String) (headers : List String)
    (before : ∀ i < k, ¬Decisive (replyAt replies i)) (hnone : replyAt replies k = .ok none) :
    Wasted s k (run s query headers replies) := by
  have hindecisive : ∀ i < k + 1, ¬Decisive (replyAt replies i) := by
    intro i hi
    rcases Nat.lt_succ_iff_lt_or_eq.mp hi with hlt | rfl
    · exact before i hlt
    · exact hnone ▸ not_decisive_none
  have houtcome := outcome_run s query headers replies
  constructor
  · intro hmore
    have hlength : k + 1 < (run s query headers replies).requests.length := by
      rcases exists_first_decisive replies s.attempts with ⟨j, hj⟩ | hnever
      · have hlate : k < j := by
          by_contra hle
          exact hindecisive j (by omega) hj.1.2
        rw [(houtcome.decided j hj).1]
        omega
      · rw [(houtcome.spent hnever).1]
        exact hmore
    refine ⟨hlength, ?_⟩
    -- An empty reply leaves no trace, so the next request is the one before.
    have hnext := List.getElem?_eq_getElem hlength
    have hthis := List.getElem?_eq_getElem (Nat.lt_of_succ_lt hlength)
    rw [hnext, hthis, run_request hnext, run_request hthis, rejectedTexts_take_of_none hnone]
  · intro hlast
    obtain ⟨calls, -, spent⟩ := houtcome.spent (hlast ▸ hindecisive)
    exact ⟨calls.trans hlast.symm, spent⟩

end RowQuery.Generation

namespace RowQuery.Chat.Completion
open Generation (replyAt Decisive Ended Wasted)

/-- What a complete final answer comes to, by its status and its body, and what it does to a
conversation that reaches it. -/
theorem complete_of_final_answer {service : Service} {asked : Request} {post : Http.Request}
    {status length : Nat} {octets body : ByteArray} (hpost : service.post? asked = some post)
    (hfinal : isFinal status = true) (hbody : body? status length octets = some body) :
    let reply := (service.complete asked (.answer status length octets)).2
    (¬(200 ≤ status ∧ status < 300) → ∃ text, reply = .error (.http status text) ∧
      text.toList = (Text.Octets.chars body.data.toList).take 512 ∧
      ∀ whole : String, body = whole.toUTF8 → text.toList = whole.toList.take 512) ∧
    (200 ≤ status ∧ status < 300 → Told reply (Json.Document.ofBytes body.data.toList)) ∧
    (∀ s, reply = .ok (some s) → HasInk s) ∧
    ∀ (settings : Generation.Settings) query headers replies k, k < settings.attempts →
      (∀ i < k, ¬Decisive (replyAt replies i)) → replyAt replies k = reply →
      (∀ failure, reply = .error failure →
        Ended settings replies k (Generation.run settings query headers replies)) ∧
      (reply = .ok none → Wasted settings k (Generation.run settings query headers replies)) := by
  intro reply
  have hreply : reply = service.reply (.answer status length octets) := by
    simp only [reply, Service.complete, hpost]
  refine ⟨fun hstatus => ?_, fun hstatus => ?_, fun s hs => ?_, ?_⟩
  · refine ⟨failureText body, hreply.trans (reply_of_failure hfinal hbody hstatus),
      failureText_toList body, ?_⟩
    rintro whole rfl
    rw [failureText_toList, Text.Octets.chars_toUTF8]
  · exact hreply ▸ told_of_success hbody hstatus
  · exact Service.complete_hasInk hs
  · intro settings query headers replies k hk before hreplies
    refine ⟨fun failure hfailure => ?_, fun hnone => ?_⟩
    · have hdecisive : Decisive (replyAt replies k) :=
        .inr ⟨failure, hreplies.trans hfailure, ne_timeout_of_answer (hreply ▸ hfailure)⟩
      exact Generation.ended_run query headers hk before hdecisive
    · exact Generation.wasted_run query headers before (hreplies.trans hnone)

theorem complete_of_final_answer_blank_and_refused :
    let service : Service := ⟨"http://h/v1", "m", "k", 5⟩
    let blank :=
      "\x7b\"choices\":[\x7b\"message\":\x7b\"content\":\" \"\x7d\x7d,[[]]]\x7d".toUTF8
    let settings : Generation.Settings := ⟨2, .fail, false⟩
    (service.complete ⟨[], none, false⟩ (.answer 200 46 blank)).2 = .ok none ∧
      (∃ contents, Answers (Json.Document.ofBytes blank.data.toList) contents) ∧
      Wasted settings 0 (Generation.run settings "q" [] [.ok none]) ∧
      ∃ text, (service.complete ⟨[], none, false⟩ (.answer 503 4 "busy".toUTF8)).2 =
          .error (.http 503 text) ∧ text.toList = "busy".toList ∧
        Ended settings [.error (.http 503 text)] 0
          (Generation.run settings "q" [] [.error (.http 503 text)]) := by
  intro service blank settings
  obtain ⟨post, hpost⟩ : ∃ post, service.post? ⟨[], none, false⟩ = some post :=
    Option.isSome_iff_exists.mp (by decide +kernel)
  have hblank : body? 200 46 blank = some blank := by cbv
  have hrefused : body? 503 4 "busy".toUTF8 = some "busy".toUTF8 := by cbv
  have hnone : (service.complete ⟨[], none, false⟩ (.answer 200 46 blank)).2 = .ok none := by
    rw [Service.complete, hpost]
    cbv
  obtain ⟨-, htold, -, hwasted⟩ := complete_of_final_answer hpost rfl hblank
  obtain ⟨herror, -, -, hended⟩ := complete_of_final_answer hpost rfl hrefused
  obtain ⟨text, htext, -, hwhole⟩ := herror (by decide)
  have hread : ∃ contents, Answers (Json.Document.ofBytes blank.data.toList) contents := by
    obtain ⟨contents, h, -⟩ := (htold (by decide)).nothing.mp hnone
    exact ⟨contents, h⟩
  have hfirst : ∀ replies, ∀ i < 0, ¬Decisive (replyAt replies i) := fun _ i hi =>
    absurd hi (Nat.not_lt_zero i)
  refine ⟨hnone, hread, ?_, text, htext, hwhole "busy" rfl, ?_⟩
  · exact (hwasted settings "q" [] [.ok none] 0 (by decide) (hfirst _) hnone.symm).2 hnone
  · exact (hended settings "q" [] [.error (.http 503 text)] 0 (by decide) (hfirst _)
      htext.symm).1 _ htext

end RowQuery.Chat.Completion
