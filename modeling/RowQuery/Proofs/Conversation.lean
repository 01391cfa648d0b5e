import Mathlib
import RowQuery.Chat.Completion
import RowQuery.Proofs.Attempts

/-!
# What a conversation says

Every request of a conversation opens with the instructions and the query. Behind them stand, in
order, the replies so far that could not be read, each with a correction, and nothing else: empty
replies and timeouts leave no trace. So each request continues the one before, and the turns of
user and model alternate.
-/
namespace RowQuery

namespace Chat.Completion

/-- The text has a character that is not blank. -/
def HasInk (s : String) : Prop := ∃ c ∈ s.toList, Text.isBlank c = false

theorem hasInk_iff {s : String} : HasInk s ↔ (!Text.isBlankText s) = true := by
  simp [HasInk, Text.isBlankText]

theorem Service.complete_hasInk {service : Service} {asked : Request} {delivery : Delivery}
    {text : String} (h : (service.complete asked delivery).2 = .ok (some text)) : HasInk text := by
  have hcontent : ∀ choices, content choices = some text → HasInk text := fun choices hc =>
    hasInk_iff.mpr (Option.filter_eq_some_iff.mp hc).2
  have hreply : service.reply delivery = .ok (some text) := by
    rw [Service.complete] at h
    split at h
    · exact h
    · cases h
  cases delivery with
  | silence => cases hreply
  | closed => cases hreply
  | answer status length octets =>
    simp only [Service.reply] at hreply
    split at hreply
    · cases hreply
    · split at hreply
      · split at hreply
        · exact hcontent _ (Except.ok.inj hreply)
        · cases hreply
      · cases hreply

end Chat.Completion

namespace Generation
open Chat

def conversation (query : String) (headers rejected : List String) : List Message :=
  opening query headers ++ rejected.flatMap correctionTurns

def rejectedTexts (replies : List Reply) : List String := replies.filterMap rejectedText?

theorem rejectedTexts_take_succ (replies : List Reply) (j : Nat) :
    rejectedTexts (replies.take (j + 1)) =
      (rejectedText? (nextReply replies).1).toList ++
        rejectedTexts ((nextReply replies).2.take j) := by
  cases replies with
  | nil => simp [rejectedTexts, nextReply, rejectedText?]
  | cons reply replies =>
    cases h : rejectedText? reply <;> simp [rejectedTexts, nextReply, h]

theorem converse_request {s : Settings} {messages : List Message} {replies : List Reply}
    {left j : Nat} {q : Request}
    (sent : (converse s messages replies left).requests[j]? = some q) :
    q = request (messages ++ (rejectedTexts (replies.take j)).flatMap correctionTurns) := by
  induction left generalizing messages replies j with
  | zero => simp [converse, exhausted] at sent
  | succ left ih =>
    rw [converse] at sent
    rcases Turn.ofReply_cases s.debug (s.attempts - left) (nextReply replies).1 with
      ⟨filters, events, -, hturn⟩ | ⟨failure, -, -, hturn⟩ | ⟨-, events, hturn⟩
    -- An attempt that ends the conversation sends no request after its own.
    · simp only [hturn] at sent
      cases j with
      | zero => simpa [rejectedTexts] using sent.symm
      | succ j => simp at sent
    · simp only [hturn, Run.after, stopped] at sent
      cases j with
      | zero => simpa [rejectedTexts] using sent.symm
      | succ j => simp at sent
    · simp only [hturn, Run.after] at sent
      cases j with
      | zero => simpa [rejectedTexts] using sent.symm
      | succ j =>
        rw [ih sent, rejectedTexts_take_succ, List.flatMap_append, List.append_assoc]

theorem run_request {s : Settings} {query : String} {headers : List String}
    {replies : List Reply} {j : Nat} {q : Request}
    (sent : (run s query headers replies).requests[j]? = some q) :
    q = request (conversation query headers (rejectedTexts (replies.take j))) := by
  obtain ⟨events, hr⟩ := run_eq_converse s query headers replies
  rw [hr] at sent
  exact converse_request sent

theorem roles_conversation (query : String) (headers rejected : List String) :
    (conversation query headers rejected).map Message.role =
      .system :: .user :: (List.replicate rejected.length [.assistant, .user]).flatten := by
  induction rejected with
  | nil => rfl
  | cons text rejected ih =>
    simp only [conversation, opening, List.map_cons, List.cons_append,
      List.nil_append, List.cons.injEq, true_and] at ih
    simp [conversation, opening, correctionTurns, ih, List.replicate_succ]

theorem length_conversation (query : String) (headers rejected : List String) :
    (conversation query headers rejected).length = 2 + 2 * rejected.length := by
  induction rejected with
  | nil => rfl
  | cons text rejected ih =>
    simp only [conversation, opening, correctionTurns, List.length_append, List.length_cons,
      List.length_nil, List.flatMap_cons] at ih ⊢
    omega

theorem conversation_prefix (query : String) (headers : List String) (replies : List Reply)
    {i j : Nat} (h : i ≤ j) :
    conversation query headers (rejectedTexts (replies.take i)) <+:
      conversation query headers (rejectedTexts (replies.take j)) := by
  have htake : replies.take i <+: replies.take j := List.take_prefix_take_left h
  have htexts : rejectedTexts (replies.take i) <+: rejectedTexts (replies.take j) :=
    htake.filterMap rejectedText?
  exact (List.prefix_append_right_inj _).mpr (htexts.flatMap correctionTurns)

theorem mem_rejectedTexts {replies : List Reply} {text : String}
    (h : text ∈ rejectedTexts replies) : Except.ok (some text) ∈ replies := by
  obtain ⟨reply, hmem, hreply⟩ := List.mem_filterMap.mp h
  exact (rejectedText?_eq_some_iff.mp hreply).1 ▸ hmem

theorem content_mem_of_assistant {query : String} {headers rejected : List String} {m : Message}
    (hm : m ∈ conversation query headers rejected) (hrole : m.role = .assistant) :
    m.content ∈ rejected := by
  simp only [conversation, opening, List.mem_append, List.mem_cons, List.not_mem_nil, or_false,
    List.mem_flatMap, correctionTurns] at hm
  rcases hm with (rfl | rfl) | ⟨text, htext, rfl | rfl⟩
  · cases hrole
  · cases hrole
  · exact htext
  · cases hrole

/-- Every request is determined by the texts rejected before it, so it continues all the requests
before. A service passes on no blank text, so none is put back to it. -/
theorem run_request_law (s : Settings) (query : String) (headers : List String)
    (replies : List Reply) {j : Nat} {q : Request}
    (sent : (run s query headers replies).requests[j]? = some q) :
    let rejected := (replies.take j).filterMap rejectedText?
    q.messages = ⟨.system, Prompt.system headers⟩ :: ⟨.user, query⟩ ::
      rejected.flatMap (fun text => [⟨.assistant, text⟩, ⟨.user, Prompt.correction⟩]) ∧
    q.temperature = some (.zero false) ∧ q.jsonOutput = true ∧
    (∀ i p, i ≤ j → (run s query headers replies).requests[i]? = some p →
      p.messages <+: q.messages) ∧
    q.messages.map Message.role =
      .system :: .user :: (List.replicate rejected.length [.assistant, .user]).flatten ∧
    q.messages.length = 2 + 2 * rejected.length ∧
    ∀ service : Completion.Service,
      (∀ reply ∈ replies, ∃ asked delivery, reply = (service.complete asked delivery).2) →
      ∀ m ∈ q.messages, m.role = .assistant → Completion.HasInk m.content := by
  obtain rfl := run_request sent
  refine ⟨rfl, rfl, rfl, fun i p hi hp => ?_, roles_conversation _ _ _, length_conversation _ _ _,
    fun service hservice m hm hrole => ?_⟩
  · rw [run_request hp]
    exact conversation_prefix query headers replies hi
  -- The turns of a model are texts it replied with, and a service passes on no blank ones.
  · have htaken := mem_rejectedTexts (content_mem_of_assistant hm hrole)
    obtain ⟨asked, delivery, hreply⟩ := hservice _ (List.mem_of_mem_take htaken)
    exact Completion.Service.complete_hasInk hreply.symm

theorem run_request_law_after_rejections :
    let replies : List Reply := [.ok (some "?"), .ok none, .ok (some "[]")]
    let r := run ⟨4, .fail, false⟩ "q" ["a"] replies
    let service : Completion.Service := ⟨"http://h/v1", "m", "k", 5⟩
    let told (length : Nat) (text : String) : Completion.Delivery := .answer 200 length
      ("\x7b\"choices\":[\x7b\"message\":\x7b\"content\":\"" ++ text ++ "\"\x7d\x7d]\x7d").toUTF8
    replies = [told 41 "?", told 41 " ", told 42 "[]"].map
      (fun delivery => (service.complete ⟨[], none, false⟩ delivery).2) ∧
    ∃ q, r.requests[3]? = some q ∧
      q.messages = [⟨.system, Prompt.system ["a"]⟩, ⟨.user, "q"⟩, ⟨.assistant, "?"⟩,
        ⟨.user, Prompt.correction⟩, ⟨.assistant, "[]"⟩, ⟨.user, Prompt.correction⟩] ∧
      q.messages.length = 6 ∧
      ∀ m ∈ q.messages, m.role = .assistant → Completion.HasInk m.content := by
  intro replies r service told
  have hreplies : replies = [told 41 "?", told 41 " ", told 42 "[]"].map
      (fun delivery => (service.complete ⟨[], none, false⟩ delivery).2) := by
    obtain ⟨post, hpost⟩ : ∃ post, service.post? ⟨[], none, false⟩ = some post :=
      Option.isSome_iff_exists.mp (by decide +kernel)
    have hfirst : service.reply (told 41 "?") = .ok (some "?") := by cbv
    have hsecond : service.reply (told 41 " ") = .ok none := by cbv
    have hthird : service.reply (told 42 "[]") = .ok (some "[]") := by cbv
    simp only [List.map_cons, List.map_nil, Completion.Service.complete, hpost, hfirst, hsecond,
      hthird]
    rfl
  have hservice : ∀ reply ∈ replies, ∃ asked delivery,
      reply = (service.complete asked delivery).2 := by
    rw [hreplies]
    rintro reply hreply
    obtain ⟨delivery, -, rfl⟩ := List.mem_map.mp hreply
    exact ⟨_, delivery, rfl⟩
  have hmark : Filter.ofReply "?" = .error (.invalidJson .expectedValue) := by cbv
  have hlist : Filter.ofReply "[]" = .error .notAnObject := by cbv
  have hsent : r.requests[3]? = some (request (conversation "q" ["a"] ["?", "[]"])) := by
    simp [r, replies, run, Settings.attempts, converse, nextReply, Turn.ofReply, Run.after,
      conversation, exhausted, fallback, hmark, hlist]
  have hfirst := rejectedText?_eq_some_iff.mpr ⟨rfl, _, hmark⟩
  have hthird := rejectedText?_eq_some_iff.mpr ⟨rfl, _, hlist⟩
  have hempty : rejectedText? (.ok none) = none := rfl
  have hrejected : (replies.take 3).filterMap rejectedText? = ["?", "[]"] := by
    simp [replies, hfirst, hthird, hempty]
  obtain ⟨hmessages, -, -, -, -, hlength, hink⟩ :=
    run_request_law ⟨4, .fail, false⟩ "q" ["a"] replies hsent
  rw [hrejected] at hmessages hlength
  exact ⟨hreplies, _, hsent, hmessages, hlength, hink service hservice⟩

end Generation
end RowQuery
