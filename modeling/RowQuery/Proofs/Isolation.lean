import Mathlib
import RowQuery.Proofs.Answers

/-!
# Queries do not meet

A session is moved by the replies that it receives and by nothing else, so among any other sessions
it is where it would be with its replies alone. A lone session in turn follows the run of its query:
before each request, the run over all replies is what the session has done and the conversation from
there. The two together say that interleaving changes no answer.
-/
namespace RowQuery
open Json

namespace Generation

def Run.behind (sent : List Chat.Request) (events : List Event) (r : Run) : Run :=
  { r with requests := sent ++ r.requests, events := events ++ r.events }

theorem run_behind (s : Settings) (query : String) (headers : List String)
    (replies : List Chat.Reply) : run s query headers replies =
      (converse s (opening query headers) replies s.attempts).behind []
        (if s.debug then [.prompt query (Prompt.system headers)] else []) := by
  rw [run]
  cases s.debug <;> rfl

end Generation

namespace Query
open Generation
variable {s : Settings} {ask : Ask} {replies : List Chat.Reply} {requests : List Chat.Request}

/-- What the session of a query has come to: the run over the replies received, and whatever may
follow them, begins with the requests it sent. -/
inductive Follows (s : Settings) (ask : Ask) (requests : List Chat.Request)
    (replies : List Chat.Reply) : Session → Prop
  | waiting {w : Waiting} : w.sent = requests → requests.length = replies.length →
      replies.length + (w.left + 1) = s.attempts →
      (∀ rest, run s ask.query ask.records (replies ++ rest) =
        answerOf w.dataset ((converse s w.messages rest (w.left + 1)).behind w.sent w.events)) →
      Follows s ask requests replies (.waiting w)
  | answered {a : Answer} : a.requests = requests → requests.length = replies.length →
      replies.length ≤ s.attempts → a.unused = [] →
      (∀ rest, run s ask.query ask.records (replies ++ rest) = { a with unused := rest }) →
      Follows s ask requests replies (.answered a)

theorem follows_start (s : Settings) (ask : Ask) : Follows s ask [] [] (.start s ask) := by
  cases h : Dataset.ofRecords ask.records with
  | error e =>
    simp only [Session.start, h]
    exact .answered rfl rfl (Nat.zero_le _) rfl fun rest => run_of_invalid h rest
  | ok d =>
    cases hrows : d.rows.isEmpty with
    | true =>
      simp only [Session.start, h, hrows, if_true]
      exact .answered rfl rfl (Nat.zero_le _) rfl fun rest => run_of_empty h hrows rest
    | false =>
      simp only [Session.start, h, hrows, Bool.false_eq_true, if_false]
      have hattempts : s.attempts - 1 + 1 = s.attempts := by
        simp only [Settings.attempts]
        omega
      refine .waiting rfl rfl ?_ fun rest => ?_
      · rw [List.length_nil, Nat.zero_add, hattempts]
      · rw [hattempts, ← run_behind, List.nil_append]
        exact run_of_rows h hrows rest

theorem answerOf_after (w : Waiting) (events : List Event) (r : Run) (rest : List Chat.Reply) :
    answerOf w.dataset
      ((Run.after w.request events { r with unused := rest }).behind w.sent w.events) =
    { answerOf w.dataset ⟨r.result, w.sent ++ w.request :: r.requests,
        w.events ++ events ++ r.events, r.unused⟩ with unused := rest } := by
  simp only [answerOf, Run.after, Run.behind, List.append_assoc]
  split
  · rfl
  · split <;> rfl

theorem follows_close {w : Waiting} (hlength : w.sent.length = replies.length)
    (hleft : replies.length < s.attempts) {reply : Chat.Reply} {events : List Event} {r : Run}
    (hr : r.requests = []) (hunused : r.unused = [])
    (hrun : ∀ rest, run s ask.query ask.records (replies ++ reply :: rest) =
      answerOf w.dataset
        ((Run.after w.request events { r with unused := rest }).behind w.sent w.events)) :
    Follows s ask (w.sent ++ [w.request]) (replies ++ [reply]) (w.close events r) := by
  refine .answered ?_ ?_ ?_ ?_ fun rest => ?_
  · rw [answerOf_requests, hr]
  · simp [hlength]
  · rw [List.length_append]
    exact hleft
  · rw [answerOf_unused, hunused]
  · rw [List.append_assoc, List.singleton_append, hrun, answerOf_after]

/-- One exchange of a lone session is one step of the conversation. -/
theorem follows_receive {w : Waiting} (h : Follows s ask requests replies (.waiting w))
    (reply : Chat.Reply) :
    Follows s ask (requests ++ [w.request]) (replies ++ [reply]) (w.receive s reply) := by
  cases h with
  | waiting hsent hlength hleft hrun =>
    obtain rfl := hsent
    have hmore : replies.length < s.attempts := by omega
    have hstep : ∀ rest, run s ask.query ask.records (replies ++ reply :: rest) =
        answerOf w.dataset
          ((converse s w.messages (reply :: rest) (w.left + 1)).behind w.sent w.events) :=
      fun rest => hrun (reply :: rest)
    simp only [converse, nextReply] at hstep
    rw [Waiting.receive]
    -- What the reply does to the session it does to the run, whatever may follow.
    cases hturn : Turn.ofReply s.debug (s.attempts - w.left) reply with
    | accept filters events =>
      simp only [hturn] at hstep
      refine follows_close hlength hmore rfl rfl fun rest => ?_
      rw [hstep rest, Run.after, List.append_nil]
      rfl
    | stop failure =>
      simp only [hturn] at hstep
      exact follows_close hlength hmore rfl rfl hstep
    | retry more events =>
      simp only [hturn] at hstep
      cases hw : w.left with
      | zero =>
        simp only [hw, converse] at hstep
        exact follows_close hlength hmore rfl rfl hstep
      | succ left =>
        simp only [hw] at hstep hleft
        refine .waiting rfl ?_ ?_ fun rest => ?_
        · simp [hlength]
        · simp only [List.length_append, List.length_singleton]
          omega
        · rw [List.append_assoc, List.singleton_append, hstep]
          simp only [Run.behind, Run.after, Waiting.request, List.append_assoc,
            List.singleton_append]

def Session.receive (s : Settings) : Session → Chat.Reply → Session
  | .waiting w, reply => w.receive s reply
  | .answered a, _ => .answered a

/-- Where the session of a query is when it is alone with the replies. -/
def alone (s : Settings) (ask : Ask) (replies : List Chat.Reply) : Session :=
  replies.foldl (Session.receive s) (.start s ask)

theorem alone_append (s : Settings) (ask : Ask) (replies : List Chat.Reply) (reply : Chat.Reply) :
    alone s ask (replies ++ [reply]) = (alone s ask replies).receive s reply := by
  simp [alone]

namespace Move

theorem asks_append (moves : List Move) (m : Move) :
    asks (moves ++ [m]) = asks moves ++ m.ask?.toList := by
  cases h : m.ask? <;> simp [asks, h]

theorem requestsOf_append (number : Nat) (moves : List Move) (m : Move) :
    requestsOf number (moves ++ [m]) =
      requestsOf number moves ++ (m.requestOf? number).toList := by
  cases h : m.requestOf? number <;> simp [requestsOf, h]

theorem repliesTo_append (number : Nat) (moves : List Move) (m : Move) :
    repliesTo number (moves ++ [m]) = repliesTo number moves ++ (m.replyTo? number).toList := by
  cases h : m.replyTo? number <;> simp [repliesTo, h]

end Move

open Move
variable {moves : List Move} {sessions : List Session}

theorem Flight.numbered (h : Flight s moves sessions) :
    sessions.length = (asks moves).length ∧
      ∀ number, sessions.length ≤ number →
        requestsOf number moves = [] ∧ repliesTo number moves = [] := by
  induction h with
  | empty => exact ⟨rfl, fun _ _ => ⟨rfl, rfl⟩⟩
  | arrive ask _ ih =>
    refine ⟨by simp [asks_append, ask?, ih.1], fun number hnumber => ?_⟩
    rw [List.length_append] at hnumber
    obtain ⟨hrequests, hreplies⟩ := ih.2 number (by omega)
    simp [requestsOf_append, repliesTo_append, requestOf?, replyTo?, hrequests, hreplies]
  | @exchange moves sessions n w reply _ hw ih =>
    refine ⟨by simp [asks_append, ask?, ih.1], fun number hnumber => ?_⟩
    rw [List.length_set] at hnumber
    have hn : n < sessions.length := (List.getElem?_eq_some_iff.mp hw).1
    have hne : n ≠ number := by omega
    obtain ⟨hrequests, hreplies⟩ := ih.2 number hnumber
    simp [requestsOf_append, repliesTo_append, requestOf?, replyTo?, hrequests, hreplies, hne]

/-- Among others, a session is where it would be alone with its replies. -/
theorem Flight.session_eq (h : Flight s moves sessions) {number : Nat} {ask : Ask}
    (asked : (asks moves)[number]? = some ask) :
    sessions[number]? = some (alone s ask (repliesTo number moves)) ∧
      Follows s ask (requestsOf number moves) (repliesTo number moves)
        (alone s ask (repliesTo number moves)) := by
  -- By the moves: a new query leaves the sessions before it alone, an exchange all but its own.
  induction h with
  | empty => cases asked
  | @arrive moves sessions new before ih =>
    obtain ⟨hlength, hfresh⟩ := before.numbered
    rw [asks_append] at asked
    simp only [ask?, Option.toList_some] at asked
    simp only [requestsOf_append, repliesTo_append, requestOf?, replyTo?, Option.toList_none,
      List.append_nil]
    by_cases hold : number < (asks moves).length
    · rw [List.getElem?_append_left hold] at asked
      rw [List.getElem?_append_left (hlength ▸ hold)]
      exact ih asked
    · have hlast : number = (asks moves).length := by
        have := (List.getElem?_eq_some_iff.mp asked).1
        rw [List.length_append, List.length_singleton] at this
        omega
      subst hlast
      rw [List.getElem?_concat_length] at asked
      obtain rfl := Option.some.inj asked
      obtain ⟨hrequests, hreplies⟩ := hfresh (asks moves).length hlength.le
      rw [hrequests, hreplies, ← hlength, List.getElem?_concat_length]
      exact ⟨rfl, follows_start s new⟩
  | @exchange moves sessions n w reply before hw ih =>
    rw [asks_append] at asked
    simp only [ask?, Option.toList_none, List.append_nil] at asked
    obtain ⟨hsession, hfollows⟩ := ih asked
    simp only [requestsOf_append, repliesTo_append, requestOf?, replyTo?]
    by_cases hn : n = number
    · subst hn
      have hwaiting : alone s ask (repliesTo n moves) = .waiting w :=
        Option.some.inj (hsession.symm.trans hw)
      have hmoved : alone s ask (repliesTo n moves ++ [reply]) = w.receive s reply := by
        rw [alone_append, hwaiting]
        rfl
      have hlt : n < sessions.length := (List.getElem?_eq_some_iff.mp hw).1
      simp only [if_true, Option.toList_some, hmoved]
      rw [hwaiting] at hfollows
      exact ⟨List.getElem?_set_self hlt, follows_receive hfollows reply⟩
    · simp only [if_neg hn, Option.toList_none, List.append_nil]
      rw [List.getElem?_set_ne hn]
      exact ⟨hsession, hfollows⟩

/-- What the session of a query amounts to without any other: it has followed the run over the
replies received, it ends as that run does, and what it says is its own. -/
structure Lone (s : Settings) (ask : Ask) (requests : List Chat.Request)
    (replies : List Chat.Reply) (session : Session) : Prop where
  calls : requests.length = replies.length ∧ requests.length ≤ max 1 s.maxAttempts
  answered : ∀ a, session = .answered a →
    a = run s ask.query ask.records replies ∧ requests = a.requests ∧ a.unused = []
  waiting : ∀ w, session = .waiting w → requests.length < max 1 s.maxAttempts ∧
    ∀ rest, requests ++ [w.request] <+: (run s ask.query ask.records (replies ++ rest)).requests
  messages : ∀ q ∈ requests, ∀ m ∈ q.messages, Own ask replies m

theorem converse_begins (s : Settings) (messages : List Chat.Message)
    (replies : List Chat.Reply) (left : Nat) :
    [Generation.request messages] <+: (converse s messages replies (left + 1)).requests := by
  simp only [converse]
  split
  · exact List.prefix_rfl
  · exact List.prefix_append _ _
  · exact List.prefix_append _ _

theorem Follows.requests_eq {others : List Chat.Request} {session : Session}
    (h : Follows s ask requests replies session) (h' : Follows s ask others replies session) :
    requests = others := by
  cases h with
  | waiting hsent =>
    cases h' with
    | waiting hsent' => exact hsent.symm.trans hsent'
  | answered hsent =>
    cases h' with
    | answered hsent' => exact hsent.symm.trans hsent'

theorem Follows.lone {session : Session} (h : Follows s ask requests replies session) :
    Lone s ask requests replies session := by
  have hbudget : s.attempts = max 1 s.maxAttempts := Nat.max_comm _ _
  cases h with
  | @waiting w hsent hlength hleft hrun =>
    obtain rfl := hsent
    have hnext (rest : List Chat.Reply) : w.sent ++ [w.request] <+:
        (run s ask.query ask.records (replies ++ rest)).requests := by
      rw [hrun rest, answerOf_requests]
      exact (List.prefix_append_right_inj _).mpr (converse_begins s w.messages rest w.left)
    refine ⟨⟨hlength, by omega⟩, nofun, ?_, fun q hq m hm => ?_⟩
    · rintro _ ⟨⟩
      exact ⟨by omega, hnext⟩
    · have hbegins := hnext []
      rw [List.append_nil] at hbegins
      exact own_of_mem_requests (hbegins.subset (List.mem_append_left _ hq)) hm
  | @answered a hsent hlength hcalls hunused hrun =>
    obtain rfl := hsent
    have ha : a = run s ask.query ask.records replies := by
      have := hrun []
      rw [List.append_nil, ← hunused] at this
      exact this.symm
    refine ⟨⟨hlength, by omega⟩, ?_, nofun, fun q hq m hm => ?_⟩
    · rintro _ ⟨⟩
      exact ⟨ha, rfl, hunused⟩
    · rw [ha] at hq
      exact own_of_mem_requests hq hm

/-- Queries one after another: each begins where the calls of the earlier ones end. -/
theorem getElem?_runAll (s : Settings) (script : List Chat.Reply) {asks : List Ask} {i : Nat}
    {ask : Ask} (asked : asks[i]? = some ask) :
    (runAll s script asks)[i]? = some (run s ask.query ask.records
      (script.drop (((runAll s script asks).take i).map fun a => a.requests.length).sum)) := by
  induction asks generalizing script i with
  | nil => cases asked
  | cons first asks ih =>
    cases i with
    | zero =>
      cases asked
      rfl
    | succ i =>
      have hleft := run_unused s first.query first.records script
      simp only [runAll, List.getElem?_cons_succ, List.take_succ_cons, List.map_cons,
        List.sum_cons]
      rw [ih _ asked, hleft, List.drop_drop]

theorem run_of_no_rows (s : Settings) (query : String) {records : List Value}
    (h : records = [] ∨ ∃ i, Dataset.Misfit records i) (replies : List Chat.Reply) :
    (run s query records replies).requests = [] ∧
      (run s query records replies).unused = replies := by
  rcases run_cases s query records replies with ⟨e, -, hrun⟩ | ⟨-, hrun⟩ | ⟨d, hd, hsome, -⟩
  · rw [hrun]
    exact ⟨rfl, rfl⟩
  · rw [hrun]
    exact ⟨rfl, rfl⟩
  · rcases h with rfl | ⟨i, hi⟩
    · exact absurd rfl hsome
    · exact absurd hi (Dataset.not_misfit_of_ok hd i)

/-- Queries do not meet. Whatever is done in between, a session is that of its query alone with the
replies it receives; two sessions of one query that receive the same replies are the same, in any
two services; and queries that share one list of replies take it in turn, where a query without rows
takes nothing. -/
theorem queries_never_meet (s : Settings) :
    (∀ moves sessions, Flight s moves sessions → ∀ (number : Nat) (ask : Ask),
      (asks moves)[number]? = some ask → ∃ session, sessions[number]? = some session ∧
        Lone s ask (requestsOf number moves) (repliesTo number moves) session) ∧
    (∀ moves sessions moves' sessions', Flight s moves sessions → Flight s moves' sessions' →
      ∀ (i j : Nat) (ask : Ask), (asks moves)[i]? = some ask → (asks moves')[j]? = some ask →
        repliesTo i moves = repliesTo j moves' →
        sessions[i]? = sessions'[j]? ∧ requestsOf i moves = requestsOf j moves') ∧
    ∀ (script : List Chat.Reply) (asks : List Ask) (i : Nat) (ask : Ask), asks[i]? = some ask →
      let taken := (((runAll s script asks).take i).map fun a => a.requests.length).sum
      let answer := run s ask.query ask.records (script.drop taken)
      (runAll s script asks)[i]? = some answer ∧
        (ask.records = [] ∨ (∃ k, Dataset.Misfit ask.records k) →
          answer.requests = [] ∧ answer.unused = script.drop taken) := by
  refine ⟨fun moves sessions h number ask asked => ?_,
    fun moves sessions moves' sessions' h h' i j ask asked asked' hreplies => ?_,
    fun script asks i ask asked => ?_⟩
  · obtain ⟨hsession, hfollows⟩ := h.session_eq asked
    exact ⟨_, hsession, hfollows.lone⟩
  · obtain ⟨hsession, hfollows⟩ := h.session_eq asked
    obtain ⟨hsession', hfollows'⟩ := h'.session_eq asked'
    rw [← hreplies] at hsession' hfollows'
    exact ⟨hsession.trans hsession'.symm, hfollows.requests_eq hfollows'⟩
  · exact ⟨getElem?_runAll s script asked, fun h => run_of_no_rows s _ h _⟩

theorem queries_never_meet_interleaved :
    let s : Settings := ⟨2, .fail, false⟩
    let one : Ask := ⟨"a", [.object [("x", .null)]]⟩
    let other : Ask := ⟨"b", [.object [("y", .null)]]⟩
    let empty : Ask := ⟨"c", []⟩
    let replies : List Chat.Reply := [.ok none, .ok (some "\x7b\x7d")]
    ∃ moves sessions a w, Flight s moves sessions ∧ asks moves = [one, other] ∧
      sessions = [.answered a, .waiting w] ∧
      repliesTo 0 moves = replies ∧ repliesTo 1 moves = [.ok (some "?")] ∧
      a = run s one.query one.records replies ∧ a.result = .ok [[("x", .null)]] ∧
      a.requests.length = 2 ∧ w.request.messages.length = 4 ∧
      (∃ moves' sessions', Flight s moves' sessions' ∧ asks moves' = [other] ∧
        some (.waiting w) = sessions'[0]? ∧ requestsOf 1 moves = requestsOf 0 moves') ∧
      (runAll s replies [empty, one])[1]? = some a := by
  intro s one other empty replies
  have hbad : Filter.ofReply "?" = .error (.invalidJson .expectedValue) := by cbv
  have hgood : Filter.ofReply "\x7b\x7d" = .ok ([], []) := by cbv
  let w : Waiting := ⟨⟨["x"], [[("x", .null)]]⟩, opening "a" ["x"], 1, [], []⟩
  let w' : Waiting :=
    { w with left := 0, sent := [w.request], events := [.warning (.emptyReply 1)] }
  let a : Answer := ⟨.ok [[("x", .null)]], [w.request, w'.request], w'.events, []⟩
  let v : Waiting := ⟨⟨["y"], [[("y", .null)]]⟩, opening "b" ["y"], 1, [], []⟩
  let v' : Waiting := ⟨v.dataset, v.messages ++ correctionTurns "?", 0, [v.request],
    [.warning (.unusableReply 1 (Filter.ReplyError.invalidJson .expectedValue).message)]⟩
  have hrejected : v.receive s (.ok (some "?")) = .waiting v' := by
    simp [Waiting.receive, Turn.ofReply, hbad, Settings.attempts, s, v, v']
  have hread : w'.receive s (.ok (some "\x7b\x7d")) = .answered a := by
    simp only [Waiting.receive, Turn.ofReply, hgood]
    rfl
  let moves : List Move := [.arrive one, .arrive other, .exchange 0 w.request (.ok none),
    .exchange 1 v.request (.ok (some "?")),
    .exchange 0 w'.request (.ok (some "\x7b\x7d"))]
  have hflight : Flight s moves [.answered a, .waiting v'] := by
    have hstarted : Flight s [.arrive one, .arrive other] [.waiting w, .waiting v] :=
      .arrive other (.arrive one .empty)
    have hfirst : Flight s [.arrive one, .arrive other, .exchange 0 w.request (.ok none)]
        [.waiting w', .waiting v] := hstarted.exchange (.ok none) rfl
    have hsecond : Flight s [.arrive one, .arrive other, .exchange 0 w.request (.ok none),
        .exchange 1 v.request (.ok (some "?"))] [.waiting w', v.receive s (.ok (some "?"))] :=
      hfirst.exchange (.ok (some "?")) rfl
    have hthird : Flight s moves [w'.receive s (.ok (some "\x7b\x7d")),
        v.receive s (.ok (some "?"))] := hsecond.exchange (.ok (some "\x7b\x7d")) rfl
    rwa [hread, hrejected] at hthird
  obtain ⟨hlone, hsame, hshared⟩ := queries_never_meet s
  obtain ⟨session, hsession, hown⟩ := hlone moves _ hflight 0 one rfl
  obtain rfl : .answered a = session := Option.some.inj hsession
  have hrun : a = run s one.query one.records replies := (hown.answered a rfl).1
  have halone : Flight s [.arrive other, .exchange 0 v.request (.ok (some "?"))]
      [v.receive s (.ok (some "?"))] :=
    (Flight.empty.arrive other).exchange (.ok (some "?")) rfl
  refine ⟨moves, _, a, v', hflight, rfl, rfl, rfl, rfl, hrun, rfl, rfl, rfl,
    ⟨_, _, halone, rfl, ?_⟩, ?_⟩
  · exact hsame moves _ _ _ hflight halone 1 0 other rfl rfl rfl
  · rw [hrun]
    exact (hshared replies [empty, one] 1 one rfl).1

end Query
end RowQuery
