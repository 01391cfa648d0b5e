import Mathlib
import RowQuery.Http.Router
import RowQuery.Proofs.Answers

/-!
# Logging changes no answer

Two runs of the service over the same requests and replies, compared: they may differ in what they
log. Debug adds prompts and replies to the events, and a listener adds the lines of unknown routes.
`quiet` takes both away, at each level from a turn of a conversation to an answered request, and
what is left is the run without debug and without a listener. A request is answered with the replies
that the earlier ones left, so the law for a whole run goes by induction over the requests.
-/
namespace RowQuery

/-- The events that are logged with debug or without it. -/
def Event.quiet (events : List Event) : List Event :=
  events.filter fun event => event.warning?.isSome

@[simp] theorem Event.quiet_nil : Event.quiet [] = [] := rfl

@[simp] theorem Event.quiet_append (events more : List Event) :
    Event.quiet (events ++ more) = Event.quiet events ++ Event.quiet more :=
  List.filter_append events more

@[simp] theorem Event.quiet_warning (w : Warning) (events : List Event) :
    Event.quiet (.warning w :: events) = .warning w :: Event.quiet events := rfl

@[simp] theorem Event.quiet_prompt (query system : String) (events : List Event) :
    Event.quiet (.prompt query system :: events) = Event.quiet events := rfl

@[simp] theorem Event.quiet_response (attempt : Nat) (text : String) (events : List Event) :
    Event.quiet (.response attempt text :: events) = Event.quiet events := rfl

@[simp] theorem Event.quiet_warnings (warnings : List Warning) :
    Event.quiet (warnings.map .warning) = warnings.map .warning := by
  rw [Event.quiet, List.filter_eq_self]
  rintro event hevent
  obtain ⟨w, -, rfl⟩ := List.mem_map.mp hevent
  rfl

namespace Generation
open Chat

def Settings.withDebug (s : Settings) (debug : Bool) : Settings := { s with debug }

def Turn.quiet : Turn → Turn
  | .accept filters events => .accept filters (Event.quiet events)
  | .stop failure => .stop failure
  | .retry messages events => .retry messages (Event.quiet events)

def Run.quiet (r : Run) : Run := { r with events := Event.quiet r.events }

theorem Run.quiet_after (request : Request) (events : List Event) (r : Run) :
    (r.after request events).quiet = r.quiet.after request (Event.quiet events) := by
  simp [Run.quiet, Run.after]

theorem Turn.quiet_ofReply (debug : Bool) (attempt : Nat) (reply : Reply) :
    (Turn.ofReply debug attempt reply).quiet = Turn.ofReply false attempt reply := by
  cases reply with
  | error failure =>
    simp only [Turn.ofReply]
    split <;> rfl
  | ok answer =>
    cases answer with
    | none => rfl
    | some text =>
      have hseen : Event.quiet (if debug then [.response attempt text] else []) = [] := by
        cases debug <;> simp
      cases hread : Filter.ofReply text <;> simp [Turn.ofReply, Turn.quiet, hread, hseen]

theorem quiet_exhausted (s : Settings) (replies : List Reply) :
    (exhausted s replies).quiet = exhausted (s.withDebug false) replies := by
  cases h : s.policy <;>
    simp [exhausted, fallback, Settings.withDebug, Settings.attempts, Run.quiet, h]

theorem quiet_stopped (s : Settings) (failure : Failure) (replies : List Reply) :
    (stopped s failure replies).quiet = stopped (s.withDebug false) failure replies := by
  cases h : s.policy <;> simp [stopped, fallback, Settings.withDebug, Run.quiet, h]

theorem quiet_converse (s : Settings) (messages : List Message) (replies : List Reply)
    (left : Nat) : (converse s messages replies left).quiet =
      converse (s.withDebug false) messages replies left := by
  induction left generalizing messages replies with
  | zero => exact quiet_exhausted s replies
  | succ left ih =>
    have hattempts : (s.withDebug false).attempts = s.attempts := rfl
    have hturn : Turn.ofReply (s.withDebug false).debug ((s.withDebug false).attempts - left)
        (nextReply replies).1 =
        (Turn.ofReply s.debug (s.attempts - left) (nextReply replies).1).quiet :=
      (Turn.quiet_ofReply _ _ _).symm
    simp only [converse, hturn]
    cases Turn.ofReply s.debug (s.attempts - left) (nextReply replies).1 with
    | accept filters events => rfl
    | stop failure => simp only [Turn.quiet, Run.quiet_after, quiet_stopped, Event.quiet_nil]
    | retry more events => simp only [Turn.quiet, Run.quiet_after, ih]

theorem quiet_run (s : Settings) (query : String) (headers : List String) (replies : List Reply) :
    (run s query headers replies).quiet = run (s.withDebug false) query headers replies := by
  have hconverse := quiet_converse s (opening query headers) replies s.attempts
  have hrun : run (s.withDebug false) query headers replies =
      converse (s.withDebug false) (opening query headers) replies s.attempts := rfl
  rw [hrun, ← hconverse, run]
  split <;> simp only [Run.quiet, Event.quiet_prompt]

end Generation

namespace Query
open Generation

def Answer.quiet (a : Answer) : Answer := { a with events := Event.quiet a.events }

theorem quiet_answerOf (d : Dataset) (r : Run) : (answerOf d r).quiet = answerOf d r.quiet := by
  simp only [answerOf, Run.quiet]
  cases r.result with
  | error e => rfl
  | ok filters => cases filters <;> simp [Answer.quiet]

theorem quiet_run (s : Settings) (query : String) (records : List Json.Value)
    (replies : List Chat.Reply) :
    (run s query records replies).quiet = run (s.withDebug false) query records replies := by
  cases h : Dataset.ofRecords records with
  | error e =>
    rw [run_of_invalid h, run_of_invalid h]
    rfl
  | ok d =>
    cases hrows : d.rows.isEmpty with
    | true =>
      rw [run_of_empty h hrows, run_of_empty h hrows]
      rfl
    | false => rw [run_of_rows h hrows, run_of_rows h hrows, quiet_answerOf, Generation.quiet_run]

end Query

namespace Http

def Route.paths : List String :=
  ["/", "/api/v1/health", "/api/openapi.json", "/api/docs", "/api/docs/", "/query"]

theorem Route.ofPath?_eq_none_iff {path : String} : ofPath? path = none ↔ path ∉ paths := by
  rw [ofPath?.eq_def]
  split <;> simp_all [paths]

namespace Location

/-- A path behind a scheme and a server is the path that stands alone. -/
theorem ofTarget_behind_server {scheme server whole : List Char}
    (hscheme : ∀ c ∈ scheme, c ≠ ':' ∧ c ≠ '#') (hfirst : scheme.head? ≠ some '/')
    (hserver : ∀ c ∈ server, c ≠ '#' ∧ isInServer c = true) (hwhole : whole.head? = some '/') :
    ofTarget (String.ofList (scheme ++ ':' :: '/' :: '/' :: (server ++ whole))) =
      { ofTarget (String.ofList whole) with
        scheme := some (schemeText scheme), server := String.ofList server } := by
  obtain ⟨rest, rfl⟩ : ∃ rest, whole = '/' :: rest := List.head?_eq_some_iff.mp hwhole
  let kept := rest.takeWhile (· != '#')
  have hparts : (scheme ++ ':' :: '/' :: '/' :: (server ++ '/' :: rest)).takeWhile (· != '#') =
      scheme ++ ':' :: '/' :: '/' :: (server ++ '/' :: kept) := by
    rw [List.takeWhile_append_of_pos fun c hc => bne_iff_ne.mpr (hscheme c hc).2]
    simp [List.takeWhile_append_of_pos fun c hc => bne_iff_ne.mpr (hserver c hc).1, kept]
  have hcolon : ∀ c ∈ scheme, (c != ':') = true := fun c hc => bne_iff_ne.mpr (hscheme c hc).1
  have hsplit : splitScheme? (scheme ++ ':' :: '/' :: '/' :: (server ++ '/' :: kept)) =
      some (scheme, server ++ '/' :: kept) := by
    rw [splitScheme?, List.dropWhile_append_of_pos hcolon, List.takeWhile_append_of_pos hcolon]
    simp
  have halone : ofTarget (String.ofList ('/' :: rest)) = onServer none [] ('/' :: kept) := by
    simp [ofTarget, kept]
  -- A scheme begins with no slash, so the target is not taken for a path.
  have hother : ¬((scheme ++ ':' :: '/' :: '/' :: (server ++ '/' :: kept)).head? = some '/' ∨
      scheme ++ ':' :: '/' :: '/' :: (server ++ '/' :: kept) = ['*']) := by
    cases scheme <;> simp_all
  have hin : ∀ c ∈ server, isInServer c = true := fun c hc => (hserver c hc).2
  rw [halone, ofTarget, String.toList_ofList, hparts]
  simp only [if_neg hother, hsplit, List.takeWhile_append_of_pos hin,
    List.dropWhile_append_of_pos hin]
  simp [onServer, isInServer]

end Location

/-- The path has no route, and the request is not one that the rules for other origins answer. -/
def Request.IsUnknown (request : Request) : Prop :=
  request.method ≠ "OPTIONS" ∧ request.path ∉ Route.paths

instance : DecidablePred Request.IsUnknown := fun _ => inferInstanceAs (Decidable (_ ∧ _))

theorem NotFound.line_head (request : Request) :
    "[404]".toList <+: (NotFound.line request).toList := by
  rw [NotFound.line]
  split
  · exact ⟨_, by simp [String.toList_append]; rfl⟩
  · exact ⟨_, by simp [String.toList_append]; rfl⟩

def Exchange.quiet (e : Exchange) : Exchange :=
  { e with events := Event.quiet e.events, notFound := none }

def calls (exchanges : List Exchange) : Nat := (exchanges.map (·.requests)).flatten.length

theorem Exchange.agree_of_quiet {exchanges others : List Exchange}
    (h : exchanges.map quiet = others.map quiet) :
    exchanges.map (·.response) = others.map (·.response) ∧
    exchanges.map (·.requests) = others.map (·.requests) ∧
    ∀ n, calls (exchanges.take n) = calls (others.take n) := by
  have hresponses : exchanges.map (·.response) = others.map (·.response) := by
    have hmap := congrArg (List.map (·.response)) h
    rwa [List.map_map, List.map_map] at hmap
  have hrequests : exchanges.map (·.requests) = others.map (·.requests) := by
    have hmap := congrArg (List.map (·.requests)) h
    rwa [List.map_map, List.map_map] at hmap
  refine ⟨hresponses, hrequests, fun n => ?_⟩
  rw [calls, calls, List.map_take, List.map_take, hrequests]

namespace Router
variable {r : Router} {request : Request}

def withDebug (r : Router) (debug : Bool) : Router :=
  { r with settings := r.settings.withDebug debug }

theorem quiet_postQuery (r : Router) (request : Request) (replies : List Chat.Reply) :
    (r.postQuery request replies).quiet = (r.withDebug false).postQuery request replies := by
  simp only [postQuery]
  cases QueryBody.ofRequest request with
  | error problem => rfl
  | ok body =>
    have hrun : Query.run (r.withDebug false).settings body.query body.data replies = _ :=
      (Query.quiet_run r.settings body.query body.data replies).symm
    simp only [hrun]
    rfl

theorem quiet_serve (r : Router) (found : Route) (request : Request) (replies : List Chat.Reply) :
    (r.serve found request replies).quiet = (r.withDebug false).serve found request replies := by
  simp only [serve]
  split
  · rfl
  · split
    · exact quiet_postQuery r request replies
    · split <;> rfl

theorem quiet_route (r : Router) (listening : Bool) (request : Request)
    (replies : List Chat.Reply) : (r.route listening request replies).quiet =
      (r.withDebug false).route false request replies := by
  simp only [route]
  split
  · rfl
  · cases Route.ofPath? request.path with
    | none => rfl
    | some found => exact quiet_serve r found request replies

theorem quiet_handle (r : Router) (listening : Bool) (request : Request)
    (replies : List Chat.Reply) : (r.handle listening request replies).quiet =
      (r.withDebug false).handle false request replies := by
  rw [handle, handle, ← quiet_route r listening]
  rfl

/-- The replies that an exchange leaves are not touched by what it logs, so the exchanges after it
begin alike. -/
theorem quiet_handleAll (r : Router) (listening : Bool) (replies : List Chat.Reply)
    (requests : List Request) : (r.handleAll listening replies requests).map Exchange.quiet =
      (r.withDebug false).handleAll false replies requests := by
  -- By the requests; the replies left are not logged, so the next exchange begins alike.
  induction requests generalizing replies with
  | nil => rfl
  | cons request requests ih =>
    simp only [handleAll, List.map_cons, ← quiet_handle r listening request replies, ih]
    rfl

theorem handle_unknown (h : request.IsUnknown) (r : Router) (listening : Bool)
    (replies : List Chat.Reply) : r.handle listening request replies =
      ⟨⟨404, r.cors.fields (request.field? "origin"), ""⟩, [], [],
        if listening then some (NotFound.line request) else none, replies⟩ := by
  have hroute : r.route listening request replies = notFound listening request replies := by
    rw [route, if_neg h.1, Route.ofPath?_eq_none_iff.mpr h.2]
  simp [handle, hroute, notFound, Response.empty]

theorem notFound_serve (r : Router) (found : Route) (request : Request)
    (replies : List Chat.Reply) : (r.serve found request replies).notFound = none := by
  rw [serve]
  split
  · rfl
  · split
    · rw [postQuery]
      split <;> rfl
    · split <;> rfl

theorem handle_known (h : ¬request.IsUnknown) (r : Router) (listening : Bool)
    (replies : List Chat.Reply) : (r.handle listening request replies).notFound = none := by
  simp only [handle, route]
  split
  · rfl
  · next hmethod =>
    cases hpath : Route.ofPath? request.path with
    | none => exact absurd ⟨hmethod, Route.ofPath?_eq_none_iff.mp hpath⟩ h
    | some found => exact notFound_serve r found request replies

theorem getElem?_handleAll (r : Router) (listening : Bool) (replies : List Chat.Reply)
    {requests : List Request} {i : Nat} (h : requests[i]? = some request) :
    ∃ left, (r.handleAll listening replies requests)[i]? =
      some (r.handle listening request left) := by
  induction requests generalizing replies i with
  | nil => simp at h
  | cons first requests ih =>
    cases i with
    | zero =>
      obtain rfl := Option.some.inj h
      exact ⟨replies, rfl⟩
    | succ i => exact ih _ h

theorem filterMap_notFound_handleAll (r : Router) (listening : Bool) (replies : List Chat.Reply)
    (requests : List Request) :
    (r.handleAll listening replies requests).filterMap (·.notFound) =
      if listening then (requests.filter (·.IsUnknown)).map NotFound.line else [] := by
  induction requests generalizing replies with
  | nil => cases listening <;> rfl
  | cons request requests ih =>
    rw [handleAll, List.filterMap_cons, ih]
    by_cases h : request.IsUnknown
    · rw [handle_unknown h]
      cases listening <;> simp [h]
    · rw [handle_known h]
      cases listening <;> simp [h]

/-- Whoever reads the log, and whatever it is told, the responses, the requests to the model and
the calls counted after each exchange are the same. A request to an unknown route is answered with
404 and never put to the model, and a listening log has one line for each and no other. -/
theorem answers_whatever_is_logged (r : Router) (replies : List Chat.Reply)
    (requests : List Request) :
    let run (debug listening : Bool) : List Exchange :=
      (r.withDebug debug).handleAll listening replies requests
    ∀ debug listening,
      (∀ debug' listening',
        (run debug listening).map (·.response) = (run debug' listening').map (·.response) ∧
        (run debug listening).map (·.requests) = (run debug' listening').map (·.requests) ∧
        ∀ n, calls ((run debug listening).take n) = calls ((run debug' listening').take n)) ∧
      (∀ (i : Nat) (request : Request), requests[i]? = some request → request.IsUnknown →
        ∃ e, (run debug listening)[i]? = some e ∧ e.response.status = 404 ∧ e.requests = [] ∧
          e.events = [] ∧ (e.notFound = if listening then some (NotFound.line request) else none) ∧
          "[404]".toList <+: (NotFound.line request).toList) ∧
      (run debug listening).filterMap (·.notFound) =
        if listening then (requests.filter (·.IsUnknown)).map NotFound.line else [] := by
  intro run debug listening
  have hquiet (debug listening : Bool) : (run debug listening).map Exchange.quiet =
      (r.withDebug false).handleAll false replies requests :=
    quiet_handleAll (r.withDebug debug) listening replies requests
  refine ⟨fun debug' listening' => ?_, fun i request hi hunknown => ?_,
    filterMap_notFound_handleAll _ _ _ _⟩
  · exact Exchange.agree_of_quiet ((hquiet debug listening).trans (hquiet debug' listening').symm)
  · obtain ⟨left, he⟩ := getElem?_handleAll (r.withDebug debug) listening replies hi
    rw [handle_unknown hunknown] at he
    exact ⟨_, he, rfl, rfl, rfl, rfl, NotFound.line_head request⟩

theorem answers_whatever_is_logged_between_unknown_routes :
    let r := (ofOrigins ["http://localhost:5173"] ⟨2, .fail, false⟩).1
    let binary : Request := ⟨"GET", "/none?x", [("Origin", "http://localhost:5173")], ⟨#[0xFF]⟩⟩
    let asked : Request := ⟨"POST", "http://localhost:8000/query",
      [("Content-Type", "application/json")], "[\"q\",[\x7b\"a\":null\x7d]]".toUTF8⟩
    let large : Request := ⟨"PUT", "/query/", [], ⟨Array.replicate 65537 0⟩⟩
    let replies : List Chat.Reply := [.ok (some "\x7b\x7d")]
    let run (debug listening : Bool) : List Exchange :=
      (r.withDebug debug).handleAll listening replies [binary, asked, large]
    asked.location =
        { Location.ofTarget "/query" with scheme := "http", server := "localhost:8000" } ∧
      binary.IsUnknown ∧ ¬asked.IsUnknown ∧ large.IsUnknown ∧
      (run true true).map (·.response) = (run false false).map (·.response) ∧
      calls (run true true) = calls (run false false) ∧ calls (run false false) = 1 ∧
      (∃ e, (run true true)[2]? = some e ∧ e.response.status = 404 ∧ e.requests = [] ∧
        e.notFound = some "[404] PUT /query/ (failed to read body)") ∧
      ((run true true).filterMap (·.notFound)).length = 2 ∧
      (run true false).filterMap (·.notFound) = [] := by
  intro r binary asked large replies run
  have hlocation : asked.location =
      { Location.ofTarget "/query" with scheme := "http", server := "localhost:8000" } := by
    have htarget : asked.target = String.ofList
        ("http".toList ++ ':' :: '/' :: '/' :: ("localhost:8000".toList ++ "/query".toList)) := by
      decide
    have hscheme : ∀ c ∈ "http".toList, c ≠ ':' ∧ c ≠ '#' := by simp
    have hfirst : "http".toList.head? ≠ some '/' := by simp
    have hserver : ∀ c ∈ "localhost:8000".toList, c ≠ '#' ∧ Location.isInServer c = true := by
      simp [Location.isInServer]
    have hpath : "/query".toList.head? = some '/' := by simp
    have htext : Location.schemeText "http".toList = "http" := by decide
    rw [Request.location, htarget, Location.ofTarget_behind_server hscheme hfirst hserver hpath,
      htext, String.ofList_toList, String.ofList_toList]
  have hbinary : binary.IsUnknown := by decide +kernel
  have hasked : ¬asked.IsUnknown := by decide +kernel
  have hlarge : large.IsUnknown := by decide +kernel
  have hlines : [binary, asked, large].filter (·.IsUnknown) = [binary, large] := by
    simp [hbinary, hasked, hlarge]
  have hline : NotFound.line large = "[404] PUT /query/ (failed to read body)" := by
    have hurl : large.url = "/query/" := by decide +kernel
    have hsize : NotFound.maxBody < large.body.size := by
      simp [large, NotFound.maxBody, ByteArray.size]
    rw [NotFound.line, if_pos hsize, hurl]
    rfl
  obtain ⟨hsame, hmissed, hlogged⟩ :=
    answers_whatever_is_logged r replies [binary, asked, large] true true
  obtain ⟨hresponses, -, hcalls⟩ := hsame false false
  obtain ⟨e, he, hstatus, huncalled, -, hline', -⟩ := hmissed 2 large rfl hlarge
  have hsilent := (answers_whatever_is_logged r replies [binary, asked, large] true false).2.2
  rw [if_pos rfl, hlines] at hlogged
  rw [if_pos rfl, hline] at hline'
  exact ⟨hlocation, hbinary, hasked, hlarge, hresponses, hcalls 3, by decide +kernel,
    ⟨e, he, hstatus, huncalled, hline'⟩, congrArg List.length hlogged, hsilent⟩

end Router
end Http
end RowQuery
