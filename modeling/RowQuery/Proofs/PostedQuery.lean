import Mathlib
import RowQuery.Http.Router
import RowQuery.Proofs.Answers
import RowQuery.Proofs.QueryForm
import RowQuery.Proofs.ReadingBack

/-!
# How a posted query is answered

Five cases, of which the first that applies gives the answer: the body cannot be read, its text is
too long, a row is no object, there are no rows, a model is asked. `Case.Holds` says of the request
alone when a case applies and `Case.Shows` says of the answer alone how it looks. The cases exclude
each other on both sides and one of them applies on both, so each shows exactly when it holds.
-/
namespace RowQuery.Http
open Json

namespace Problem

def document : Problem → Value
  | .badRequest code message => body "bad_request" code message
  | .internal code message => body "internal_error" code message

theorem response_eq (p : Problem) : p.response = .json p.status p.document := by
  cases p <;> rfl

theorem numberFree_body (kind code message : String) :
    (body kind code message).NumberFree maxDepth := by
  have once : ["error", "code", "message"].Nodup := by decide
  refine .object once fun m hm => ?_
  simp only [List.mem_cons, List.not_mem_nil, or_false] at hm
  rcases hm with rfl | rfl | rfl <;> exact .string _

theorem read_document (p : Problem) : Value.read p.document.text = .ok p.document := by
  cases p <;> exact (numberFree_body _ _ _).read_text

theorem document_injective {p q : Problem} (h : p.document = q.document) : p = q := by
  cases p <;> cases q <;> simp_all [document, body]

end Problem

/-- The response is that of the problem: its status, and a body that is read as its document. -/
def Response.Reports (response : Response) (p : Problem) : Prop :=
  response.status = p.status ∧ Value.read response.body = .ok p.document

theorem Response.Reports.unique {response : Response} {p q : Problem} (hp : response.Reports p)
    (hq : response.Reports q) : p = q :=
  Problem.document_injective (Except.ok.inj (hp.2.symm.trans hq.2))

/-- The first content type of the request is a plain text that names JSON, or a form of it by a
suffix. -/
def Request.DeclaresJson (request : Request) : Prop :=
  ∃ value t, request.field? "content-type" = some value ∧
    (∀ c ∈ value.toList, c = '\t' ∨ 0x20 ≤ c.toNat ∧ c.toNat < 0x7F) ∧
    MediaType.read? value = some t ∧ t.main = "application".toList ∧
    (t.subtype = "json".toList ∨ t.suffix = some "json".toList)

/-- The body of the request is a query, so declared and not too large. -/
structure Request.Carries (request : Request) (b : QueryBody) : Prop where
  declared : request.DeclaresJson
  size : request.body.size ≤ 32 * 1024 * 1024
  written : QueryBody.Written (Document.ofBytes request.body.data.toList) b

/-- The body of the request is a query whose text is short enough. -/
def Request.Poses (request : Request) (b : QueryBody) : Prop :=
  request.Carries b ∧ b.query.toList.length ≤ 4000

inductive Case
  | unreadable
  | tooLong
  | misfit
  | noRows
  | asked

namespace Case

def Holds (request : Request) : Case → Prop
  | .unreadable => ¬request.DeclaresJson ∨ 32 * 1024 * 1024 < request.body.size ∨
      ¬∃ b, QueryBody.Written (Document.ofBytes request.body.data.toList) b
  | .tooLong => ∃ b, request.Carries b ∧ 4000 < b.query.toList.length
  | .misfit => ∃ b, request.Poses b ∧ ∃ i, Dataset.Misfit b.data i
  | .noRows => ∃ b, request.Poses b ∧ b.data = []
  | .asked => ∃ b, request.Poses b ∧ (∀ i, ¬Dataset.Misfit b.data i) ∧ b.data ≠ []

def Shows (e : Exchange) : Case → Prop
  | .unreadable => ∃ message, e.response.Reports (.badRequest "JSON_PARSE_ERROR" message)
  | .tooLong => ∃ message, e.response.Reports (.badRequest "VALIDATION_ERROR" message)
  | .misfit => ∃ message, e.response.Reports (.badRequest "INVALID_DATA" message)
  | .noRows => e.response.status = 200 ∧ e.response.body = "[]" ∧ e.requests = []
  | .asked => e.requests ≠ []

end Case

theorem isDeclaredJson_iff (request : Request) :
    QueryBody.isDeclaredJson request = true ↔ request.DeclaresJson := by
  rw [QueryBody.isDeclaredJson, Request.DeclaresJson]
  cases request.field? "content-type" with
  | none => simp
  | some value =>
    cases hmedia : MediaType.read? value with
    | none => simp [hmedia]
    | some t =>
      simp only [isPlainField, MediaType.isJson, Option.any_some, Bool.and_eq_true,
        List.all_eq_true, Bool.or_eq_true, decide_eq_true_eq, hmedia, Option.some.injEq,
        exists_eq_left', exists_and_left]

theorem isShort_iff (query : String) :
    QueryBody.isShort query = true ↔ query.toList.length ≤ 4000 := by
  rw [String.length_toList]
  exact decide_eq_true_iff

namespace Request
variable {request : Request} {b b' : QueryBody}

theorem Carries.unique (h : request.Carries b) (h' : request.Carries b') : b = b' := by
  have hb := QueryBody.ofBytes_eq_ok_iff.mpr h.written
  have hb' := QueryBody.ofBytes_eq_ok_iff.mpr h'.written
  exact Except.ok.inj (hb.symm.trans hb')

theorem Carries.ofRequest_eq (h : request.Carries b) : QueryBody.ofRequest request =
    if QueryBody.isShort b.query then .ok b
    else .error (.validation s!"Query must be at most {QueryBody.maxQueryLength} characters") := by
  have hdeclared : (!QueryBody.isDeclaredJson request) = false := by
    simp [(isDeclaredJson_iff request).mpr h.declared]
  have hsize : ¬QueryBody.maxSize < request.body.size := Nat.not_lt.mpr h.size
  rw [QueryBody.ofRequest, hdeclared, if_neg Bool.false_ne_true, if_neg hsize,
    QueryBody.ofBytes_eq_ok_iff.mpr h.written]

theorem carries_or_unreadable (request : Request) : (∃ b, request.Carries b) ∨
    Case.unreadable.Holds request ∧
      ∃ message, QueryBody.ofRequest request = .error (.unreadable message) := by
  have hmax : QueryBody.maxSize = 32 * 1024 * 1024 := rfl
  by_cases hdeclared : request.DeclaresJson
  · have hflag : (!QueryBody.isDeclaredJson request) = false := by
      simp [(isDeclaredJson_iff request).mpr hdeclared]
    by_cases hsize : 32 * 1024 * 1024 < request.body.size
    · refine .inr ⟨.inr (.inl hsize), ?_⟩
      rw [QueryBody.ofRequest, hflag, if_neg Bool.false_ne_true, hmax, if_pos hsize]
      exact ⟨_, rfl⟩
    · cases hread : QueryBody.decoder.ofBytes request.body with
      | ok b =>
        exact .inl ⟨b, hdeclared, Nat.le_of_not_lt hsize, QueryBody.ofBytes_eq_ok_iff.mp hread⟩
      | error e =>
        refine .inr ⟨.inr (.inr fun ⟨b, hb⟩ => ?_), ?_⟩
        · rw [QueryBody.ofBytes_eq_ok_iff.mpr hb] at hread
          cases hread
        · rw [QueryBody.ofRequest, hflag, if_neg Bool.false_ne_true, hmax, if_neg hsize, hread]
          exact ⟨_, rfl⟩
  · have hflag : (!QueryBody.isDeclaredJson request) = true := by
      simp [mt (isDeclaredJson_iff request).mp hdeclared]
    refine .inr ⟨.inl hdeclared, ?_⟩
    rw [QueryBody.ofRequest, hflag, if_pos rfl]
    exact ⟨_, rfl⟩

theorem Carries.not_unreadable (h : request.Carries b) : ¬Case.unreadable.Holds request := by
  rintro (hdeclared | hsize | hwritten)
  · exact hdeclared h.declared
  · exact Nat.not_lt.mpr h.size hsize
  · exact hwritten ⟨b, h.written⟩

theorem Poses.ofRequest_eq (h : request.Poses b) : QueryBody.ofRequest request = .ok b := by
  rw [h.1.ofRequest_eq, if_pos ((isShort_iff b.query).mpr h.2)]

end Request

theorem Response.Reports.same_code {response : Response} {code code' : String}
    (h : ∃ message, response.Reports (.badRequest code message))
    (h' : ∃ message, response.Reports (.badRequest code' message)) : code = code' := by
  obtain ⟨message, h⟩ := h
  obtain ⟨message', h'⟩ := h'
  cases h.unique h'
  rfl

namespace Case
variable {request : Request} {e : Exchange} {c c' : Case}

theorem exists_holds (request : Request) : ∃ c : Case, c.Holds request := by
  rcases request.carries_or_unreadable with ⟨b, hb⟩ | ⟨h, -⟩
  · by_cases hlong : 4000 < b.query.toList.length
    · exact ⟨.tooLong, b, hb, hlong⟩
    · have hposes : request.Poses b := ⟨hb, Nat.le_of_not_lt hlong⟩
      by_cases hmisfit : ∃ i, Dataset.Misfit b.data i
      · exact ⟨.misfit, b, hposes, hmisfit⟩
      · by_cases hnone : b.data = []
        · exact ⟨.noRows, b, hposes, hnone⟩
        · exact ⟨.asked, b, hposes, not_exists.mp hmisfit, hnone⟩
  · exact ⟨.unreadable, h⟩

theorem shows_unique (hrefused : e.response.status = 400 → e.requests = []) (h : c.Shows e)
    (h' : c'.Shows e) : c = c' := by
  have hcodes {code code' : String} (hne : code ≠ code')
      (h : ∃ message, e.response.Reports (.badRequest code message))
      (h' : ∃ message, e.response.Reports (.badRequest code' message)) : c = c' :=
    absurd (Response.Reports.same_code h h') hne
  have hrows {code : String} (h : ∃ message, e.response.Reports (.badRequest code message))
      (h' : Shows e .noRows) : c = c' := by
    obtain ⟨message, hstatus, -⟩ := h
    exact nomatch hstatus.symm.trans h'.1
  have hasked {code : String} (h : ∃ message, e.response.Reports (.badRequest code message))
      (h' : Shows e .asked) : c = c' := by
    obtain ⟨message, hstatus, -⟩ := h
    exact absurd (hrefused hstatus) h'
  cases c <;> cases c' <;>
    first
    | rfl
    | exact hcodes (by decide) h h'
    | exact hrows h h'
    | exact hrows h' h
    | exact hasked h h'
    | exact hasked h' h
    | exact absurd h.2.2 h'
    | exact absurd h'.2.2 h

end Case

namespace Router
variable {r : Router} {request : Request} {replies : List Chat.Reply} {b : QueryBody}

theorem postQuery_of_error {p : Problem} (h : QueryBody.ofRequest request = .error p) :
    r.postQuery request replies = plain p.response replies := by
  rw [postQuery, h]

theorem reports_response (p : Problem) : p.response.Reports p := by
  rw [p.response_eq]
  exact ⟨rfl, p.read_document⟩

theorem postQuery_of_unreadable (h : Case.unreadable.Holds request) (r : Router)
    (replies : List Chat.Reply) : ∃ message,
    r.postQuery request replies = plain (Problem.unreadable message).response replies := by
  rcases request.carries_or_unreadable with ⟨b, hb⟩ | ⟨-, message, hrefused⟩
  · exact absurd h hb.not_unreadable
  · exact ⟨message, postQuery_of_error hrefused⟩

theorem postQuery_of_long (h : request.Carries b) (hlong : 4000 < b.query.toList.length)
    (r : Router) (replies : List Chat.Reply) : ∃ message,
    r.postQuery request replies = plain (Problem.validation message).response replies := by
  have hshort : ¬QueryBody.isShort b.query = true := fun hs =>
    Nat.not_lt.mpr ((isShort_iff b.query).mp hs) hlong
  exact ⟨_, postQuery_of_error (by rw [h.ofRequest_eq, if_neg hshort])⟩

theorem postQuery_of_misfit (h : request.Poses b) {i : Nat}
    (hi : IsLeast {i | Dataset.Misfit b.data i} i) : r.postQuery request replies =
      plain (Problem.badRequest "INVALID_DATA"
        s!"Invalid data format: {(NotAnObject.mk i).message}").response replies := by
  cases hd : Dataset.ofRecords b.data with
  | ok d => exact absurd hi.1 (Dataset.not_misfit_of_ok hd i)
  | error e =>
    obtain rfl : e.position = i := (Dataset.ofRecords_eq_error hd).unique hi
    simp only [postQuery, h.ofRequest_eq, Query.run_of_invalid hd]
    rfl

theorem postQuery_of_no_rows (h : request.Poses b) (hnone : b.data = []) :
    r.postQuery request replies = plain (.json 200 (.list [])) replies := by
  simp only [postQuery, h.ofRequest_eq, hnone]
  rfl

theorem postQuery_of_rows (h : request.Poses b) {d : Dataset}
    (hd : Dataset.ofRecords b.data = .ok d) (hsome : b.data ≠ []) (r : Router)
    (replies : List Chat.Reply) :
    let g := Generation.run r.settings b.query d.headers replies
    ∃ events, r.postQuery request replies =
      ⟨match g.result with
        | .ok filters => .json 200 (.list ((d.apply filters).1.toRecords.map .object))
        | .error e => (Problem.ofQueryError (.generation e)).response,
      g.requests, events, none, g.unused⟩ := by
  intro g
  have hrows : d.rows.isEmpty = false := by
    simpa using mt (Dataset.isEmpty_rows_iff hd).mp hsome
  have hrun : Query.run r.settings b.query b.data replies = Query.answerOf d g :=
    Query.run_of_rows hd hrows replies
  simp only [postQuery, h.ofRequest_eq, hrun, Query.answerOf_requests, Query.answerOf_unused,
    Query.answerOf_result]
  cases g.result <;> exact ⟨_, rfl⟩

inductive Answered (r : Router) (replies : List Chat.Reply) : Exchange → Prop
  | refused (code message : String) :
      Answered r replies (plain (Problem.badRequest code message).response replies)
  | noRows : Answered r replies (plain (.json 200 (.list [])) replies)
  | rows {g : Generation.Run} (rows : List Value) (events : List Event) :
      Generation.Outcome r.settings replies r.settings.attempts g →
      Answered r replies ⟨.json 200 (.list rows), g.requests, events, none, g.unused⟩
  | failed {g : Generation.Run} {e : Generation.Error} (events : List Event) :
      Generation.Outcome r.settings replies r.settings.attempts g → g.result = .error e →
      Answered r replies
        ⟨(Problem.ofQueryError (.generation e)).response, g.requests, events, none, g.unused⟩

theorem postQuery_of_holds {c : Case} (h : c.Holds request) (r : Router)
    (replies : List Chat.Reply) :
    c.Shows (r.postQuery request replies) ∧ Answered r replies (r.postQuery request replies) := by
  cases c with
  | unreadable =>
    obtain ⟨message, hanswer⟩ := postQuery_of_unreadable h r replies
    rw [hanswer]
    exact ⟨⟨message, reports_response _⟩, .refused _ message⟩
  | tooLong =>
    obtain ⟨b, hb, hlong⟩ := h
    obtain ⟨message, hanswer⟩ := postQuery_of_long hb hlong r replies
    rw [hanswer]
    exact ⟨⟨message, reports_response _⟩, .refused _ message⟩
  | misfit =>
    obtain ⟨b, hb, hmisfit⟩ := h
    obtain ⟨i, hi⟩ := Dataset.exists_least_misfit hmisfit
    rw [postQuery_of_misfit hb hi]
    exact ⟨⟨_, reports_response _⟩, .refused _ _⟩
  | noRows =>
    obtain ⟨b, hb, hnone⟩ := h
    rw [postQuery_of_no_rows hb hnone]
    exact ⟨⟨rfl, rfl, rfl⟩, .noRows⟩
  | asked =>
    obtain ⟨b, hb, hfit, hsome⟩ := h
    obtain ⟨d, hd⟩ := Dataset.exists_ofRecords hfit
    obtain ⟨events, hanswer⟩ := postQuery_of_rows hb hd hsome r replies
    have houtcome := Generation.outcome_run r.settings b.query d.headers replies
    have hattempts : 0 < r.settings.attempts := Nat.lt_of_lt_of_le Nat.one_pos (le_max_right _ _)
    rw [hanswer]
    refine ⟨List.ne_nil_of_length_pos (houtcome.calls_pos hattempts), ?_⟩
    cases hg : (Generation.run r.settings b.query d.headers replies).result with
    | ok filters => exact .rows _ events houtcome
    | error e => exact .failed events houtcome hg

namespace Answered
variable {e : Exchange}

theorem calls_le (h : Answered r replies e) : e.requests.length ≤ max 1 r.settings.maxAttempts := by
  rw [Nat.max_comm]
  cases h with
  | refused => exact Nat.zero_le _
  | noRows => exact Nat.zero_le _
  | rows _ _ hg => exact hg.calls_le
  | failed _ hg => exact hg.calls_le

theorem unused_of_refused (h : Answered r replies e) (hlow : 400 ≤ e.response.status)
    (hhigh : e.response.status < 500) : e.requests = [] ∧ e.unused = replies := by
  cases h with
  | refused => exact ⟨rfl, rfl⟩
  | noRows => exact ⟨rfl, rfl⟩
  | rows => exact absurd hlow (by decide : ¬400 ≤ 200)
  | @failed _ error =>
    have hstatus : (Problem.ofQueryError (.generation error)).response.status = 500 := by
      cases error <;> rfl
    exact absurd hhigh (Nat.not_lt.mpr hstatus.ge)

theorem status_lt (h : Answered r replies e) (hpolicy : r.settings.policy = .unfiltered) :
    e.response.status < 500 := by
  cases h with
  | refused => exact (by decide : 400 < 500)
  | noRows => exact (by decide : 200 < 500)
  | rows => exact (by decide : 200 < 500)
  | failed _ houtcome hg =>
    obtain ⟨filters, hok⟩ := houtcome.ok_of_unfiltered hpolicy
    exact nomatch hok.symm.trans hg

theorem exists_reports (h : Answered r replies e) (hstatus : e.response.status ≠ 200) :
    ∃ p, e.response.Reports p := by
  cases h with
  | refused => exact ⟨_, reports_response _⟩
  | noRows => exact absurd rfl hstatus
  | rows => exact absurd rfl hstatus
  | failed => exact ⟨_, reports_response _⟩

end Answered

theorem ofPath?_eq_query {path : String} (h : Route.ofPath? path = some .query) :
    path = "/query" := by
  rw [Route.ofPath?.eq_def] at h
  split at h <;> simp_all

theorem handle_posted (hmethod : request.method = "POST") (hpath : request.path = "/query")
    (r : Router) (listening : Bool) (replies : List Chat.Reply) :
    ∃ headers, r.handle listening request replies =
      { r.postQuery request replies with
        response := { (r.postQuery request replies).response with headers } } := by
  have hroute : r.route listening request replies = r.postQuery request replies := by
    simp [route, hmethod, hpath, Route.ofPath?, serve, Route.methods]
  exact ⟨_, by rw [handle, hroute]⟩

theorem status_page_lt (found : Route) : found.page.status < 500 := by
  cases found <;> decide

theorem handle_other (h : ¬(request.method = "POST" ∧ request.path = "/query")) (r : Router)
    (listening : Bool) (replies : List Chat.Reply) :
    let e := r.handle listening request replies
    e.response.status < 500 ∧ e.requests = [] ∧ e.unused = replies := by
  have hroute : ∃ response line, response.status < 500 ∧
      r.route listening request replies = ⟨response, [], [], line, replies⟩ := by
    rw [route]
    split
    · exact ⟨_, none, (by decide : 200 < 500), rfl⟩
    · cases hpath : Route.ofPath? request.path with
      | none => exact ⟨_, _, (by decide : 404 < 500), rfl⟩
      | some found =>
        simp only [serve]
        split
        · exact ⟨_, none, (by decide : 405 < 500), rfl⟩
        · next hknown =>
          split
          · next hpost =>
            have hquery : found = .query := by
              cases found <;> simp_all [Route.methods]
            exact absurd ⟨hpost, ofPath?_eq_query (hquery ▸ hpath)⟩ h
          · split
            · exact ⟨withoutBody found.page, none, status_page_lt found, rfl⟩
            · exact ⟨found.page, none, status_page_lt found, rfl⟩
  obtain ⟨response, line, hstatus, hroute⟩ := hroute
  simp only [handle, hroute]
  exact ⟨hstatus, trivial, trivial⟩

end Router

theorem Case.shows_withHeaders (c : Case) (e : Exchange) (headers : List (String × String)) :
    c.Shows { e with response := { e.response with headers } } ↔ c.Shows e := by
  cases c <;> exact Iff.rfl

namespace Router

/-- The answer to a posted query shows the case that holds of the request, and no other. The row it
refuses is the first that is no object, and a model that is asked decides what else is answered.
Whatever the request, the budget bounds the calls, a refusal makes none, and where failures are
ignored there is none to report. -/
theorem handle_classified (r : Router) (listening : Bool) (request : Request)
    (replies : List Chat.Reply) :
    let e := r.handle listening request replies
    (request.method = "POST" → request.path = "/query" →
      (∀ c : Case, c.Shows e ↔ c.Holds request) ∧
      (∀ b i, request.Poses b → IsLeast {i | Dataset.Misfit b.data i} i →
        e.response.Reports (.badRequest "INVALID_DATA"
          s!"Invalid data format: {(NotAnObject.mk i).message}")) ∧
      (∀ b, request.Poses b → (∀ i, ¬Dataset.Misfit b.data i) → b.data ≠ [] →
        ∃ d, Dataset.ofRecords b.data = .ok d ∧
          let g := Generation.run r.settings b.query d.headers replies
          e.requests = g.requests ∧ e.unused = g.unused ∧
          (∀ filters, g.result = .ok filters → e.response.status = 200 ∧
            e.response.body = (Value.list ((d.apply filters).1.toRecords.map .object)).text) ∧
          (∀ n, g.result = .error (.exhausted n) → e.response.Reports
            (.internal "AI_FILTER_EXHAUSTED" (Generation.Error.exhausted n).message)) ∧
          ∀ failure, g.result = .error (.backend failure) → e.response.Reports
            (.internal "AI_SERVICE_ERROR" (Generation.Error.backend failure).message)) ∧
      (e.response.status ≠ 200 → ∃ kind code message, Value.read e.response.body =
        .ok (.object
          [("error", .string kind), ("code", .string code), ("message", .string message)]))) ∧
    e.requests.length ≤ max 1 r.settings.maxAttempts ∧
    (400 ≤ e.response.status → e.response.status < 500 → e.requests = [] ∧ e.unused = replies) ∧
    (r.settings.policy = .unfiltered → e.response.status < 500) := by
  intro e
  by_cases hposted : request.method = "POST" ∧ request.path = "/query"
  · obtain ⟨headers, he⟩ := handle_posted hposted.1 hposted.2 r listening replies
    obtain ⟨c', hc'⟩ := Case.exists_holds request
    obtain ⟨hshows, hanswered⟩ := postQuery_of_holds hc' r replies
    simp only [e, he]
    refine ⟨fun _ _ => ⟨fun c => ?_, fun b i hb hi => ?_, fun b hb hfit hsome => ?_,
      fun hstatus => ?_⟩, hanswered.calls_le, hanswered.unused_of_refused, hanswered.status_lt⟩
    · rw [Case.shows_withHeaders]
      refine ⟨fun h => ?_, fun h => (postQuery_of_holds h r replies).1⟩
      have hrefused : (r.postQuery request replies).response.status = 400 →
          (r.postQuery request replies).requests = [] := fun h400 =>
        (hanswered.unused_of_refused h400.ge (by omega)).1
      -- The case that holds is shown, and no answer shows two.
      exact Case.shows_unique hrefused h hshows ▸ hc'
    · rw [postQuery_of_misfit hb hi]
      exact reports_response _
    · obtain ⟨d, hd⟩ := Dataset.exists_ofRecords hfit
      obtain ⟨events, hanswer⟩ := postQuery_of_rows hb hd hsome r replies
      rw [hanswer]
      refine ⟨d, hd, rfl, rfl, fun filters hg => ?_, fun n hg => ?_, fun failure hg => ?_⟩
      · simp only [hg]
        exact ⟨rfl, rfl⟩
      · simp only [hg]
        exact reports_response _
      · simp only [hg]
        exact reports_response _
    · obtain ⟨p, -, hread⟩ := hanswered.exists_reports hstatus
      cases p <;> exact ⟨_, _, _, hread⟩
  · obtain ⟨hstatus, hrequests, hunused⟩ := handle_other hposted r listening replies
    refine ⟨fun hmethod hpath => absurd ⟨hmethod, hpath⟩ hposted, ?_,
      fun _ _ => ⟨hrequests, hunused⟩, fun _ => hstatus⟩
    simp only [e, hrequests]
    exact Nat.zero_le _

theorem handle_classified_asked_and_refused :
    let r := (ofOrigins ["*"] ⟨2, .fail, false⟩).1
    let post (body : String) : Request :=
      ⟨"POST", "/query", [("Content-Type", "application/json")], body.toUTF8⟩
    let asked := post "[\"q\",[\x7b\"a\":null\x7d]]"
    let refused := post "\x7b\"data\":[\x7b\x7d,null],\"query\":\"q\"\x7d"
    let replies : List Chat.Reply := [.ok (some "?"), .ok (some "\x7b\x7d")]
    asked.path = "/query" ∧ asked.Poses ⟨"q", [.object [("a", .null)]]⟩ ∧
      (r.handle false asked replies).requests.length = 2 ∧
      (r.handle false asked replies).response.status = 200 ∧
      (r.handle false asked replies).response.body = "[\x7b\"a\":null\x7d]" ∧
      refused.path = "/query" ∧ refused.Poses ⟨"q", [.object [], .null]⟩ ∧
      (r.handle false refused replies).requests = [] ∧
      (r.handle false refused replies).response.Reports
        (.badRequest "INVALID_DATA" "Invalid data format: row 1 is not a JSON object") := by
  intro r post asked refused replies
  have hasked : asked.Poses ⟨"q", [.object [("a", .null)]]⟩ := by
    refine ⟨⟨(isDeclaredJson_iff asked).mp (by decide +kernel), by decide +kernel, ?_⟩, by decide⟩
    exact QueryBody.ofBytes_eq_ok_iff.mp rfl
  have hrefused : refused.Poses ⟨"q", [.object [], .null]⟩ := by
    refine ⟨⟨(isDeclaredJson_iff refused).mp (by decide +kernel), by decide +kernel, ?_⟩, by decide⟩
    exact QueryBody.ofBytes_eq_ok_iff.mp rfl
  have hbad : Filter.ofReply "?" = .error (.invalidJson .expectedValue) := by cbv
  have hgood : Filter.ofReply "\x7b\x7d" = .ok ([], []) := by cbv
  have hpath : asked.path = "/query" := by cbv
  have hpath' : refused.path = "/query" := by cbv
  obtain ⟨-, -, hrows, -⟩ := (handle_classified r false asked replies).1 rfl hpath
  obtain ⟨-, hmisfit, -, -⟩ := (handle_classified r false refused replies).1 rfl hpath'
  have hcalls := (handle_classified r false refused replies).2.2.1
  obtain ⟨d, hd, hrequests, -, hok, -⟩ := hrows _ hasked (Dataset.not_misfit_of_ok rfl) (by simp)
  obtain rfl : ⟨["a"], [[("a", .null)]]⟩ = d := Except.ok.inj hd
  have hrun : Generation.run r.settings "q" ["a"] replies = ⟨.ok [],
      [Generation.request (Generation.opening "q" ["a"]), Generation.request
        (Generation.opening "q" ["a"] ++ Generation.correctionTurns "?")],
      [.warning (.unusableReply 1 (Filter.ReplyError.invalidJson .expectedValue).message)],
      []⟩ := by
    simp [r, ofOrigins, replies, Generation.run, Generation.Settings.attempts, Generation.converse,
      Generation.nextReply, Generation.Turn.ofReply, Generation.Run.after, hbad, hgood]
  rw [hrun] at hrequests hok
  obtain ⟨hstatus, hbody⟩ := hok [] rfl
  have hreports := hmisfit _ 1 hrefused (Dataset.ofRecords_eq_error rfl)
  obtain ⟨hnone, -⟩ := hcalls (by rw [hreports.1]; decide) (by rw [hreports.1]; decide)
  exact ⟨hpath, hasked, by rw [hrequests]; rfl, hstatus, hbody, hpath', hrefused, hnone, hreports⟩

end Router
end RowQuery.Http
