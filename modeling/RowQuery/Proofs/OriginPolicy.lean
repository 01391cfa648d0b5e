import Mathlib
import RowQuery.Http.Router

/-!
# Who may read the responses

No route says anything about other origins, so what a response says of them is what the rules say:
either everyone may read it, without credentials, or only the origin that asks and is listed, with
them. An entry that is no header value is as good as none. So the wildcard and the credentials never
meet, neither in a response nor in the rules.
-/
namespace RowQuery.Http

/-- A header value: no control character in it but tabs. -/
def FieldText (value : String) : Prop :=
  ∀ c ∈ value.toList, c = '\t' ∨ 0x20 ≤ c.toNat ∧ c.toNat ≠ 0x7F

theorem isField_iff {value : String} : isField value = true ↔ FieldText value := by
  simp [isField, FieldText]

instance (value : String) : Decidable (FieldText value) := decidable_of_iff _ isField_iff

def valuesOf (name : String) (headers : List (String × String)) : List String :=
  (headers.filter (·.1 = name)).map Prod.snd

theorem valuesOf_append (name : String) (headers more : List (String × String)) :
    valuesOf name (headers ++ more) = valuesOf name headers ++ valuesOf name more := by
  rw [valuesOf, List.filter_append, List.map_append, valuesOf, valuesOf]

theorem valuesOf_eq_nil {name : String} {headers : List (String × String)}
    (h : ∀ f ∈ headers, f.1 ≠ name) : valuesOf name headers = [] := by
  have hnone : headers.filter (·.1 = name) = [] :=
    List.filter_eq_nil_iff.mpr fun f hf => by simpa using h f hf
  rw [valuesOf, hnone, List.map_nil]

namespace Response

/-- The response says nothing about who may read it. -/
def Neutral (r : Response) : Prop :=
  ∀ f ∈ r.headers, f.1 ≠ "access-control-allow-origin" ∧ f.1 ≠ "access-control-allow-credentials"

theorem neutral_empty (status : Nat) : (empty status).Neutral :=
  fun _ hf => absurd hf List.not_mem_nil

theorem neutral_json (status : Nat) (body : Json.Value) : (json status body).Neutral := by
  simp [Neutral, json]

theorem neutral_html (body : String) : (html body).Neutral := by
  simp [Neutral, html]

theorem neutral_problem (p : Problem) : p.response.Neutral := by
  cases p <;> exact neutral_json _ _

end Response

theorem Route.neutral_page (found : Route) : found.page.Neutral := by
  cases found with
  | docs => exact Response.neutral_html _
  | query => exact Response.neutral_empty _
  | _ => exact Response.neutral_json _ _

namespace Router

theorem neutral_postQuery (r : Router) (request : Request) (replies : List Chat.Reply) :
    (r.postQuery request replies).response.Neutral := by
  rw [postQuery]
  split
  · exact Response.neutral_problem _
  · dsimp only
    split
    · exact Response.neutral_json _ _
    · exact Response.neutral_problem _

theorem neutral_serve (r : Router) (found : Route) (request : Request)
    (replies : List Chat.Reply) : (r.serve found request replies).response.Neutral := by
  rw [serve]
  split
  · simp [plain, Response.withField, Response.empty, Response.Neutral, Route.allow]
  · split
    · exact neutral_postQuery r request replies
    · split
      · exact found.neutral_page
      · exact found.neutral_page

theorem neutral_preflight (r : Router) (request : Request) (replies : List Chat.Reply) :
    (r.preflight request replies).response.Neutral := by
  intro f hf
  rcases List.mem_append.mp hf with hrules | hallow
  · cases hcors : r.cors <;> simp [hcors, Cors.preflightFields] at hrules <;>
      rcases hrules with rfl | rfl <;> decide
  · obtain ⟨found, -, rfl⟩ := List.mem_map.mp hallow
    exact ⟨by simp [Route.allow], by simp [Route.allow]⟩

theorem neutral_route (r : Router) (listening : Bool) (request : Request)
    (replies : List Chat.Reply) : (r.route listening request replies).response.Neutral := by
  rw [route]
  split
  · exact neutral_preflight r request replies
  · split
    · exact neutral_serve r _ request replies
    · exact Response.neutral_empty 404

theorem valuesOf_handle {name : String}
    (hname : name = "access-control-allow-origin" ∨ name = "access-control-allow-credentials")
    (r : Router) (listening : Bool) (request : Request) (replies : List Chat.Reply) :
    valuesOf name (r.handle listening request replies).response.headers =
      valuesOf name (r.cors.fields (request.field? "origin")) := by
  have hroute : valuesOf name (r.route listening request replies).response.headers = [] := by
    refine valuesOf_eq_nil fun f hf => ?_
    obtain ⟨horigin, hcredentials⟩ := neutral_route r listening request replies f hf
    rcases hname with rfl | rfl
    · exact horigin
    · exact hcredentials
  rw [handle, valuesOf_append, hroute, List.append_nil]

end Router

namespace Cors
variable {origins : List String}

/-- The rules can be put to use: a wildcard is no entry of a list, and no rule that comes with
credentials is a wildcard. Rules that are not like this are refused when they are set up. -/
structure Usable (cors : Cors) : Prop where
  listed : ∀ origins, cors = .listed origins → "*" ∉ origins
  credentials : cors.credentialFields ≠ [] →
    ∀ origin, ∀ f ∈ cors.originFields origin ++ cors.preflightFields, f.2 ≠ "*"

theorem allowsAny_iff : allowsAny origins = true ↔ "*" ∈ origins := by
  rw [allowsAny, List.contains_iff_mem]

theorem ofOrigins_of_mem (h : "*" ∈ origins) : ofOrigins origins = (.anyOrigin, []) := by
  rw [ofOrigins, if_pos (allowsAny_iff.mpr h)]

theorem ofOrigins_of_notMem (h : "*" ∉ origins) : ofOrigins origins =
    (.listed (origins.filter fun origin => FieldText origin),
      (origins.filter fun origin => ¬FieldText origin).map .invalidOrigin) := by
  have hfits : isField = fun origin => decide (FieldText origin) := by
    funext origin
    rw [Bool.eq_iff_iff, isField_iff, decide_eq_true_iff]
  rw [ofOrigins, if_neg (mt allowsAny_iff.mp h), hfits]
  simp only [decide_not]

theorem mem_originFields {f : String × String} {origin : Option String}
    (h : f ∈ (listed origins).originFields origin) :
    f.1 = "access-control-allow-origin" ∧ f.2 ∈ origins := by
  cases origin with
  | none => cases h
  | some origin =>
    rw [originFields] at h
    split at h
    · next hlisted =>
      obtain rfl := List.mem_singleton.mp h
      exact ⟨rfl, List.contains_iff_mem.mp hlisted⟩
    · cases h

theorem readers_listed (origins : List String) (origin : Option String) :
    valuesOf "access-control-allow-origin" ((listed origins).fields origin) =
      origin.toList.filter (· ∈ origins) := by
  have hnone : valuesOf "access-control-allow-origin" (listed origins).credentialFields = [] :=
    rfl
  rw [fields, valuesOf_append, hnone, List.append_nil]
  cases origin with
  | none => rfl
  | some origin => by_cases h : origin ∈ origins <;> simp [valuesOf, originFields, h]

theorem credentials_listed (origins : List String) (origin : Option String) :
    valuesOf "access-control-allow-credentials" ((listed origins).fields origin) = ["true"] := by
  have hnone : valuesOf "access-control-allow-credentials"
      ((listed origins).originFields origin) = [] := by
    refine valuesOf_eq_nil fun f hf => ?_
    rw [(mem_originFields hf).1]
    decide
  rw [fields, valuesOf_append, hnone]
  rfl

theorem usable_ofOrigins (origins : List String) : (ofOrigins origins).1.Usable := by
  by_cases h : "*" ∈ origins
  · rw [ofOrigins_of_mem h]
    exact ⟨fun _ hlisted => (nomatch hlisted), fun hnone => absurd rfl hnone⟩
  · rw [ofOrigins_of_notMem h]
    -- A wildcard among the entries makes the other kind of rules, so it is never one of a list.
    have hnot : "*" ∉ origins.filter fun origin => FieldText origin :=
      fun hmem => h (List.mem_of_mem_filter hmem)
    refine ⟨fun _ hlisted => Cors.listed.inj hlisted ▸ hnot, fun _ origin f hf => ?_⟩
    rcases List.mem_append.mp hf with hfield | hpreflight
    · rintro hstar
      exact hnot (hstar ▸ (mem_originFields hfield).2)
    · simp only [preflightFields, List.mem_cons, List.not_mem_nil, or_false] at hpreflight
      rcases hpreflight with rfl | rfl <;> decide

end Cors

namespace Router
variable {origins : List String}

theorem ofOrigins_of_mem (h : "*" ∈ origins) (settings : Generation.Settings) :
    ofOrigins origins settings = (⟨.anyOrigin, settings⟩, []) := by
  rw [ofOrigins, Cors.ofOrigins_of_mem h]

theorem ofOrigins_of_notMem (h : "*" ∉ origins) (settings : Generation.Settings) :
    ofOrigins origins settings =
      (⟨.listed (origins.filter fun origin => FieldText origin), settings⟩,
        (origins.filter fun origin => ¬FieldText origin).map .invalidOrigin) := by
  rw [ofOrigins, Cors.ofOrigins_of_notMem h]

/-- Everyone may read a response, without credentials, or the origin that asks may, if it is listed
and a header value. The rules can be put to use whatever is listed, and an entry that is no header
value is left out with one warning. -/
theorem origins_admitted (origins : List String) (settings : Generation.Settings)
    (listening : Bool) (request : Request) (replies : List Chat.Reply) :
    let built := ofOrigins origins settings
    let headers := (built.1.handle listening request replies).response.headers
    let readers := valuesOf "access-control-allow-origin" headers
    let credentials := valuesOf "access-control-allow-credentials" headers
    built.1.cors.Usable ∧
      ("*" ∈ origins → readers = ["*"] ∧ credentials = []) ∧
      ("*" ∉ origins →
        (∀ origin, origin ∈ readers ↔
          request.field? "origin" = some origin ∧ origin ∈ origins ∧ FieldText origin) ∧
        readers.length ≤ 1 ∧ "*" ∉ readers ∧ credentials = ["true"] ∧
        built.2 = (origins.filter fun origin => ¬FieldText origin).map .invalidOrigin ∧
        ofOrigins (origins.filter fun origin => FieldText origin) settings = (built.1, [])) ∧
      ¬("*" ∈ readers ∧ credentials ≠ []) := by
  intro built headers readers credentials
  have hreaders : readers = _ := valuesOf_handle (.inl rfl) built.1 listening request replies
  have hcredentials : credentials = _ :=
    valuesOf_handle (.inr rfl) built.1 listening request replies
  refine ⟨Cors.usable_ofOrigins origins, ?_⟩
  by_cases h : "*" ∈ origins
  · have hbuilt : built = _ := ofOrigins_of_mem h settings
    rw [hbuilt] at hreaders hcredentials
    have hnone : credentials = [] := hcredentials
    exact ⟨fun _ => ⟨hreaders, hnone⟩, fun hnot => absurd h hnot, fun hboth => hboth.2 hnone⟩
  · have hbuilt : built = _ := ofOrigins_of_notMem h settings
    rw [hbuilt, Cors.readers_listed] at hreaders
    rw [hbuilt, Cors.credentials_listed] at hcredentials
    have hmem (origin : String) : origin ∈ readers ↔
        request.field? "origin" = some origin ∧ origin ∈ origins ∧ FieldText origin := by
      simp [hreaders]
    have hstar : "*" ∉ readers := fun hread => h ((hmem "*").mp hread).2.1
    refine ⟨fun hany => absurd hany h, fun _ => ⟨hmem, ?_, hstar, hcredentials, ?_, ?_⟩,
      fun hboth => hstar hboth.1⟩
    · rw [hreaders]
      refine (List.length_filter_le _ _).trans ?_
      exact Option.length_toList_le
    · rw [hbuilt]
    · have hnot : "*" ∉ origins.filter fun origin => FieldText origin :=
        fun hkept => h (List.mem_of_mem_filter hkept)
      rw [ofOrigins_of_notMem hnot, hbuilt, List.filter_filter, List.filter_filter]
      simp

theorem origins_admitted_listed_and_any :
    let listed := ["http://localhost:5173", "\n", "http://localhost:5173"]
    let settings : Generation.Settings := ⟨3, .fail, false⟩
    let asks (origin : String) : Request := ⟨"OPTIONS", "/none", [("Origin", origin)], "".toUTF8⟩
    let readers (origins : List String) (origin : String) : List String :=
      valuesOf "access-control-allow-origin"
        ((ofOrigins origins settings).1.handle false (asks origin) []).response.headers
    "*" ∉ listed ∧ "http://localhost:5173" ∈ readers listed "http://localhost:5173" ∧
      "http://localhost" ∉ readers listed "http://localhost" ∧ "\n" ∉ readers listed "\n" ∧
      (ofOrigins listed settings).2 = [.invalidOrigin "\n"] ∧ "*" ∈ "*" :: listed ∧
      readers ("*" :: listed) "http://localhost" = ["*"] := by
  intro listed settings asks readers
  have hstar : "*" ∉ listed := by decide
  have hname : "Origin".toLower = "origin" := by decide +kernel
  have hasks (origin : String) : (asks origin).field? "origin" = some origin := by
    simp [asks, Request.field?, Request.fields, hname]
  obtain ⟨-, -, hlisted, -⟩ :=
    origins_admitted listed settings false (asks "http://localhost:5173") []
  obtain ⟨hknown, -, -, -, hwarnings, -⟩ := hlisted hstar
  obtain ⟨-, -, hlisted, -⟩ := origins_admitted listed settings false (asks "http://localhost") []
  obtain ⟨hstranger, -⟩ := hlisted hstar
  obtain ⟨-, -, hlisted, -⟩ := origins_admitted listed settings false (asks "\n") []
  obtain ⟨hbreak, -⟩ := hlisted hstar
  obtain ⟨-, hany, -⟩ :=
    origins_admitted ("*" :: listed) settings false (asks "http://localhost") []
  have hfits : FieldText "http://localhost:5173" := by decide
  have hbad : ¬FieldText "\n" := by decide
  refine ⟨hstar, (hknown _).mpr ⟨hasks _, List.mem_cons_self, hfits⟩, fun h => ?_,
    fun h => hbad ((hbreak _).mp h).2.2, hwarnings.trans (by decide), List.mem_cons_self,
    (hany List.mem_cons_self).1⟩
  exact absurd ((hstranger _).mp h).2.1 (by decide)

end Router
end RowQuery.Http
