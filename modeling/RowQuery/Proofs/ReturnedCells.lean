import Mathlib
import RowQuery.Proofs.NumberGrammar
import RowQuery.Proofs.PostedQuery
import RowQuery.Proofs.ReadingError
import RowQuery.Proofs.RowOrigin

/-!
# The numbers of an answer

A number that is sent in a row is read once and written once. What is written is the shortest
decimal of the number that was read, so a reader that rounds exactly finds that number again. The
first step is the one that can lose: only integers and short numerals are sure to be read as what
they stand for, and all others as something near it.
-/
namespace RowQuery.Http
open Json

/-- What stands under a name in an object; of several members, the last. -/
def cell? (name : String) : Tree → Option Tree
  | .object members _ => (QueryBody.named name members).getLast?
  | _ => none

inductive QueryBody.Rows : Document → List Tree → Prop
  | object {members : List (Quoted × Tree)} {sent : List Tree} :
      named "data" members = [.list sent .closed] → Rows ⟨.object members .closed, false⟩ sent
  | list {query : Tree} {sent : List Tree} :
      Rows ⟨.list [query, .list sent .closed] .closed, false⟩ sent

/-- Where one row has a number so has the other. The number that is written back stands exactly for
the one that was read. For integers of 64 bits and short numerals that is the one that was sent, and
for all others its double is near theirs. -/
structure KeepsNumbers (sent back : Tree) : Prop where
  returned : ∀ name l', cell? name back = some (.number l') →
    ∃ l n x, cell? name sent = some (.number l) ∧ l.number? = some n ∧ l'.denoted? = some n ∧
      (l.asInteger?.isSome ∨ l.Short → l'.denoted? = l.denoted?) ∧
      n.toDouble? = some x ∧ x.negative = l.closest.negative ∧ x.Near l.closest
  kept : ∀ name l, cell? name sent = some (.number l) → ∃ l', cell? name back = some (.number l')

theorem exists_sublist_of_forall₂ {α β : Type} {R : α → β → Prop} {as as' : List α} {bs : List β}
    (h : as'.Sublist as) (related : List.Forall₂ R as bs) :
    ∃ bs', bs'.Sublist bs ∧ List.Forall₂ R as' bs' := by
  induction h generalizing bs with
  | slnil => exact ⟨[], List.nil_sublist bs, .nil⟩
  | cons a _ ih =>
    cases related with
    | cons _ hrest =>
      obtain ⟨bs', hsub, hrelated⟩ := ih hrest
      exact ⟨bs', hsub.cons _, hrelated⟩
  | cons_cons a _ ih =>
    cases related with
    | cons hfirst hrest =>
      obtain ⟨bs', hsub, hrelated⟩ := ih hrest
      exact ⟨_ :: bs', hsub.cons_cons _, .cons hfirst hrelated⟩

section Decoded
variable {room : Nat} {t : Tree} {name : String}

theorem itemsWithin_eq_ok {ts : List Tree} {done values : List Value}
    (h : Tree.itemsWithin room done ts = .ok values) : ∃ rest, values = done.reverse ++ rest ∧
      List.Forall₂ (fun v t => t.valueWithin room = .ok v) rest ts := by
  induction ts generalizing done with
  | nil =>
    cases h
    exact ⟨[], by simp, .nil⟩
  | cons t ts ih =>
    rw [Tree.itemsWithin] at h
    cases hv : t.valueWithin room with
    | error b =>
      rw [hv] at h
      cases h
    | ok v =>
      rw [hv] at h
      obtain ⟨rest, hvalues, hrest⟩ := ih h
      exact ⟨v :: rest, by simpa using hvalues, .cons hv hrest⟩

theorem named_cons_self {m : Quoted × Tree} (h : m.1.text = .ok name)
    (members : List (Quoted × Tree)) :
    QueryBody.named name (m :: members) = m.2 :: QueryBody.named name members := by
  simp [QueryBody.named, h, Except.toOption]

theorem named_cons_ne {m : Quoted × Tree} {other : String} (h : m.1.text = .ok other)
    (ne : name ≠ other) (members : List (Quoted × Tree)) :
    QueryBody.named name (m :: members) = QueryBody.named name members := by
  simp [QueryBody.named, h, Except.toOption, ne.symm]

theorem memberWithin_eq_ok {m : Quoted × Tree} {entry : String × Value}
    (h : Tree.memberWithin room m = .ok entry) :
    m.1.text = .ok entry.1 ∧ m.2.valueWithin room = .ok entry.2 := by
  obtain ⟨q, t⟩ := m
  rw [Tree.memberWithin] at h
  cases hq : q.text with
  | error b =>
    rw [hq] at h
    cases h
  | ok name =>
    rw [hq] at h
    cases hv : t.valueWithin room with
    | error b =>
      rw [hv] at h
      cases h
    | ok v =>
      rw [hv] at h
      cases h
      exact ⟨rfl, rfl⟩

theorem lookup_membersWithin {members : List (Quoted × Tree)} {done values : Members}
    (h : Tree.membersWithin room done members = .ok values) (name : String) :
    (∀ c, (QueryBody.named name members).getLast? = some c →
      ∃ v, c.valueWithin room = .ok v ∧ values.lookup name = some v) ∧
    (QueryBody.named name members = [] → values.lookup name = done.lookup name) := by
  induction members generalizing done with
  | nil =>
    cases h
    exact ⟨nofun, fun _ => rfl⟩
  | cons m members ih =>
    rw [Tree.membersWithin] at h
    cases hm : Tree.memberWithin room m with
    | error b =>
      rw [hm] at h
      cases h
    | ok entry =>
      obtain ⟨htext, hvalue⟩ := memberWithin_eq_ok hm
      rw [hm] at h
      obtain ⟨hlast, hold⟩ := ih h
      rw [Members.lookup_insert] at hold
      -- A later member of the name takes over the place of an earlier one.
      by_cases hname : name = entry.1
      · rw [named_cons_self (hname ▸ htext)]
        refine ⟨fun c hc => ?_, nofun⟩
        by_cases hnone : QueryBody.named name members = []
        · rw [hnone, List.getLast?_singleton] at hc
          cases hc
          rw [if_pos hname] at hold
          exact ⟨entry.2, hvalue, hold hnone⟩
        · rw [List.getLast?_cons_of_ne_nil hnone] at hc
          exact hlast c hc
      · rw [named_cons_ne htext hname]
        rw [if_neg hname] at hold
        exact ⟨hlast, hold⟩

theorem lookup_of_valueWithin {members : Members} (h : t.valueWithin room = .ok (.object members))
    (name : String) : (∃ c inner v, cell? name t = some c ∧ c.valueWithin inner = .ok v ∧
      members.lookup name = some v) ∨ cell? name t = none ∧ members.lookup name = none := by
  cases t with
  | object ms ending =>
    obtain ⟨inner, values, -, hmembers, -, hobject⟩ := Tree.valueWithin_object_iff.mp h
    cases hobject
    obtain ⟨hlast, hnone⟩ := lookup_membersWithin hmembers name
    rw [cell?]
    cases hcell : (QueryBody.named name ms).getLast? with
    | some c =>
      obtain ⟨v, hv, hlookup⟩ := hlast c hcell
      exact .inl ⟨c, inner, v, rfl, hv, hlookup⟩
    | none => exact .inr ⟨rfl, hnone (List.getLast?_eq_none_iff.mp hcell)⟩
  | number l => cases hl : l.number? <;> simp [Tree.valueWithin, Literal.read, Except.map, hl] at h
  | string q => cases hq : q.text <;> simp [Tree.valueWithin, Except.map, hq] at h
  | list ts ending => simp [Tree.valueWithin_list_iff] at h
  | _ => simp [Tree.valueWithin] at h

theorem membersWithin_number {l : Literal} {n : Number} (h : l.number? = some n) (name : String)
    (done : Members) (members : List (Quoted × Tree)) :
    Tree.membersWithin room done ((.ofText name, .number l) :: members) =
      Tree.membersWithin room (done.insert name (.number n)) members := by
  rw [Tree.membersWithin, Tree.memberWithin, Quoted.text_ofText, Tree.valueWithin, Literal.read, h]
  rfl

theorem itemsWithin_object {members : List (Quoted × Tree)} {row : Members}
    (h : Tree.membersWithin room [] members = .ok row) :
    Tree.itemsWithin (room + 1) [] [.object members .closed] = .ok ([row].map .object) := by
  rw [Tree.itemsWithin, Tree.valueWithin, h]
  rfl

theorem cell?_tree {row : Members} (once : row.names.Nodup) (name : String) :
    cell? name (Value.object row).tree = (row.lookup name).map Value.tree := by
  rw [Value.tree, Value.memberTrees_eq, cell?]
  induction row with
  | nil => rfl
  | cons m ms ih =>
    obtain ⟨fresh, rest⟩ := List.nodup_cons.mp once
    have htext : (Value.memberTree m).1.text = .ok m.1 := by
      rw [Value.memberTree_eq, Quoted.text_ofText]
    rw [List.map_cons, Members.lookup_cons_eq]
    by_cases hname : name = m.1
    · have hlookup : ms.lookup name = none := Members.lookup_eq_none_of_notMem (hname ▸ fresh)
      have hnone := ih rest
      rw [hlookup, Option.map_none, List.getLast?_eq_none_iff] at hnone
      rw [named_cons_self (hname ▸ htext), hnone, if_pos hname, Value.memberTree_eq]
      rfl
    · rw [named_cons_ne htext hname, ih rest, if_neg hname]

theorem tree_eq_number {v : Value} {l : Literal} (h : v.tree = .number l) :
    ∃ n, v = .number n ∧ l = n.literal := by
  cases v with
  | number n =>
    rw [Value.tree] at h
    cases h
    exact ⟨n, rfl, rfl⟩
  | _ => rw [Value.tree] at h; cases h

theorem number?_of_valueWithin {l : Literal} {v : Value}
    (h : (Tree.number l).valueWithin room = .ok v) : ∃ n, l.number? = some n ∧ v = .number n := by
  cases hn : l.number? <;> simp_all [Tree.valueWithin, Literal.read, Except.map]

theorem proper_of_named {members : List (Quoted × Tree)} (proper : ∀ m ∈ members, m.2.Proper)
    {c : Tree} (h : c ∈ QueryBody.named name members) : c.Proper := by
  obtain ⟨m, hm, rfl⟩ := List.mem_map.mp h
  exact proper m (List.mem_of_mem_filter hm)

theorem proper_cell? (proper : t.Proper) {c : Tree} (h : cell? name t = some c) : c.Proper := by
  cases t with
  | object members ending => exact proper_of_named proper.of_object (List.mem_of_getLast? h)
  | _ => cases h

theorem QueryBody.Rows.proper {d : Document} {sent : List Tree} (h : QueryBody.Rows d sent)
    (proper : d.tree.Proper) : ∀ t ∈ sent, t.Proper := by
  cases h with
  | object hnamed =>
    have hlist := @proper_of_named "data" _ proper.of_object (.list sent .closed)
      (by rw [hnamed]; exact List.mem_singleton.mpr rfl)
    exact hlist.of_list
  | list => exact (proper.of_list _ (List.mem_cons_of_mem _ List.mem_cons_self)).of_list

theorem keepsNumbers_of_padded {headers : List String} {record : Value} {row : Members}
    (proper : t.Proper) (h : t.valueWithin room = .ok record) (padded : PaddedTo headers record row)
    (distinct : headers.Nodup) (covered : record.memberNames ⊆ headers) :
    KeepsNumbers t (Value.object row).tree := by
  obtain ⟨members, rfl⟩ := padded.isObject
  have once : row.names.Nodup := padded.names ▸ distinct
  have hcell {name : String} (hname : name ∈ headers) :
      row.lookup name = some ((members.lookup name).getD .null) := padded.cell name hname
  refine ⟨fun name l' hback => ?_, fun name l hsent => ?_⟩
  · rw [cell?_tree once] at hback
    obtain ⟨v, hv, htree⟩ := Option.map_eq_some_iff.mp hback
    obtain ⟨n, rfl, rfl⟩ := tree_eq_number htree
    have hread := hcell (padded.names ▸ Members.mem_names_of_lookup hv)
    rw [hv, Option.some.injEq] at hread
    rcases lookup_of_valueWithin h name with ⟨c, inner, w, hc, hw, hlookup⟩ | ⟨-, hlookup⟩
    · rw [hlookup, Option.getD_some] at hread
      subst hread
      obtain ⟨l, rfl, hnumber⟩ := Tree.valueWithin_eq_number_iff.mp hw
      obtain ⟨x, hx⟩ := n.exists_toDouble?
      obtain ⟨hsign, hnear⟩ := Literal.near_closest (proper_cell? proper hc).of_number hnumber hx
      refine ⟨l, n, x, hc, hnumber, Number.denoted?_literal n, fun hexact => ?_, hx, hsign, hnear⟩
      rw [Number.denoted?_literal, ← hnumber, Literal.number?_eq_denoted? hexact]
    · rw [hlookup] at hread
      cases hread
  · rcases lookup_of_valueWithin h name with ⟨c, inner, w, hc, hw, hlookup⟩ | ⟨hc, -⟩
    · rw [hsent] at hc
      cases hc
      obtain ⟨n, -, rfl⟩ := number?_of_valueWithin hw
      refine ⟨n.literal, ?_⟩
      rw [cell?_tree once, hcell (covered (Members.mem_names_of_lookup hlookup)), hlookup]
      rfl
    · rw [hsent] at hc
      cases hc

end Decoded

theorem exists_rows_of_written {d : Document} {b : QueryBody} (h : QueryBody.Written d b) :
    ∃ sent room, QueryBody.Rows d sent ∧ Tree.itemsWithin room [] sent = .ok b.data := by
  cases h with
  | object hform =>
    obtain ⟨t, hnamed, hvalue⟩ := hform.data
    obtain ⟨inner, sent, -, rfl, hitems⟩ := Tree.valueWithin_eq_list_iff.mp hvalue
    exact ⟨sent, inner, .object hnamed, hitems⟩
  | list _ hvalue =>
    obtain ⟨inner, sent, -, rfl, hitems⟩ := Tree.valueWithin_eq_list_iff.mp hvalue
    exact ⟨sent, inner, .list, hitems⟩

theorem Problem.status_response (p : Problem) : p.response.status ≠ 200 := by
  cases p <;> exact nofun

namespace Router
variable {r : Router} {request : Request} {replies : List Chat.Reply}

theorem postQuery_of_status (h : (r.postQuery request replies).response.status = 200) :
    ∃ b out, QueryBody.Written (Document.ofBytes request.body.data.toList) b ∧
      (Query.run r.settings b.query b.data replies).result = .ok out ∧
      (r.postQuery request replies).response.body = (Value.list (out.map .object)).text := by
  rcases request.carries_or_unreadable with ⟨b, hb⟩ | ⟨-, message, hrefused⟩
  · by_cases hshort : QueryBody.isShort b.query
    · have hposes : request.Poses b := ⟨hb, (isShort_iff b.query).mp hshort⟩
      simp only [postQuery, hposes.ofRequest_eq] at h ⊢
      cases hresult : (Query.run r.settings b.query b.data replies).result with
      | ok out =>
        exact ⟨b, out, hb.written, hresult, rfl⟩
      | error e =>
        rw [hresult] at h
        exact absurd h (Problem.status_response _)
    · have hrefused := hb.ofRequest_eq
      rw [if_neg hshort] at hrefused
      rw [postQuery_of_error hrefused] at h
      exact absurd h (Problem.status_response _)
  · rw [postQuery_of_error hrefused] at h
    exact absurd h (Problem.status_response _)

theorem written_pair {query : String} {sent : List Tree} {records : List Value}
    (h : Tree.itemsWithin (maxDepth - 2) [] sent = .ok records) : QueryBody.Written
      ⟨.object [(.ofText "query", .string (.ofText query)),
        (.ofText "data", .list sent .closed)] .closed, false⟩ ⟨query, records⟩ := by
  have htext (s : String) : (Quoted.ofText s).text = .ok s := Quoted.text_ofText s
  have hne : "data" ≠ "query" := by decide
  refine .object ⟨⟨.string (.ofText query), ?_, ?_⟩, ⟨.list sent .closed, ?_, ?_⟩, ?_⟩
  · rw [named_cons_self (htext "query"), named_cons_ne (htext "data") hne.symm]
    rfl
  · rw [Tree.valueWithin_eq_string_iff]
    exact ⟨_, rfl, htext query⟩
  · rw [named_cons_ne (htext "query") hne, named_cons_self (htext "data")]
    rfl
  · exact Tree.valueWithin_eq_list_iff.mpr ⟨maxDepth - 2, sent, rfl, rfl, h⟩
  · intro m hm
    simp only [List.mem_cons, List.not_mem_nil, or_false] at hm
    rcases hm with rfl | rfl
    · exact ⟨_, htext _, .inl rfl⟩
    · exact ⟨_, htext _, .inr (.inl rfl)⟩

theorem handle_unfiltered {r : Router} (settings : r.settings = ⟨1, .fail, false⟩)
    (post : request.method = "POST") (path : request.path = "/query")
    (declared : request.DeclaresJson) (size : request.body.size ≤ 32 * 1024 * 1024)
    {sent : List Tree} (document : Document.ofBytes request.body.data.toList =
      ⟨.object [(.ofText "query", .string (.ofText "q")), (.ofText "data", .list sent .closed)]
        .closed, false⟩)
    {rows : List Members} (nonempty : rows ≠ [])
    (items : Tree.itemsWithin (maxDepth - 2) [] sent = .ok (rows.map .object))
    (unfiltered : replies = [.ok (some "\x7b\"filters\":[]\x7d")]) :
    (r.handle false request replies).response.status = 200 ∧
      (r.handle false request replies).response.body =
        (Value.list ((Dataset.toRecords ⟨Dataset.headersOf rows, rows⟩).map .object)).text := by
  have hwritten : QueryBody.Written (Document.ofBytes request.body.data.toList)
      ⟨"q", rows.map .object⟩ := document ▸ written_pair items
  have hshort : "q".toList.length ≤ 4000 := by decide
  have hposes : request.Poses ⟨"q", rows.map .object⟩ := ⟨⟨declared, size, hwritten⟩, hshort⟩
  have hgood : Filter.ofReply "\x7b\"filters\":[]\x7d" = .ok ([], []) := by cbv
  have hrun : (Generation.run r.settings "q" (Dataset.headersOf rows) replies).result = .ok [] := by
    simp [settings, unfiltered, Generation.run, Generation.Settings.attempts, Generation.converse,
      Generation.nextReply, Generation.Turn.ofReply, hgood]
  obtain ⟨headers, hhandle⟩ := handle_posted post path r false replies
  obtain ⟨events, hanswer⟩ := postQuery_of_rows hposes (Dataset.ofRecords_map_object rows)
    (by simpa using nonempty) r replies
  rw [hhandle, hanswer]
  simp only [hrun]
  exact ⟨rfl, rfl⟩

/-- The rows of an answer are rows that were sent, in their order, and each keeps its numbers: what
is written back stands exactly for what was read. -/
theorem returned_numbers (r : Router) (listening : Bool) {request : Request}
    (replies : List Chat.Reply) (post : request.method = "POST") (path : request.path = "/query")
    (answered : (r.handle listening request replies).response.status = 200) :
    ∃ sent kept back, QueryBody.Rows (Document.ofBytes request.body.data.toList) sent ∧
      Document.ofBytes (r.handle listening request replies).response.body.toUTF8.data.toList =
        ⟨.list back .closed, false⟩ ∧
      kept.Sublist sent ∧ List.Forall₂ KeepsNumbers kept back := by
  obtain ⟨headers, hhandle⟩ := handle_posted post path r listening replies
  rw [hhandle] at answered ⊢
  obtain ⟨b, out, hwritten, hresult, hbody⟩ := postQuery_of_status answered
  obtain ⟨sent, room, hrows, hitems⟩ := exists_rows_of_written hwritten
  obtain ⟨d, rows, hd, hsublist, rfl⟩ := Query.run_eq_ok hresult
  obtain ⟨records, hdata, hread⟩ := itemsWithin_eq_ok hitems
  obtain ⟨hrecords, hfirst⟩ := Dataset.ofRecords_eq_ok hd
  rw [List.reverse_nil, List.nil_append] at hdata
  subst hdata
  -- What was read is a map, so a look-up finds the cell of its name.
  have once : ∀ record ∈ b.data, record.memberNames.Nodup := fun record hrecord =>
    (Tree.distinct_itemsWithin room sent (fun _ hv => absurd hv List.not_mem_nil) hitems record
      hrecord).memberNames_nodup
  have hproper : Dataset.Proper ⟨d.headers, rows⟩ :=
    (Dataset.proper_ofRecords hd once).of_sublist rfl hsublist
  have hsub : (rows.map Value.object).Sublist b.data := hrecords ▸ hsublist.map Value.object
  obtain ⟨kept, hkept, hvalues⟩ := exists_sublist_of_forall₂ hsub hread
  rw [List.forall₂_map_left_iff] at hvalues
  have hspelled : ∀ t ∈ kept, t.Proper := fun t ht =>
    hrows.proper (Document.proper_ofBytes _) t (hkept.subset ht)
  have hcovered := (List.forall₂_and_left rows kept).mpr ⟨hproper.covered, hvalues⟩
  refine ⟨sent, kept, (rows.map fun row => (Value.object (Dataset.padded d.headers row)).tree),
    hrows, ?_, hkept, .flip ?_⟩
  · simp only [hbody, Value.document_text, Value.tree, Value.itemTrees_eq, hproper.toRecords_eq,
      List.map_map]
    rfl
  · rw [List.forall₂_map_left_iff]
    have hproperly := (List.forall₂_and_left kept rows).mpr ⟨hspelled, hcovered.flip⟩
    refine hproperly.flip.imp fun row t hrow => ?_
    obtain ⟨hspelled, hnames, hvalue⟩ := hrow
    exact keepsNumbers_of_padded hspelled hvalue (paddedTo_padded d.headers row)
      hproper.headers_nodup hnames

theorem returned_numbers_largest_integer :
    let r := (ofOrigins ["*"] ⟨1, .fail, false⟩).1
    let request : Request := ⟨"POST", "/query", [("Content-Type", "application/json")],
      "\x7b\"query\":\"q\",\"data\":[\x7b\"x\":18446744073709551615,\"y\":-1.5e-7\x7d]\x7d".toUTF8⟩
    let replies : List Chat.Reply := [.ok (some "\x7b\"filters\":[]\x7d")]
    request.method = "POST" ∧ request.path = "/query" ∧
      (r.handle false request replies).response.status = 200 ∧
      (r.handle false request replies).response.body =
        "[\x7b\"x\":18446744073709551615,\"y\":-1.5e-7\x7d]" ∧
      ∃ sent kept back, QueryBody.Rows (Document.ofBytes request.body.data.toList) sent ∧
        Document.ofBytes (r.handle false request replies).response.body.toUTF8.data.toList =
          ⟨.list back .closed, false⟩ ∧
        kept.Sublist sent ∧ List.Forall₂ KeepsNumbers kept back := by
  intro r request replies
  let integer : Literal := ⟨false, ['1', '8', '4', '4', '6', '7', '4', '4', '0', '7', '3', '7',
      '0', '9', '5', '5', '1', '6', '1', '5'], [], none⟩
  let fraction : Literal := ⟨true, ['1'], ['5'], some (-7)⟩
  let m : Number := .integer ⟨18446744073709551615, by decide⟩
  let n : Number := .real ⟨true, 5666839779443574, 999, by decide, by decide, by decide⟩
  have hdocument : Document.ofBytes request.body.data.toList = ⟨.object
      [(.ofText "query", .string (.ofText "q")), (.ofText "data", .list [.object
        [(.ofText "x", .number integer), (.ofText "y", .number fraction)] .closed] .closed)]
      .closed, false⟩ := rfl
  have hinteger : integer.number? = some m := by decide +kernel
  have hfraction : fraction.number? = some n := by decide +kernel
  have hitems : Tree.itemsWithin (maxDepth - 2) []
      [.object [(.ofText "x", .number integer), (.ofText "y", .number fraction)] .closed] =
      .ok ([[("x", .number m), ("y", .number n)]].map .object) := by
    refine itemsWithin_object ?_
    rw [membersWithin_number hinteger, membersWithin_number hfraction]
    rfl
  have hpath : request.path = "/query" := by cbv
  have hdeclared : request.DeclaresJson := (isDeclaredJson_iff request).mp (by decide +kernel)
  have hsize : request.body.size ≤ 32 * 1024 * 1024 := by decide +kernel
  have hm : m.text = ['1', '8', '4', '4', '6', '7', '4', '4', '0', '7', '3', '7', '0', '9',
      '5', '5', '1', '6', '1', '5'] := by decide +kernel
  have hn : n.text = ['-', '1', '.', '5', 'e', '-', '7'] := by decide +kernel
  have hanswer : (r.handle false request replies).response.status = 200 ∧
      (r.handle false request replies).response.body = _ :=
    handle_unfiltered rfl rfl hpath hdeclared hsize hdocument (List.cons_ne_nil _ _) hitems rfl
  obtain ⟨hstatus, hbody⟩ := hanswer
  refine ⟨rfl, hpath, hstatus, ?_, returned_numbers r false replies rfl hpath hstatus⟩
  have hrecords : Dataset.toRecords ⟨Dataset.headersOf [[("x", .number m), ("y", .number n)]],
      [[("x", .number m), ("y", .number n)]]⟩ = [[("x", .number m), ("y", .number n)]] := rfl
  rw [hbody, hrecords]
  simp only [List.map_cons, List.map_nil, Value.text, Value.chars, Value.itemChars_eq,
    Value.memberChars_eq, Value.pairChars, hm, hn]
  rfl

/-- A double with sixteen digits, sent as its shortest decimal, comes back as the next double. -/
theorem returned_numbers_next_double :
    let r := (ofOrigins ["*"] ⟨1, .fail, false⟩).1
    let request : Request := ⟨"POST", "/query", [("Content-Type", "application/json")],
      "\x7b\"query\":\"q\",\"data\":[\x7b\"x\":0.9099999999999999\x7d]\x7d".toUTF8⟩
    let replies : List Chat.Reply := [.ok (some "\x7b\"filters\":[]\x7d")]
    let x : Double := ⟨false, 8196551321814302, 1021, by decide, by decide, by decide⟩
    let y : Double := ⟨false, 8196551321814303, 1021, by decide, by decide, by decide⟩
    (r.handle false request replies).response.status = 200 ∧
      (r.handle false request replies).response.body = "[\x7b\"x\":0.91\x7d]" ∧
      QueryBody.Rows (Document.ofBytes request.body.data.toList)
        [.object [(.ofText "x", .number (Number.real x).literal)] .closed] ∧
      Document.ofBytes (r.handle false request replies).response.body.toUTF8.data.toList =
        ⟨.list [.object [(.ofText "x", .number (Number.real y).literal)] .closed] .closed, false⟩ ∧
      (Number.real x).literal.denoted? = some (.real x) ∧
      (Number.real y).literal.denoted? = some (.real y) ∧ x.units ≠ y.units := by
  intro r request replies x y
  have hliteral : (Number.real x).literal = ⟨false, ['0'], ['9', '0', '9', '9', '9', '9', '9', '9',
      '9', '9', '9', '9', '9', '9', '9', '9'], none⟩ := by decide +kernel
  have hnumber : (Number.real x).literal.number? = some (.real y) := by
    rw [hliteral]
    decide +kernel
  have hdocument : Document.ofBytes request.body.data.toList = ⟨.object
      [(.ofText "query", .string (.ofText "q")), (.ofText "data", .list [.object
        [(.ofText "x", .number (Number.real x).literal)] .closed] .closed)] .closed, false⟩ := by
    rw [hliteral]
    rfl
  have hitems : Tree.itemsWithin (maxDepth - 2) []
      [.object [(.ofText "x", .number (Number.real x).literal)] .closed] =
      .ok ([[("x", .number (.real y))]].map .object) := by
    refine itemsWithin_object ?_
    rw [membersWithin_number hnumber]
    rfl
  have hpath : request.path = "/query" := by cbv
  have hdeclared : request.DeclaresJson := (isDeclaredJson_iff request).mp (by decide +kernel)
  have hsize : request.body.size ≤ 32 * 1024 * 1024 := by decide +kernel
  obtain ⟨hstatus, hbody⟩ := @handle_unfiltered request replies r rfl rfl hpath hdeclared hsize _
    hdocument _ (List.cons_ne_nil _ _) hitems rfl
  have hrecords : Dataset.toRecords ⟨Dataset.headersOf [[("x", .number (.real y))]],
      [[("x", .number (.real y))]]⟩ = [[("x", .number (.real y))]] := rfl
  have htext : Number.text (.real y) = ['0', '.', '9', '1'] := by decide +kernel
  rw [hrecords] at hbody
  refine ⟨hstatus, ?_, ?_, ?_, Number.denoted?_literal _, Number.denoted?_literal _, ?_⟩
  · rw [hbody]
    simp only [List.map_cons, List.map_nil, Value.text, Value.chars, Value.itemChars_eq,
      Value.memberChars_eq, Value.pairChars, htext]
    rfl
  · rw [hdocument]
    exact .object rfl
  · rw [hbody, Value.document_text]
    rfl
  · decide +kernel

end Router
end RowQuery.Http
