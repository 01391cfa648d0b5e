import RowQuery.Json.Tree

/-!
# What holds of every tree that is read

A tree is put together from tokens, a move at a time, and what it is made of is never looked into
again. So a property that lists and objects take over from the trees in them, and that all leaves
but numbers have anyway, holds of each tree that is read once it holds of the numbers.
-/
namespace RowQuery.Json

/-- What holds of the trees inside and of the one that comes out, given numbers that are spelled so.
A number alone may have what is asked inside and not what is asked of the whole. -/
structure Tree.Invariant (spelled : Literal → Prop) (inner outer : Tree → Prop) : Prop where
  inside {t : Tree} : outer t → inner t
  number {l : Literal} : spelled l → inner (.number l)
  word (w : Word) : outer (.ofWord w)
  string (q : Quoted) : outer (.string q)
  list {items : List Tree} (ending : Ending) : (∀ t ∈ items, inner t) → outer (.list items ending)
  object {members : List (Quoted × Tree)} (ending : Ending) :
    (∀ m ∈ members, inner m.2) → outer (.object members ending)
  broken (b : Break) : outer (.broken b)

def Frame.All (inner : Tree → Prop) : Frame → Prop
  | .list done => ∀ t ∈ done, inner t
  | .object done _ => ∀ m ∈ done, inner m.2

/-- Only where no container is open does a value come out. -/
def Expecting.Fits (spelled : Literal → Prop) (inner outer : Tree → Prop) (frames : List Frame) :
    Expecting → Prop
  | .value => frames ≠ [] ∨ ∀ l, spelled l → outer (.number l)
  | .listStart => True
  | .objectStart => True
  | .nextItem done => ∀ t ∈ done, inner t
  | .nextName done => ∀ m ∈ done, inner m.2
  | .colon done _ => ∀ m ∈ done, inner m.2
  | .separator last => inner last ∧ (frames ≠ [] ∨ outer last)

def Move.Fits (spelled : Literal → Prop) (inner outer : Tree → Prop) : Move → Prop
  | .go frames expecting =>
    (∀ f ∈ frames, f.All inner) ∧ expecting.Fits spelled inner outer frames
  | .stop d => outer d.tree

variable {inner : Tree → Prop} {frames : List Frame}

theorem Frame.all_list {done : List Tree} (h : ∀ t ∈ done, inner t)
    (hframes : ∀ f ∈ frames, f.All inner) : ∀ f ∈ Frame.list done :: frames, f.All inner :=
  List.forall_mem_cons.mpr ⟨h, hframes⟩

theorem Frame.all_object {done : List (Quoted × Tree)} (h : ∀ m ∈ done, inner m.2) (name : Quoted)
    (hframes : ∀ f ∈ frames, f.All inner) : ∀ f ∈ Frame.object done name :: frames, f.All inner :=
  List.forall_mem_cons.mpr ⟨h, hframes⟩

namespace Tree.Invariant
variable {spelled : Literal → Prop} {outer : Tree → Prop} {expecting : Expecting} {done : List Tree}
  {members : List (Quoted × Tree)} {last : Tree} {token : Token} {tokens : List Token}

theorem closed_list (inv : Invariant spelled inner outer) (h : ∀ t ∈ done, inner t)
    (ending : Ending) : outer (.list done.reverse ending) :=
  inv.list ending fun t ht => h t (List.mem_reverse.mp ht)

theorem closed_object (inv : Invariant spelled inner outer) (members : List (Quoted × Tree))
    (h : ∀ m ∈ members, inner m.2) (ending : Ending) : outer (.object members.reverse ending) :=
  inv.object ending fun m hm => h m (List.mem_reverse.mp hm)

theorem cutOff (inv : Invariant spelled inner outer) {t : Tree} (h : outer t)
    (hframes : ∀ f ∈ frames, f.All inner) (b : Break) :
    outer (Document.cutOff b t frames).tree := by
  rw [Document.cutOff]
  induction frames generalizing t with
  | nil => exact h
  | cons frame frames ih =>
    obtain ⟨hframe, hrest⟩ := List.forall_mem_cons.mp hframes
    cases frame with
    | list done =>
      exact ih (inv.closed_list (List.forall_mem_cons.mpr ⟨inv.inside h, hframe⟩) _) hrest
    | object done name =>
      exact ih (inv.closed_object ((name, t) :: done)
        (List.forall_mem_cons.mpr ⟨inv.inside h, hframe⟩) _) hrest

theorem brokenAt (inv : Invariant spelled inner outer) (hframes : ∀ f ∈ frames, f.All inner)
    (b : Break) : outer (Document.brokenAt b frames).tree :=
  inv.cutOff (inv.broken b) hframes b

theorem listCut (inv : Invariant spelled inner outer) (h : ∀ t ∈ done, inner t)
    (hframes : ∀ f ∈ frames, f.All inner) (b : Break) :
    outer (Document.listCut b done frames).tree :=
  inv.cutOff (inv.closed_list h _) hframes b

theorem objectCut (inv : Invariant spelled inner outer) (h : ∀ m ∈ members, inner m.2)
    (hframes : ∀ f ∈ frames, f.All inner) (b : Break) :
    outer (Document.objectCut b members frames).tree :=
  inv.cutOff (inv.closed_object members h _) hframes b

theorem ofEnd (inv : Invariant spelled inner outer) (hframes : ∀ f ∈ frames, f.All inner)
    (h : expecting.Fits spelled inner outer frames) :
    outer (Document.ofEnd frames expecting).tree := by
  cases expecting with
  | value => exact inv.brokenAt hframes _
  | listStart => exact inv.listCut (List.forall_mem_nil _) hframes _
  | objectStart => exact inv.objectCut (List.forall_mem_nil _) hframes _
  | nextItem done => exact inv.brokenAt (Frame.all_list h hframes) _
  | nextName done => exact inv.objectCut h hframes _
  | colon done name => exact inv.brokenAt (Frame.all_object h name hframes) _
  | separator last =>
    cases frames with
    | nil => exact h.2.resolve_left (· rfl)
    | cons frame frames =>
      obtain ⟨hframe, hrest⟩ := List.forall_mem_cons.mp hframes
      cases frame with
      | list done => exact inv.listCut (List.forall_mem_cons.mpr ⟨h.1, hframe⟩) hrest _
      | object done name => exact inv.objectCut (List.forall_mem_cons.mpr ⟨h.1, hframe⟩) hrest _

theorem value (inv : Invariant spelled inner outer) (hframes : ∀ f ∈ frames, f.All inner)
    (h : frames ≠ [] ∨ ∀ l, spelled l → outer (.number l))
    (htoken : ∀ l, token = .number l → spelled l) :
    (Move.value frames token).Fits spelled inner outer := by
  cases token with
  | word w => exact ⟨hframes, inv.inside (inv.word w), .inr (inv.word w)⟩
  | number l =>
    have hspelled := htoken l rfl
    exact ⟨hframes, inv.number hspelled, h.imp_right fun houter => houter l hspelled⟩
  | string q =>
    rw [Move.value]
    split
    · exact ⟨hframes, inv.inside (inv.string q), .inr (inv.string q)⟩
    · exact inv.cutOff (inv.string q) hframes _
  | listOpen => exact ⟨hframes, trivial⟩
  | objectOpen => exact ⟨hframes, trivial⟩
  | _ => exact inv.brokenAt hframes _

theorem name (inv : Invariant spelled inner outer) (hframes : ∀ f ∈ frames, f.All inner)
    (h : ∀ m ∈ members, inner m.2) (q : Quoted) :
    (Move.name frames members q).Fits spelled inner outer := by
  rw [Move.name]
  split
  · exact ⟨hframes, h⟩
  · exact inv.brokenAt (Frame.all_object h q hframes) _

theorem separator (inv : Invariant spelled inner outer) (hframes : ∀ f ∈ frames, f.All inner)
    (h : inner last ∧ (frames ≠ [] ∨ outer last)) (token : Token) :
    (Move.separator last frames token).Fits spelled inner outer := by
  cases frames with
  | nil => exact h.2.resolve_left (· rfl)
  | cons frame frames =>
    obtain ⟨hframe, hrest⟩ := List.forall_mem_cons.mp hframes
    cases frame with
    | list done =>
      have hdone : ∀ t ∈ last :: done, inner t := List.forall_mem_cons.mpr ⟨h.1, hframe⟩
      have hclosed := inv.closed_list hdone .closed
      cases token with
      | comma => exact ⟨hrest, hdone⟩
      | listClose => exact ⟨hrest, inv.inside hclosed, .inr hclosed⟩
      | _ => exact inv.listCut hdone hrest _
    | object done name =>
      have hdone : ∀ m ∈ (name, last) :: done, inner m.2 := List.forall_mem_cons.mpr ⟨h.1, hframe⟩
      have hclosed := inv.closed_object _ hdone .closed
      cases token with
      | comma => exact ⟨hrest, hdone⟩
      | objectClose => exact ⟨hrest, inv.inside hclosed, .inr hclosed⟩
      | _ => exact inv.objectCut hdone hrest _

theorem ofToken (inv : Invariant spelled inner outer) (hframes : ∀ f ∈ frames, f.All inner)
    (h : expecting.Fits spelled inner outer frames)
    (htoken : ∀ l, token = .number l → spelled l) :
    (Move.ofToken frames expecting token).Fits spelled inner outer := by
  cases expecting with
  | value => exact inv.value hframes h htoken
  | listStart =>
    have hvalue := inv.value (Frame.all_list (List.forall_mem_nil _) hframes)
      (.inl (List.cons_ne_nil _ _)) htoken
    have hclosed := inv.closed_list (List.forall_mem_nil _) .closed
    cases token with
    | listClose => exact ⟨hframes, inv.inside hclosed, .inr hclosed⟩
    | _ => exact hvalue
  | objectStart =>
    have hclosed := inv.closed_object [] (List.forall_mem_nil _) .closed
    cases token with
    | objectClose => exact ⟨hframes, inv.inside hclosed, .inr hclosed⟩
    | string q => exact inv.name hframes (List.forall_mem_nil _) q
    | _ => exact inv.objectCut (List.forall_mem_nil _) hframes _
  | nextItem done =>
    have hvalue := inv.value (Frame.all_list h hframes) (.inl (List.cons_ne_nil _ _)) htoken
    cases token with
    | listClose => exact inv.listCut h hframes _
    | _ => exact hvalue
  | nextName done =>
    cases token with
    | objectClose => exact inv.objectCut h hframes _
    | string q => exact inv.name hframes h q
    | _ => exact inv.objectCut h hframes _
  | colon done name =>
    have hopen := Frame.all_object h name hframes
    cases token with
    | colon => exact ⟨hopen, .inl (List.cons_ne_nil _ _)⟩
    | _ => exact inv.brokenAt hopen _
  | separator last => exact inv.separator hframes h token

theorem read (inv : Invariant spelled inner outer) (hframes : ∀ f ∈ frames, f.All inner)
    (h : expecting.Fits spelled inner outer frames)
    (htokens : ∀ token ∈ tokens, ∀ l, token = .number l → spelled l) :
    outer (Document.read frames expecting tokens).tree := by
  -- By the tokens: what is open and what is expected fit behind every move.
  induction tokens generalizing frames expecting with
  | nil => exact inv.ofEnd hframes h
  | cons token tokens ih =>
    obtain ⟨htoken, hrest⟩ := List.forall_mem_cons.mp htokens
    have hmove := inv.ofToken hframes h htoken
    rw [Document.read]
    split
    · next hgo =>
      rw [hgo] at hmove
      exact ih hmove.1 hmove.2 hrest
    · next hstop =>
      rw [hstop] at hmove
      exact hmove

end Tree.Invariant
end RowQuery.Json
