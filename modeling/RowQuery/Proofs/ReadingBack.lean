import Mathlib
import RowQuery.Proofs.DistinctNames
import RowQuery.Proofs.NumberScan

/-!
# Printed values are read back

The text of a value is scanned token by token, and the tokens build a tree with a place for every
part of the value: no text, list or object is lost, and a number is the literal it was written as.
Decoded, the tree of a value without numbers is the value. Whether a number is decoded to itself is
a matter of its digits.
-/
namespace RowQuery.Json

namespace Token

/-- The octets are scanned as the tokens, whatever stands before them, and behind them whatever
does not go on a number. -/
def Scans (octets : List UInt8) (tokens : List Token) : Prop :=
  ∀ (done : List Token) (k : Nat) (rest : List UInt8), Stops rest → ∃ k', k ≤ k' ∧
    scanOnto done (octets.length + k) (octets ++ rest) = scanOnto (tokens.reverse ++ done) k' rest

theorem scanOnto_one {b : UInt8} {octets rest : List UInt8} {token : Token}
    (hspace : isSpace b = false) (h : scanFrom b (octets ++ rest) = (token, rest))
    (done : List Token) (k : Nat) : scanOnto done ((b :: octets).length + k) (b :: octets ++ rest) =
      scanOnto (token :: done) (octets.length + k) rest := by
  rw [List.length_cons, Nat.add_right_comm, List.cons_append, scanOnto,
    List.dropWhile_cons_of_neg (by simp [hspace])]
  simp only [h]

theorem scans_one {b : UInt8} {octets : List UInt8} {token : Token} (hspace : isSpace b = false)
    (h : ∀ rest, Stops rest → scanFrom b (octets ++ rest) = (token, rest)) :
    Scans (b :: octets) [token] :=
  fun done k rest stop => ⟨octets.length + k, Nat.le_add_left k _,
    scanOnto_one hspace (h rest stop) done k⟩

theorem Scans.cons {b : UInt8} {octets octets' : List UInt8} {token : Token} {tokens : List Token}
    (hspace : isSpace b = false) (h : ∀ rest, scanFrom b (octets ++ rest) = (token, rest))
    (h' : Scans octets' tokens) : Scans (b :: octets ++ octets') (token :: tokens) := by
  intro done k rest stop
  obtain ⟨k', hk', hrest⟩ := h' (token :: done) (octets.length + k) rest stop
  have hlength : (b :: octets ++ octets').length + k =
      (b :: octets).length + (octets'.length + k) := by
    rw [List.length_append, Nat.add_assoc]
  refine ⟨k', by omega, ?_⟩
  rw [hlength, List.append_assoc, scanOnto_one hspace (h _), Nat.add_left_comm, hrest]
  simp

theorem Scans.append {octets octets' : List UInt8} {tokens tokens' : List Token}
    (h : Scans octets tokens) (h' : Scans octets' tokens')
    (stop : ∀ rest, Stops (octets' ++ rest)) : Scans (octets ++ octets') (tokens ++ tokens') := by
  intro done k rest hstop
  obtain ⟨k₁, hk₁, hfirst⟩ := h done (octets'.length + k) (octets' ++ rest) (stop rest)
  obtain ⟨k₂, hk₂, hsecond⟩ := h' (tokens.reverse ++ done) (k₁ - octets'.length) rest hstop
  refine ⟨k₂, by omega, ?_⟩
  rw [List.length_append, Nat.add_assoc, List.append_assoc, hfirst,
    ← Nat.add_sub_cancel' (Nat.le_of_add_right_le hk₁), hsecond, List.reverse_append,
    List.append_assoc]

theorem scanOnto_nil (done : List Token) (k : Nat) : scanOnto done k [] = done.reverse := by
  cases k <;> rfl

theorem Scans.scan_eq {octets : List UInt8} {tokens : List Token} (h : Scans octets tokens) :
    scan octets = tokens := by
  obtain ⟨k, -, hscan⟩ := h [] 0 [] stops_nil
  rw [Nat.add_zero, List.append_nil, List.append_nil, scanOnto_nil, List.reverse_reverse] at hscan
  exact hscan

theorem scans_nil : Scans [] [] := fun _ k _ _ => ⟨k, Nat.le_refl k, by simp⟩

theorem Scans.quoted (s : String) {octets : List UInt8} {tokens : List Token}
    (h : Scans octets tokens) :
    Scans (utf8 (quote s) ++ octets) (.string (.ofText s) :: tokens) := by
  rw [utf8_quote]
  refine Scans.cons rfl (fun rest => ?_) h
  rw [List.append_assoc]
  exact scanFrom_quote s rest

theorem stops_cons {b : UInt8} (h : isDigit b = false ∧ b ≠ 0x2E ∧ b ≠ 0x65 ∧ b ≠ 0x45)
    (bs : List UInt8) : Stops (b :: bs) := by
  intro b' hb'
  obtain rfl := Option.some.inj hb'
  exact h

theorem Scans.comma {octets octets' : List UInt8} {tokens tokens' : List Token}
    (h : Scans octets tokens) (h' : Scans octets' tokens') :
    Scans (octets ++ 0x2C :: octets') (tokens ++ .comma :: tokens') := by
  have hcomma : Scans ([0x2C] ++ octets') (.comma :: tokens') := .cons rfl (fun _ => rfl) h'
  exact h.append hcomma fun _ => stops_cons (by decide) _

theorem Scans.list {octets : List UInt8} {tokens : List Token} (h : Scans octets tokens) :
    Scans ([0x5B] ++ (octets ++ [0x5D])) (.listOpen :: (tokens ++ [.listClose])) := by
  have hclose : Scans [0x5D] [.listClose] := scans_one rfl fun _ _ => rfl
  exact .cons rfl (fun _ => rfl) (h.append hclose fun _ => stops_cons (by decide) _)

theorem Scans.object {octets : List UInt8} {tokens : List Token} (h : Scans octets tokens) :
    Scans ([0x7B] ++ (octets ++ [0x7D])) (.objectOpen :: (tokens ++ [.objectClose])) := by
  have hclose : Scans [0x7D] [.objectClose] := scans_one rfl fun _ _ => rfl
  exact .cons rfl (fun _ => rfl) (h.append hclose fun _ => stops_cons (by decide) _)

end Token

namespace Value

mutual

/-- The tree that the text of the value spells. -/
def tree : Value → Tree
  | .null => .null
  | .bool b => .bool b
  | .number n => .number n.literal
  | .string s => .string (.ofText s)
  | .list items => .list (itemTrees items) .closed
  | .object members => .object (memberTrees members) .closed

def itemTrees : List Value → List Tree
  | [] => []
  | v :: vs => tree v :: itemTrees vs

def memberTrees : List (String × Value) → List (Quoted × Tree)
  | [] => []
  | m :: ms => memberTree m :: memberTrees ms

def memberTree : String × Value → Quoted × Tree
  | (name, value) => (.ofText name, tree value)

end

theorem itemTrees_eq (items : List Value) : itemTrees items = items.map tree := by
  induction items with
  | nil => rfl
  | cons v vs ih => rw [itemTrees, ih, List.map_cons]

theorem memberTree_eq (m : String × Value) : memberTree m = (.ofText m.1, m.2.tree) := by
  cases m
  rfl

theorem memberTrees_eq (members : Members) : memberTrees members = members.map memberTree := by
  induction members with
  | nil => rfl
  | cons m ms ih => rw [memberTrees, ih, List.map_cons]

end Value

theorem Value.itemChars_eq (done : List (List Char)) (items : List Value) :
    itemChars done items = done.reverse ++ items.map chars := by
  induction items generalizing done with
  | nil => simp [itemChars]
  | cons v vs ih => simp [itemChars, ih]

theorem Value.memberChars_eq (done : List (List Char)) (members : Members) :
    memberChars done members = done.reverse ++ members.map pairChars := by
  induction members generalizing done with
  | nil => simp [memberChars]
  | cons m ms ih => simp [memberChars, ih]

theorem utf8_comma (part : List Char) (next : List Char) (parts : List (List Char)) :
    utf8 (commaSeparated (part :: next :: parts)) =
      utf8 part ++ 0x2C :: utf8 (commaSeparated (next :: parts)) := by
  rw [commaSeparated, List.intercalate_cons_cons, utf8_append, utf8_append, List.append_assoc]
  rfl

structure Spells (v : Value) (tokens : List Token) : Prop where
  scans : Token.Scans (utf8 v.chars) tokens
  opens : ∃ token rest, tokens = token :: rest ∧ token ≠ .listClose
  reads : ∀ frames ts, Document.read frames .value (tokens ++ ts) =
    Document.read frames (.separator v.tree) ts

theorem spells_null : Spells .null [.word .null] where
  scans := Token.scans_one rfl fun _ _ => rfl
  opens := ⟨_, _, rfl, nofun⟩
  reads _ _ := rfl

theorem spells_bool (b : Bool) : Spells (.bool b) [.word (if b then .true else .false)] := by
  cases b with
  | false => exact ⟨Token.scans_one rfl fun _ _ => rfl, ⟨_, _, rfl, nofun⟩, fun _ _ => rfl⟩
  | true => exact ⟨Token.scans_one rfl fun _ _ => rfl, ⟨_, _, rfl, nofun⟩, fun _ _ => rfl⟩

theorem spells_number (n : Number) : Spells (.number n) [.number n.literal] where
  scans := by
    obtain ⟨b, octets, htext, hspace, hscan⟩ :=
      Token.scanFrom_spelled (Number.proper_literal n).spelledBy_text
    rw [Value.chars, ← Number.text_literal, htext]
    exact Token.scans_one hspace hscan
  opens := ⟨_, _, rfl, nofun⟩
  reads _ _ := rfl

theorem spells_string (s : String) : Spells (.string s) [.string (.ofText s)] where
  scans := by
    have hquoted := Token.Scans.quoted s Token.scans_nil
    rwa [List.append_nil] at hquoted
  opens := ⟨_, _, rfl, nofun⟩
  reads _ _ := rfl

structure SpellsItems (items : List Value) (tokens : List Token) : Prop where
  scans : Token.Scans (utf8 (commaSeparated (items.map Value.chars))) tokens
  opens : ∃ token rest, tokens = token :: rest ∧ token ≠ .listClose
  reads : ∀ frames done ts,
    Document.read (.list done :: frames) .value (tokens ++ .listClose :: ts) =
      Document.read frames (.separator (.list (done.reverse ++ items.map Value.tree) .closed)) ts

theorem Document.read_listStart {token : Token} (h : token ≠ .listClose) (frames : List Frame)
    (ts : List Token) : read frames .listStart (token :: ts) =
      read (.list [] :: frames) .value (token :: ts) := by
  cases token with
  | listClose => exact absurd rfl h
  | _ => rfl

theorem Document.read_nextItem {token : Token} (h : token ≠ .listClose) (frames : List Frame)
    (done : List Tree) (ts : List Token) : read frames (.nextItem done) (token :: ts) =
      read (.list done :: frames) .value (token :: ts) := by
  cases token with
  | listClose => exact absurd rfl h
  | _ => rfl

namespace Spells
variable {v : Value} {tokens tokens' : List Token}

theorem last_item (h : Spells v tokens) : SpellsItems [v] tokens where
  scans := by simpa [commaSeparated, List.intercalate_singleton] using h.scans
  opens := h.opens
  reads frames done ts := by
    rw [h.reads]
    simp [Document.read, Move.ofToken, Move.separator]

theorem item (h : Spells v tokens) {v' : Value} {vs : List Value}
    (h' : SpellsItems (v' :: vs) tokens') :
    SpellsItems (v :: v' :: vs) (tokens ++ .comma :: tokens') where
  scans := by
    rw [List.map_cons, List.map_cons, utf8_comma]
    exact h.scans.comma h'.scans
  opens := by
    obtain ⟨token, rest, rfl, hne⟩ := h.opens
    exact ⟨token, _, rfl, hne⟩
  reads frames done ts := by
    obtain ⟨token, rest, rfl, hne⟩ := h'.opens
    have hcomma : Document.read (.list done :: frames) (.separator v.tree)
        (.comma :: (token :: rest ++ .listClose :: ts)) =
        Document.read frames (.nextItem (v.tree :: done)) (token :: rest ++ .listClose :: ts) := rfl
    rw [List.append_assoc, h.reads, List.cons_append, hcomma, List.cons_append,
      Document.read_nextItem hne, ← List.cons_append, h'.reads]
    simp

end Spells

theorem exists_spellsItems {v : Value} {vs : List Value}
    (h : ∀ w ∈ v :: vs, ∃ tokens, Spells w tokens) : ∃ tokens, SpellsItems (v :: vs) tokens := by
  induction vs generalizing v with
  | nil =>
    obtain ⟨tokens, hv⟩ := h v List.mem_cons_self
    exact ⟨tokens, hv.last_item⟩
  | cons v' vs ih =>
    obtain ⟨⟨tokens, hv⟩, hrest⟩ := List.forall_mem_cons.mp h
    obtain ⟨tokens', hvs⟩ := ih hrest
    exact ⟨_, hv.item hvs⟩

theorem exists_spells_list {items : List Value} (h : ∀ w ∈ items, ∃ tokens, Spells w tokens) :
    ∃ tokens, Spells (.list items) tokens := by
  cases items with
  | nil => exact ⟨[.listOpen, .listClose], Token.scans_nil.list, ⟨_, _, rfl, nofun⟩, fun _ _ => rfl⟩
  | cons v vs =>
    obtain ⟨tokens, hitems⟩ := exists_spellsItems h
    refine ⟨.listOpen :: (tokens ++ [.listClose]), ?_, ⟨_, _, rfl, nofun⟩, fun frames ts => ?_⟩
    · have hchars : utf8 (Value.list (v :: vs)).chars =
          [0x5B] ++ (utf8 (commaSeparated ((v :: vs).map Value.chars)) ++ [0x5D]) := by
        rw [Value.chars, Value.itemChars_eq, utf8_cons, utf8_append]
        rfl
      rw [hchars]
      exact hitems.scans.list
    · obtain ⟨token, rest, rfl, hne⟩ := hitems.opens
      have hopen : Document.read frames .value (.listOpen :: (token :: rest ++ .listClose :: ts)) =
          Document.read frames .listStart (token :: rest ++ .listClose :: ts) := rfl
      rw [List.cons_append, List.append_assoc, List.singleton_append, hopen, List.cons_append,
        Document.read_listStart hne, ← List.cons_append, hitems.reads, Value.tree,
        Value.itemTrees_eq]
      rfl

structure SpellsMember (m : String × Value) (tokens : List Token) : Prop where
  scans : Token.Scans (utf8 (Value.pairChars m)) tokens
  opens : ∃ q rest, tokens = .string q :: rest
  reads : ∀ frames done ts, Document.read frames (.nextName done) (tokens ++ ts) =
    Document.read (.object done (.ofText m.1) :: frames) (.separator m.2.tree) ts

theorem Spells.member {v : Value} {tokens : List Token} (h : Spells v tokens) (name : String) :
    SpellsMember (name, v) (.string (.ofText name) :: .colon :: tokens) where
  scans := by
    have hcolon : Token.Scans ([0x3A] ++ utf8 v.chars) (.colon :: tokens) :=
      .cons rfl (fun _ => rfl) h.scans
    rw [Value.pairChars, utf8_append]
    exact hcolon.quoted name
  opens := ⟨_, _, rfl⟩
  reads frames done ts := h.reads (.object done (.ofText name) :: frames) ts

structure SpellsMembers (members : Members) (tokens : List Token) : Prop where
  scans : Token.Scans (utf8 (commaSeparated (members.map Value.pairChars))) tokens
  opens : ∃ q rest, tokens = .string q :: rest
  reads : ∀ frames done ts,
    Document.read frames (.nextName done) (tokens ++ .objectClose :: ts) =
      Document.read frames
        (.separator (.object (done.reverse ++ members.map Value.memberTree) .closed)) ts

namespace SpellsMember
variable {m m' : String × Value} {members : Members} {tokens tokens' : List Token}

theorem last_member (h : SpellsMember m tokens) : SpellsMembers [m] tokens where
  scans := by simpa [commaSeparated, List.intercalate_singleton] using h.scans
  opens := h.opens
  reads frames done ts := by
    rw [h.reads]
    simp [Document.read, Move.ofToken, Move.separator, Value.memberTree_eq]

theorem before (h : SpellsMember m tokens) (h' : SpellsMembers (m' :: members) tokens') :
    SpellsMembers (m :: m' :: members) (tokens ++ .comma :: tokens') where
  scans := by
    rw [List.map_cons, List.map_cons, utf8_comma]
    exact h.scans.comma h'.scans
  opens := by
    obtain ⟨q, rest, rfl⟩ := h.opens
    exact ⟨q, _, rfl⟩
  reads frames done ts := by
    have hcomma : Document.read (.object done (.ofText m.1) :: frames) (.separator m.2.tree)
        (.comma :: (tokens' ++ .objectClose :: ts)) =
        Document.read frames (.nextName (Value.memberTree m :: done))
          (tokens' ++ .objectClose :: ts) := by
      rw [Value.memberTree_eq]
      rfl
    rw [List.append_assoc, h.reads, List.cons_append, hcomma, h'.reads]
    simp

end SpellsMember

theorem exists_spellsMembers {m : String × Value} {members : Members}
    (h : ∀ n ∈ m :: members, ∃ tokens, Spells n.2 tokens) :
    ∃ tokens, SpellsMembers (m :: members) tokens := by
  induction members generalizing m with
  | nil =>
    obtain ⟨tokens, hm⟩ := h m List.mem_cons_self
    exact ⟨_, (hm.member m.1).last_member⟩
  | cons m' members ih =>
    obtain ⟨⟨tokens, hm⟩, hrest⟩ := List.forall_mem_cons.mp h
    obtain ⟨tokens', hmembers⟩ := ih hrest
    exact ⟨_, (hm.member m.1).before hmembers⟩

theorem exists_spells_object {members : Members} (h : ∀ m ∈ members, ∃ tokens, Spells m.2 tokens) :
    ∃ tokens, Spells (.object members) tokens := by
  cases members with
  | nil =>
    exact ⟨[.objectOpen, .objectClose], Token.scans_nil.object, ⟨_, _, rfl, nofun⟩, fun _ _ => rfl⟩
  | cons m members =>
    obtain ⟨tokens, hmembers⟩ := exists_spellsMembers h
    refine ⟨.objectOpen :: (tokens ++ [.objectClose]), ?_, ⟨_, _, rfl, nofun⟩, fun frames ts => ?_⟩
    · have hchars : utf8 (Value.object (m :: members)).chars = [0x7B] ++
          (utf8 (commaSeparated ((m :: members).map Value.pairChars)) ++ [0x7D]) := by
        rw [Value.chars, Value.memberChars_eq, utf8_cons, utf8_append]
        rfl
      rw [hchars]
      exact hmembers.scans.object
    · have hreads := hmembers.reads frames [] ts
      obtain ⟨q, rest, rfl⟩ := hmembers.opens
      have hopen : Document.read frames .value
          (.objectOpen :: (.string q :: rest ++ .objectClose :: ts)) =
        Document.read frames (.nextName []) (.string q :: rest ++ .objectClose :: ts) := rfl
      rw [List.cons_append, List.append_assoc, List.singleton_append, hopen, hreads, Value.tree,
        Value.memberTrees_eq]
      rfl

namespace Value

mutual

theorem exists_spells : (v : Value) → ∃ tokens, Spells v tokens
  | .null => ⟨_, spells_null⟩
  | .bool b => ⟨_, spells_bool b⟩
  | .number n => ⟨_, spells_number n⟩
  | .string s => ⟨_, spells_string s⟩
  | .list items => exists_spells_list (exists_spells_items items)
  | .object members => exists_spells_object (exists_spells_members members)

theorem exists_spells_items : (items : List Value) → ∀ v ∈ items, ∃ tokens, Spells v tokens
  | [] => fun _ h => absurd h List.not_mem_nil
  | v :: vs => List.forall_mem_cons.mpr ⟨exists_spells v, exists_spells_items vs⟩

theorem exists_spells_members : (members : List (String × Value)) →
    ∀ m ∈ members, ∃ tokens, Spells m.2 tokens
  | [] => fun _ h => absurd h List.not_mem_nil
  | (_, v) :: ms => List.forall_mem_cons.mpr ⟨exists_spells v, exists_spells_members ms⟩

end

/-- The text of a value spells its tree, and nothing more. -/
theorem document_chars (v : Value) : Document.ofBytes (utf8 v.chars) = ⟨v.tree, false⟩ := by
  obtain ⟨tokens, hspells⟩ := v.exists_spells
  have hreads := hspells.reads [] []
  rw [List.append_nil] at hreads
  rw [Document.ofBytes, hspells.scans.scan_eq, Document.ofTokens, hreads]
  rfl

theorem document_text (v : Value) :
    Document.ofBytes v.text.toUTF8.data.toList = ⟨v.tree, false⟩ := by
  rw [text, toUTF8_ofList, document_chars]

/-- A value without numbers whose names are distinct, in which so many containers may enclose each
other. -/
inductive NumberFree : Nat → Value → Prop
  | null {room : Nat} : NumberFree room .null
  | bool {room : Nat} (b : Bool) : NumberFree room (.bool b)
  | string {room : Nat} (s : String) : NumberFree room (.string s)
  | list {room : Nat} {items : List Value} :
      (∀ v ∈ items, NumberFree room v) → NumberFree (room + 1) (.list items)
  | object {room : Nat} {members : Members} : members.names.Nodup →
      (∀ m ∈ members, NumberFree room m.2) → NumberFree (room + 1) (.object members)

theorem itemsWithin_itemTrees {room : Nat} {items : List Value}
    (h : ∀ v ∈ items, v.tree.valueWithin room = .ok v) (done : List Value) :
    Tree.itemsWithin room done (items.map tree) = .ok (done.reverse ++ items) := by
  induction items generalizing done with
  | nil => simp [Tree.itemsWithin]
  | cons v vs ih =>
    obtain ⟨hv, hvs⟩ := List.forall_mem_cons.mp h
    rw [List.map_cons, Tree.itemsWithin, hv]
    simp [ih hvs]

end Value

theorem Members.insert_new {done rest : Members} {m : String × Value}
    (h : (done ++ m :: rest).names.Nodup) : done.insert m.1 m.2 = done ++ [m] := by
  refine insert_of_not_mem m.2 fun hm => ?_
  simp only [names, List.map_append, List.map_cons] at h hm
  exact (List.nodup_append.mp h).2.2 _ hm _ List.mem_cons_self rfl

namespace Value

theorem membersWithin_memberTrees {room : Nat} {members : Members}
    (h : ∀ m ∈ members, m.2.tree.valueWithin room = .ok m.2) (done : Members)
    (once : (done ++ members).names.Nodup) :
    Tree.membersWithin room done (members.map memberTree) = .ok (done ++ members) := by
  induction members generalizing done with
  | nil => simp [Tree.membersWithin]
  | cons m ms ih =>
    obtain ⟨hm, hms⟩ := List.forall_mem_cons.mp h
    have hrest : (done ++ [m] ++ ms).names.Nodup := by simpa using once
    simp [Tree.membersWithin, memberTree_eq, Tree.memberWithin, Quoted.text_ofText, hm,
      Members.insert_new once, ih hms _ hrest]

theorem NumberFree.valueWithin_tree {room : Nat} {v : Value} (h : v.NumberFree room) :
    v.tree.valueWithin room = .ok v := by
  induction h with
  | null => rfl
  | bool b => rfl
  | string s =>
    rw [tree, Tree.valueWithin, Quoted.text_ofText]
    rfl
  | list _ ih =>
    rw [tree, itemTrees_eq, Tree.valueWithin, itemsWithin_itemTrees ih]
    rfl
  | object once _ ih =>
    rw [tree, memberTrees_eq, Tree.valueWithin, membersWithin_memberTrees ih [] once]
    rfl

theorem NumberFree.read_text {v : Value} (h : v.NumberFree maxDepth) :
    Value.read v.text = .ok v := by
  rw [Value.read, Value.ofBytes, document_text, Document.value, Tree.value, h.valueWithin_tree]
  rfl

end Value
end RowQuery.Json
