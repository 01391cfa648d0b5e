import Mathlib
import RowQuery.Proofs.FirstSeen
import RowQuery.Proofs.Precedence
import RowQuery.Proofs.ReadingBack
import RowQuery.Proofs.RecordForms

/-!
# Names in a settings file that are no settings

A name at the top of a settings file that is none of its four fields is reported, and all such names
are reported at once, each where it first came. Names within a section are not looked at: what
stands under one that is no setting is skipped without a warning, so a misspelled setting of a
section leaves its default in place and goes unnoticed.
-/
namespace RowQuery.Settings
open Json

namespace File

def fieldNames : List String := ["server", "llm", "cors", "debug"]

theorem names_of_fields : form.fields.map Field.name = fieldNames := rfl

def sections : List (Record File) := [server, llm, cors]

def foreign (top : List String) : List String := top.filter (· ∉ fieldNames)

variable {room : Nat} {seen seen' : List String} {f f' : File} {m : Quoted × Tree}
  {members : List (Quoted × Tree)} {t : Tree} {top : List String}

theorem keeps_setting {α : Type} (name : String) (d : Decoder α)
    (set : Option α → Layer → Layer) : (setting name d set).Keeps unknown :=
  Field.keeps_ofDecoder fun _ _ => rfl

theorem keeps_section : ∀ r ∈ sections, r.Keeps unknown := by
  rw [sections, List.forall_mem_cons, List.forall_mem_cons, List.forall_mem_singleton]
  refine ⟨Record.keeps_strict ?_, Record.keeps_strict ?_, Record.keeps_strict ?_⟩
  · simp [keeps_setting]
  · simp [keeps_setting]
  · exact List.forall_mem_singleton.mpr (Field.keeps_ofDecoder fun _ _ => rfl)

theorem other_section : ∀ r ∈ sections, r.other = Record.skipOther := by
  simp [sections, server, llm, cors, Record.strict]

theorem read_sectionField {name : String} {r : Record File} (ht : t ≠ .null) :
    (sectionField name r).read room t f = r.decode f room t := by
  cases t with
  | null => exact absurd rfl ht
  | _ => rfl

theorem keeps_sectionField {name : String} {r : Record File} (h : r.Keeps unknown) :
    (sectionField name r).Keeps unknown := by
  intro room t f f' hread
  by_cases ht : t = .null
  · subst ht
    cases hread
    rfl
  · rw [read_sectionField ht] at hread
    exact h.decode hread

theorem keeps_field : ∀ field ∈ form.fields, field.Keeps unknown := by
  have hsection : ∀ name, ∀ r ∈ sections, (sectionField name r).Keeps unknown := fun name r hr =>
    keeps_sectionField (keeps_section r hr)
  simp only [form, List.forall_mem_cons]
  exact ⟨hsection _ server (by simp [sections]), hsection _ llm (by simp [sections]),
    hsection _ cors (by simp [sections]), keeps_setting _ _ _, List.forall_mem_nil _⟩

theorem find?_eq_none_iff {name : String} :
    form.fields.find? (·.name == name) = none ↔ name ∉ fieldNames := by
  simp only [List.find?_eq_none, beq_iff_eq, ← names_of_fields, List.mem_map, not_exists, not_and]

theorem keepUnknown_eq_ok {name : String} (h : keepUnknown room name t f = .ok f') :
    ∃ value, f'.unknown = f.unknown.insert name value := by
  rw [keepUnknown] at h
  cases hvalue : Decoder.any room t with
  | error e => simp [hvalue, bind, Except.bind] at h
  | ok value =>
    simp only [hvalue, bind, Except.bind, pure, Except.pure, Except.ok.injEq] at h
    exact ⟨value, by rw [← h]⟩

def Noted (top : List String) (f : File) : Prop := FirstSeen (foreign top) f.unknown.names

theorem noted_empty : Noted [] empty := ⟨List.nodup_nil, fun _ => Iff.rfl, .nil⟩

theorem foreign_append (top : List String) (name : String) :
    foreign (top ++ [name]) =
      if name ∈ fieldNames then foreign top else foreign top ++ [name] := by
  by_cases h : name ∈ fieldNames <;> simp [foreign, h]

theorem noted_readMember (h : Noted top f)
    (hread : form.readMember room seen f m = .ok (seen', f')) :
    ∃ name, m.1.text = .ok name ∧ Noted (top ++ [name]) f' := by
  cases hname : m.1.text with
  | error b => exact absurd hread (Record.readMember_of_break hname)
  | ok name =>
    refine ⟨name, rfl, ?_⟩
    rw [Noted, foreign_append]
    cases hfind : form.fields.find? (·.name == name) with
    | some field =>
      have hfield := List.mem_of_find?_eq_some hfind
      have hknown : name ∈ fieldNames := by
        by_contra hnot
        exact nomatch hfind.symm.trans (find?_eq_none_iff.mpr hnot)
      obtain ⟨-, -, hvalue⟩ := (Record.readMember_of_field hname hfind).mp hread
      rw [if_pos hknown, keeps_field field hfield _ _ _ _ hvalue]
      exact h
    | none =>
      obtain ⟨-, hother⟩ := (Record.readMember_of_other hname hfind).mp hread
      obtain ⟨value, hvalue⟩ := keepUnknown_eq_ok hother
      rw [if_neg (find?_eq_none_iff.mp hfind), hvalue]
      -- A foreign name that came before keeps its place.
      by_cases hmem : name ∈ f.unknown.names
      · rw [Members.names_insert_of_mem value hmem]
        exact h.append_seen ((h.mem_iff name).mp hmem)
      · rw [Members.names_insert_of_not_mem value hmem]
        exact h.append_new fun hseen => hmem ((h.mem_iff name).mpr hseen)

theorem noted_readMembers (h : Noted top f)
    (hread : form.readMembers room seen f members = .ok (seen', f')) :
    ∃ added, members.map (·.1.text) = added.map .ok ∧ Noted (top ++ added) f' := by
  induction members generalizing top seen f with
  | nil =>
    cases hread
    exact ⟨[], rfl, by rwa [List.append_nil]⟩
  | cons m members ih =>
    obtain ⟨now, f₁, hfirst, hrest⟩ := Record.readMembers_cons_eq_ok_iff.mp hread
    obtain ⟨name, hname, hnoted⟩ := noted_readMember h hfirst
    obtain ⟨added, hadded, hall⟩ := ih hnoted hrest
    exact ⟨name :: added, by rw [List.map_cons, hname, hadded, List.map_cons], by simpa using hall⟩

def TopNames (content : String) (top : List String) : Prop :=
  ∃ members, (Document.ofBytes content.toUTF8.data.toList).tree = .object members .closed ∧
    members.map (·.1.text) = top.map .ok

theorem ofBytes_of_read {content : String} (h : read content = .ok f) :
    (form.decode empty).ofBytes content.toUTF8 = .ok f := by
  unfold read at h
  cases hd : (form.decode empty).ofBytes content.toUTF8 with
  | error e =>
    rw [hd] at h
    cases h
  | ok g =>
    rw [hd] at h
    cases h
    rfl

theorem noted_of_read {content : String} (h : read content = .ok f) :
    ∃ top, TopNames content top ∧ Noted top f := by
  obtain ⟨hdecode, -⟩ := Decoder.ofBytes_eq_ok_iff.mp (ofBytes_of_read h)
  obtain ⟨inner, -, ⟨members, seen, htree, hmembers, -⟩ | ⟨ts, ending, -, hlist, -⟩⟩ :=
    Record.decode_eq_ok_iff.mp hdecode
  · obtain ⟨added, hadded, hnoted⟩ := noted_readMembers noted_empty hmembers
    exact ⟨added, ⟨members, htree, hadded⟩, hnoted⟩
  · cases hlist

theorem unknownFields_mem_warnings_iff {names : List String} :
    .unknownFields names ∈ f.warnings ↔ f.unknown ≠ [] ∧ names = f.unknown.names := by
  by_cases h : f.unknown = [] <;> simp [warnings, h]

theorem Noted.warned_iff (h : Noted top f) :
    (∃ names, .unknownFields names ∈ f.warnings) ↔ ∃ name ∈ top, name ∉ fieldNames := by
  simp only [unknownFields_mem_warnings_iff, exists_and_left, exists_eq, and_true]
  have hnames : f.unknown ≠ [] ↔ ∃ name, name ∈ f.unknown.names := by
    rw [← List.isEmpty_eq_false_iff_exists_mem, List.isEmpty_eq_false_iff, ne_eq, ne_eq,
      Members.names, List.map_eq_nil_iff]
  rw [hnames]
  refine exists_congr fun name => ?_
  rw [h.mem_iff, foreign, List.mem_filter, decide_eq_true_iff]

end File

variable {files : String → Option Entry} {path : Option String} {content : String}

theorem findFile_of_text (hfile : files (path.getD fileName) = some (.text content)) :
    findFile files path = (File.read content).mapError (.invalid (path.getD fileName)) := by
  cases path with
  | some path => simp_all [findFile, readEntry]
  | none => simp_all [findFile, readEntry]

theorem unknownFields_mem_load_iff {file : File} (command : Layer) (key : Option String)
    (hfile : findFile files path = .ok file) {names : List String} :
    .unknownFields names ∈ (load files path command key).2 ↔
      .unknownFields names ∈ file.warnings := by
  cases hsources : ofSources command file key with
  | error e => simp only [load, hfile, hsources]
  | ok s =>
    have hsettings : .unknownFields names ∉ s.warnings := by
      rw [Settings.warnings]
      split <;> simp
    simp [load, hfile, hsources, hsettings]

/-- A settings file that can be read gives a warning exactly when a name at its top is no field, and
the warning has all of these names. A section is what it would be without the names that are no
settings, so those do not count. -/
theorem foreign_names_reported (command : Layer) (key : Option String)
    (hfile : files (path.getD fileName) = some (.text content))
    (hread : ∀ fault, (load files path command key).1 ≠
      .error (.invalid (path.getD fileName) fault)) :
    ∃ top, File.TopNames content top ∧
      ((∃ names, .unknownFields names ∈ (load files path command key).2) ↔
        ∃ name ∈ top, name ∉ File.fieldNames) ∧
      (∀ names, .unknownFields names ∈ (load files path command key).2 →
        FirstSeen (File.foreign top) names) ∧
      ∀ r ∈ File.sections, ∀ room f f' members,
        r.decode f (room + 1) (.object members .closed) = .ok f' →
          r.decode f (room + 1) (.object (members.filter r.knows) .closed) = .ok f' := by
  have hfind := findFile_of_text hfile
  cases hcontent : File.read content with
  | error fault =>
    rw [hcontent] at hfind
    refine absurd ?_ (hread fault)
    rw [load, hfind]
    rfl
  | ok file =>
    rw [hcontent] at hfind
    obtain ⟨top, htop, hnoted⟩ := File.noted_of_read hcontent
    simp only [unknownFields_mem_load_iff command key hfind]
    refine ⟨top, htop, hnoted.warned_iff, fun names hnames => ?_, ?_⟩
    · obtain ⟨-, rfl⟩ := File.unknownFields_mem_warnings_iff.mp hnames
      exact hnoted
    · intro r hr room f f' members hdecode
      exact ((Record.decode_object_iff_known (File.other_section r hr)).mp hdecode).2

theorem foreign_names_reported_beside_fields :
    let content := "\x7b\"sever\":\x7b\x7d,\"debug\":true,\"x\":1,\"sever\":2\x7d"
    let s : Settings :=
      ⟨defaultHost, 8000, defaultBaseUrl, defaultModel, ⟨"k"⟩, 30, 3, .fail, ["*"], true⟩
    load (onlyFile content) none .empty (some "k") =
        (.ok s, [.unknownFields ["sever", "x"]]) ∧
      ∃ top, File.TopNames content top ∧ (∃ name ∈ top, name ∉ File.fieldNames) ∧
        FirstSeen (File.foreign top) ["sever", "x"] := by
  intro content s
  have hload : load (onlyFile content) none .empty (some "k") =
      (.ok s, [.unknownFields ["sever", "x"]]) := by cbv
  have hfile : onlyFile content ((none : Option String).getD fileName) = some (.text content) := by
    rw [onlyFile, Option.getD_none, if_pos rfl]
  obtain ⟨top, htop, hwarned, hnames, -⟩ := foreign_names_reported .empty (some "k") hfile
    (by simp [hload])
  rw [hload] at hwarned hnames
  exact ⟨hload, top, htop, hwarned.mp ⟨_, List.mem_singleton_self _⟩,
    hnames _ (List.mem_singleton_self _)⟩

def SectionNames (content name : String) (names : List String) : Prop :=
  ∃ members inner, (Document.ofBytes content.toUTF8.data.toList).tree = .object members .closed ∧
    Http.QueryBody.named name members = [.object inner .closed] ∧
    inner.map (·.1.text) = names.map .ok

/-- A misspelled host is taken for granted, and the default one stays. -/
theorem misspelled_host_unnoticed :
    let content := "\x7b\"server\":\x7b\"hots\":\"0.0.0.0\"\x7d\x7d"
    let s : Settings :=
      ⟨"127.0.0.1", 8000, defaultBaseUrl, defaultModel, ⟨"k"⟩, 30, 3, .fail, ["*"], false⟩
    load (onlyFile content) none .empty (some "k") = (.ok s, []) ∧
      SectionNames content "server" ["hots"] ∧
      "hots" ∉ File.server.fields.map Field.name := by
  let v : Value := .object [("server", .object [("hots", .string "0.0.0.0")])]
  let inner : List (Quoted × Tree) := [(.ofText "hots", .string (.ofText "0.0.0.0"))]
  have htext : "\x7b\"server\":\x7b\"hots\":\"0.0.0.0\"\x7d\x7d" = v.text := by cbv
  have htree : v.tree = .object [(.ofText "server", .object inner .closed)] .closed := rfl
  refine ⟨by cbv, ⟨[(.ofText "server", .object inner .closed)], inner, ?_, ?_, ?_⟩, by decide⟩
  · rw [htext, Value.document_text, htree]
  · simp [Http.QueryBody.named, Quoted.text_ofText, Except.toOption]
  · simp [inner, Quoted.text_ofText]

end RowQuery.Settings
