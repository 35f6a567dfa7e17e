import Admission.Proofs.Dialects

/-!
Rule files that cannot be read. Main statement: the rules of a text are read exactly when no part of
it is malformed, be it a document, the list of rules or a single rule.
-/

namespace Admission

namespace Tree

variable {α : Type} {read : Tree → Option α}

theorem mapM_eq_none {trees : List Tree} :
    trees.mapM read = none ↔ ∃ tree ∈ trees, read tree = none := by
  induction trees with
  | nil => simp
  | cons tree trees ih =>
    rw [List.mapM_cons, List.exists_mem_cons_iff, ← ih]
    cases read tree <;> cases trees.mapM read <;> simp

theorem optional_eq_none {value : Option Tree} : optional read value = none ↔
    ∃ tree, value = some tree ∧ tree ≠ .null ∧ read tree = none := by
  cases value with
  | none => simp [optional]
  | some tree => cases tree <;> simp [optional]

theorem listOf?_eq_none {form : RecordForm} {tree : Tree} : listOf? form read tree = none ↔
    tree.items? form = none ∨ ∃ items, tree.items? form = some items ∧
      ∃ item ∈ items, read item = none := by
  unfold listOf?
  cases tree.items? form <;> simp [mapM_eq_none]

/-- A record with one field has one value or is none. -/
theorem fields_singleton (form : RecordForm) (names : FieldNames) (tree : Tree) :
    tree.fields form [names] = none ∨ ∃ value, tree.fields form [names] = some [value] := by
  have hfrom (entries : List (Tree × Tree)) : fieldsFrom entries 0 [names] = none ∨
      ∃ value, fieldsFrom entries 0 [names] = some [value] := by
    simp only [fieldsFrom]
    cases field? entries names 0 <;> simp
  unfold fields
  split
  · split_ifs
    · exact hfrom _
    · exact .inl rfl
  · next items _ =>
    split_ifs with h
    · simp only [Bool.and_eq_true, decide_eq_true_iff, List.length_singleton] at h
      cases items with
      | nil => exact .inr ⟨none, rfl⟩
      | cons item items =>
        obtain rfl : items = [] := by simpa using h.2
        exact .inr ⟨some item, rfl⟩
    · exact .inl rfl
  · split_ifs
    · exact .inr ⟨none, rfl⟩
    · exact .inl rfl
  · exact .inl rfl

/-- What should be a record with a list under a name is none, has no list there, or has an item in
it that cannot be read. -/
inductive HasBadList (form : RecordForm) (name : String) (read : Tree → Option α) (tree : Tree) :
    Prop
  | record (h : tree.fields form [[name]] = none)
  | list {value : Tree} (h : tree.fields form [[name]] = some [some value]) (hne : value ≠ .null)
    (hbad : value.items? form = none)
  | item {value item : Tree} {items : List Tree}
    (h : tree.fields form [[name]] = some [some value]) (hne : value ≠ .null)
    (hitems : value.items? form = some items) (hmem : item ∈ items) (hbad : read item = none)

def namedList? (form : RecordForm) (name : String) (read : Tree → Option α) (tree : Tree) :
    Option (Option (List α)) :=
  match tree.fields form [[name]] with
  | some [value] => optional (listOf? form read) value
  | _ => none

theorem namedList?_eq_none {form : RecordForm} {name : String} {tree : Tree} :
    namedList? form name read tree = none ↔ tree.HasBadList form name read := by
  unfold namedList?
  constructor
  · intro h
    obtain hnone | ⟨value, hvalue⟩ := fields_singleton form [name] tree
    · exact .record hnone
    · rw [hvalue] at h
      obtain ⟨value, rfl, hne, hlist⟩ := optional_eq_none.1 h
      obtain hbad | ⟨items, hitems, item, hmem, hbad⟩ := listOf?_eq_none.1 hlist
      · exact .list hvalue hne hbad
      · exact .item hvalue hne hitems hmem hbad
  · intro h
    cases h with
    | record h => rw [h]
    | list h hne hbad =>
      rw [h]
      exact optional_eq_none.2 ⟨_, rfl, hne, listOf?_eq_none.2 (.inl hbad)⟩
    | item h hne hitems hmem hbad =>
      rw [h]
      exact optional_eq_none.2
        ⟨_, rfl, hne, listOf?_eq_none.2 (.inr ⟨_, hitems, _, hmem, hbad⟩)⟩

end Tree

namespace Export

open Admission.Tree

/-- Some part of the text of a rule file is not what it should be: the text as a whole, a document
of it, the list of rules, or any rule in the list. -/
inductive Dialect.Malformed : Dialect → String → Prop
  | text {s : String} (h : Json.read s = none) : Malformed .interface s
  | rules {s : String} {tree : Tree} (h : Json.read s = some tree)
    (hbad : tree.HasBadList interfaceForm "rules" interfaceRule?) : Malformed .interface s
  | document {s : String} {document : Yaml.Document} (h : document ∈ Yaml.documents s)
    (hbad : document.soundValue? = none) : Malformed .resources s
  | resource {s : String} {document : Yaml.Document} {tree : Tree}
    (h : document ∈ Yaml.documents s) (htree : document.soundValue? = some tree)
    (hne : tree ≠ .null) (hbad : tree.fields resourceForm [["spec"]] = none) :
    Malformed .resources s
  | specification {s : String} {document : Yaml.Document} {tree specification : Tree}
    (h : document ∈ Yaml.documents s) (htree : document.soundValue? = some tree)
    (hne : tree ≠ .null)
    (hfield : tree.fields resourceForm [["spec"]] = some [some specification])
    (hspecification : specification ≠ .null)
    (hbad : specification.HasBadList resourceForm "rules" resourceRule?) : Malformed .resources s

theorem readInterface_malformed {s : String} :
    ¬ Succeeds (readInterface s) ↔ Dialect.Malformed .interface s := by
  have hfails : ¬ Succeeds (readInterface s) ↔ (Json.read s).bind interface? = none := by
    unfold readInterface
    cases (Json.read s).bind interface? <;> simp
  rw [hfails]
  constructor
  · intro h
    cases htree : Json.read s with
    | none => exact .text htree
    | some tree =>
      rw [htree] at h
      exact .rules htree (namedList?_eq_none.1 h)
  · rintro (h | ⟨h, hbad⟩)
    · rw [h]
      rfl
    · rw [h]
      exact namedList?_eq_none.2 hbad

/-- A resource is broken if it is no record, or has an unreadable list in its specification. -/
theorem resource?_eq_none {tree : Tree} : resource? tree = none ↔
    tree.fields resourceForm [["spec"]] = none ∨
      ∃ specification, tree.fields resourceForm [["spec"]] = some [some specification] ∧
        specification ≠ .null ∧ specification.HasBadList resourceForm "rules" resourceRule? := by
  have hread : resource?.specification? = namedList? resourceForm "rules" resourceRule? := rfl
  unfold resource?
  obtain hnone | ⟨value, hvalue⟩ := fields_singleton resourceForm ["spec"] tree
  · rw [hnone]
    simp
  · rw [hvalue]
    simp only [Option.map_eq_none_iff, optional_eq_none, hread, namedList?_eq_none]
    simp

theorem broken_iff {document : Yaml.Document} : Document.ofTree document.soundValue? = .broken ↔
    document.soundValue? = none ∨
      ∃ tree, document.soundValue? = some tree ∧ tree ≠ .null ∧ resource? tree = none := by
  cases document.soundValue? with
  | none => simp [Document.ofTree]
  | some tree =>
    unfold Document.ofTree
    split
    · contradiction
    · next heq => simp_all
    · next found hne heq =>
      cases heq
      cases hread : resource? tree <;> simp_all

theorem readResources_malformed {s : String} :
    ¬ Succeeds (readResources s) ↔ Dialect.Malformed .resources s := by
  have hfails : ¬ Succeeds (readResources s) ↔
      ∃ document ∈ Yaml.documents s, Document.ofTree document.soundValue? = .broken := by
    rw [← List.mem_map]
    change ¬ Succeeds (Dialect.resources.read s) ↔ .broken ∈ documentsIn s
    by_cases hbroken : .broken ∈ documentsIn s
    · obtain ⟨front, back, hsplit, hfront⟩ := List.eq_append_cons_of_mem hbroken
      rw [Dialect.read_resources_eq_error hsplit hfront]
      exact iff_of_true (not_succeeds_error _) hbroken
    · rw [Dialect.read_resources_eq_ok hbroken]
      exact iff_of_false (not_not.2 (succeeds_ok _)) hbroken
  rw [hfails]
  simp only [broken_iff, resource?_eq_none]
  constructor
  · rintro ⟨document, hmem, hbad | ⟨tree, htree, hne, hbad | ⟨specification, hfield, hs, hbad⟩⟩⟩
    · exact .document hmem hbad
    · exact .resource hmem htree hne hbad
    · exact .specification hmem htree hne hfield hs hbad
  · rintro (_ | _ | ⟨hmem, hbad⟩ | ⟨hmem, htree, hne, hbad⟩ | ⟨hmem, htree, hne, hfield, hs, hbad⟩)
    · exact ⟨_, hmem, .inl hbad⟩
    · exact ⟨_, hmem, .inr ⟨_, htree, hne, .inl hbad⟩⟩
    · exact ⟨_, hmem, .inr ⟨_, htree, hne, .inr ⟨_, hfield, hs, hbad⟩⟩⟩

/-- Rules are read from a text exactly when no part of it is malformed. -/
theorem Dialect.succeeds_read_iff {dialect : Dialect} {s : String} :
    Succeeds (dialect.read s) ↔ ¬ dialect.Malformed s := by
  cases dialect
  · rw [← readInterface_malformed, not_not]
    rfl
  · rw [← readResources_malformed, not_not]
    rfl

end Export
end Admission
