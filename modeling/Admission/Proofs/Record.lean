import Admission.Tree.Record
import Mathlib.Data.List.Forall2
import Mathlib.Data.List.Nodup

/-!
Records written as objects. Main statement: an object that gives fields of a record under their
names, each once and none that has no value, is read as these values; and a list written item by
item is read as its items, if that is so for each of them.
-/

namespace Admission.Tree

/-- The object with those of the named fields that have a value. -/
def ofFields (given : List (String × Option Tree)) : Tree :=
  object (given.filterMap fun field => field.2.map fun value => (field.1, value))

section

variable {given : List (String × Option Tree)} {name : String} {value : Option Tree}

def fieldEntries (given : List (String × Option Tree)) : List (Tree × Tree) :=
  (given.filterMap fun field => field.2.map fun value => (field.1, value)).map
    fun e => (text e.1, e.2)

theorem fieldEntries_cons_some (given : List (String × Option Tree)) (name : String)
    (tree : Tree) : fieldEntries ((name, some tree) :: given) =
      (text name, tree) :: fieldEntries given := rfl

theorem addresses_text {s : String} {position : Nat} :
    (text s).addresses [name] position = true ↔ s = name := by
  simp [addresses]

theorem filter_fieldEntries_of_not_mem (h : name ∉ given.map Prod.fst) (position : Nat) :
    (fieldEntries given).filter (fun e => e.1.addresses [name] position) = [] := by
  rw [List.filter_eq_nil_iff]
  intro entry hentry haddressed
  obtain ⟨⟨s, tree⟩, hgiven, rfl⟩ := List.mem_map.1 hentry
  obtain ⟨field, hfield, hpair⟩ := List.mem_filterMap.1 hgiven
  obtain ⟨_, -, heq⟩ := Option.map_eq_some_iff.1 hpair
  have hname : field.1 = name := (congrArg Prod.fst heq).trans (addresses_text.1 haddressed)
  exact h (hname ▸ List.mem_map_of_mem hfield)

theorem filter_fieldEntries_of_mem (hnames : (given.map Prod.fst).Nodup)
    (h : (name, value) ∈ given) (position : Nat) :
    (fieldEntries given).filter (fun e => e.1.addresses [name] position) =
      (value.map fun tree => (text name, tree)).toList := by
  induction given with
  | nil => cases h
  | cons field rest ih =>
    obtain ⟨s, found⟩ := field
    rw [List.map_cons, List.nodup_cons] at hnames
    obtain ⟨hfresh, hrest⟩ := hnames
    obtain heq | hmem := List.mem_cons.1 h
    · cases heq
      have hnone := filter_fieldEntries_of_not_mem hfresh position
      cases value with
      | none => exact hnone
      | some tree =>
        rw [fieldEntries_cons_some, List.filter_cons_of_pos (by exact addresses_text.2 rfl), hnone]
        rfl
    · have hother : s ≠ name := by
        rintro rfl
        exact hfresh (List.mem_map.2 ⟨_, hmem, rfl⟩)
      cases found with
      | none => exact ih hrest hmem
      | some tree =>
        rw [fieldEntries_cons_some, List.filter_cons_of_neg (by exact mt addresses_text.1 hother)]
        exact ih hrest hmem

theorem field?_fieldEntries (hnames : (given.map Prod.fst).Nodup) (h : (name, value) ∈ given)
    (position : Nat) : field? (fieldEntries given) [name] position = some value := by
  unfold field?
  rw [filter_fieldEntries_of_mem hnames h]
  cases value <;> rfl

/-- Some of the fields, in any order, are read as their values. -/
theorem fieldsFrom_fieldEntries (hnames : (given.map Prod.fst).Nodup)
    {asked : List (String × Option Tree)} (h : ∀ field ∈ asked, field ∈ given) (position : Nat) :
    fieldsFrom (fieldEntries given) position (asked.map fun field => [field.1]) =
      some (asked.map Prod.snd) := by
  induction asked generalizing position with
  | nil => rfl
  | cons field rest ih =>
    rw [List.forall_mem_cons] at h
    have hfield := field?_fieldEntries hnames h.1 position
    rw [List.map_cons, fieldsFrom, hfield, ih h.2]
    rfl

/-- Fields with different names are read as they were written, in whatever order they are asked for
and whatever else may stand for a record. -/
theorem fields_ofFields_of_mem (hnames : (given.map Prod.fst).Nodup)
    {asked : List (String × Option Tree)} (h : ∀ field ∈ asked, field ∈ given)
    (form : RecordForm) :
    (ofFields given).fields form (asked.map fun field => [field.1]) =
      some (asked.map Prod.snd) := by
  have hkeys : (fieldEntries given).all (fun e => e.1.isKey form) = true := by
    unfold fieldEntries
    rw [List.all_map, List.all_eq_true]
    exact fun _ _ => rfl
  have hfrom := fieldsFrom_fieldEntries hnames h 0
  change (if (fieldEntries given).all (fun e => e.1.isKey form) then
    fieldsFrom (fieldEntries given) 0 (asked.map fun field => [field.1]) else none) = _
  rw [if_pos hkeys, hfrom]

theorem fields_ofFields (given : List (String × Option Tree))
    (hnames : (given.map Prod.fst).Nodup) (form : RecordForm) :
    (ofFields given).fields form (given.map fun field => [field.1]) =
      some (given.map Prod.snd) :=
  fields_ofFields_of_mem hnames (fun _ hfield => hfield) form

end

section

variable {tree : Tree}

theorem depth_lt_list {items : List Tree} (h : tree ∈ items) : tree.depth < (list items).depth := by
  have hle : tree.depth ≤ itemsDepth items := by
    induction items with
    | nil => cases h
    | cons item items ih =>
      rw [itemsDepth]
      obtain rfl | hmem := List.mem_cons.1 h
      · exact Nat.le_max_left _ _
      · exact Nat.le_trans (ih hmem) (Nat.le_max_right _ _)
  rw [depth]
  exact Nat.lt_succ_of_le hle

theorem depth_lt_map {entries : List (Tree × Tree)} {key : Tree} (h : (key, tree) ∈ entries) :
    tree.depth < (map entries).depth := by
  have hle : tree.depth ≤ entriesDepth entries := by
    induction entries with
    | nil => cases h
    | cons entry entries ih =>
      rw [entriesDepth]
      obtain rfl | hmem := List.mem_cons.1 h
      · exact Nat.le_trans (Nat.le_max_right _ _) (Nat.le_max_left _ _)
      · exact Nat.le_trans (ih hmem) (Nat.le_max_right _ _)
  rw [depth]
  exact Nat.lt_succ_of_le hle

theorem depth_lt_ofFields {given : List (String × Option Tree)} {name : String}
    (h : (name, some tree) ∈ given) : tree.depth < (ofFields given).depth := by
  have hentry : (text name, tree) ∈ fieldEntries given :=
    List.mem_map.2 ⟨(name, tree), List.mem_filterMap.2 ⟨_, h, rfl⟩, rfl⟩
  exact depth_lt_map hentry

end

theorem mapM_eq_some {α β : Type} {f : β → Option α} {xs : List β} {ys : List α} :
    xs.mapM f = some ys ↔ List.Forall₂ (fun x y => f x = some y) xs ys := by
  induction xs generalizing ys with
  | nil => cases ys <;> simp
  | cons x xs ih =>
    simp only [List.mapM_cons, bind, pure, Option.bind_eq_some_iff, Option.some.injEq, ih,
      List.forall₂_cons_left_iff]
    constructor
    · rintro ⟨y, hy, ys, hys, rfl⟩
      exact ⟨y, ys, hy, hys, rfl⟩
    · rintro ⟨y, ys, hy, hys, rfl⟩
      exact ⟨y, hy, ys, hys, rfl⟩

/-- What was read from a list was read from its items. -/
theorem exists_of_mem_mapM {α β : Type} {f : β → Option α} {xs : List β} {ys : List α} {y : α}
    (h : xs.mapM f = some ys) (hy : y ∈ ys) : ∃ x ∈ xs, f x = some y := by
  induction mapM_eq_some.1 h with
  | nil => cases hy
  | @cons x _ xs ys hread hrest ih =>
    obtain rfl | hmem := List.mem_cons.1 hy
    · exact ⟨x, List.mem_cons_self, hread⟩
    · obtain ⟨x', hx', hread'⟩ := ih (mapM_eq_some.2 hrest) hmem
      exact ⟨x', List.mem_cons_of_mem x hx', hread'⟩

section

variable {α : Type} {read : Tree → Option α} {write : α → Tree} {xs : List α}

theorem mapM_map_eq_some (h : ∀ x ∈ xs, read (write x) = some x) :
    (xs.map write).mapM read = some xs := by
  induction xs with
  | nil => rfl
  | cons x xs ih =>
    rw [List.forall_mem_cons] at h
    rw [List.map_cons, List.mapM_cons, h.1, ih h.2]
    rfl

theorem listOf?_list_map (form : RecordForm) (h : ∀ x ∈ xs, read (write x) = some x) :
    listOf? form read (list (xs.map write)) = some xs := mapM_map_eq_some h

theorem listOf?_texts (form : RecordForm) (items : List String) :
    listOf? form text? (texts items) = some items :=
  listOf?_list_map form fun _ _ => rfl

def unlessEmpty (xs : List α) (tree : Tree) : Option Tree := if xs.isEmpty then none else some tree

/-- A list that may be left out is read as it was written, for it is left out only where it is
empty. -/
theorem withDefault_unlessEmpty {tree : Tree} {readAll : Tree → Option (List α)}
    (h : readAll tree = some xs) : withDefault [] readAll (unlessEmpty xs tree) = some xs := by
  cases xs with
  | nil => rfl
  | cons x xs => exact h

end

end Admission.Tree
