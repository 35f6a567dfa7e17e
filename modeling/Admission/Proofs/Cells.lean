import Admission.Pattern
import Admission.Proofs.Quantities
import Admission.Proofs.Slots

/-!
The cells of the settings for container resources. Main statement: one criterion has settings, if
each of its parts bounds one of four quantities by a number that is finite and not negative; and
then each of the eight cells holds the text of the last part for it, as if there were no parts for
the others.
-/

namespace Admission

/-- A cell of the settings, with the name and the operator of the parts that are for it. -/
structure Cell where
  name : String
  operator : String
  resource : String
  field : String

namespace Cell

def all : List Cell :=
  [⟨"cpuLimit", ">", "cpu", "maxLimit"⟩, ⟨"cpuRequest", ">", "cpu", "maxRequest"⟩,
    ⟨"cpuLimit", "<=", "cpu", "minLimit"⟩, ⟨"cpuRequest", "<=", "cpu", "minRequest"⟩,
    ⟨"memoryLimit", ">", "memory", "maxLimit"⟩, ⟨"memoryRequest", ">", "memory", "maxRequest"⟩,
    ⟨"memoryLimit", "<=", "memory", "minLimit"⟩,
    ⟨"memoryRequest", "<=", "memory", "minRequest"⟩]

def path (cell : Cell) : List String := [cell.resource, cell.field]

def Takes (cell : Cell) (part : Criterion) : Prop :=
  part.name = cell.name ∧ part.operator = cell.operator

instance (cell : Cell) : DecidablePred cell.Takes :=
  fun part => inferInstanceAs (Decidable (part.name = cell.name ∧ part.operator = cell.operator))

/-- The cell is in the settings if and only if one of the parts is for it, and then it holds the
text of the last such part without the blanks around. -/
structure Follows (cell : Cell) (parts : List Criterion) (settings : Tree) : Prop where
  absent : settings.part? cell.path = none ↔ ∀ part ∈ parts, ¬ cell.Takes part
  last : ∀ front part back, parts = front ++ part :: back → cell.Takes part →
    (∀ later ∈ back, ¬ cell.Takes later) →
    settings.part? cell.path = some (.text (Text.trim part.value))

end Cell

namespace Settings.ResourceBounds

theorem get?_object_entries (bounds : Bounds) :
    (Tree.object bounds.entries).get? "maxLimit" = bounds.maxLimit.map Tree.text ∧
      (Tree.object bounds.entries).get? "maxRequest" = bounds.maxRequest.map Tree.text ∧
      (Tree.object bounds.entries).get? "minLimit" = bounds.minLimit.map Tree.text ∧
      (Tree.object bounds.entries).get? "minRequest" = bounds.minRequest.map Tree.text := by
  obtain ⟨a, b, c, d⟩ := bounds
  cases a <;> cases b <;> cases c <;> cases d <;> exact ⟨rfl, rfl, rfl, rfl⟩

theorem get?_toTree (settings : ResourceBounds) :
    settings.toTree.get? "cpu" =
        (if settings.cpu.entries = [] then none else some (.object settings.cpu.entries)) ∧
      settings.toTree.get? "memory" =
        if settings.memory.entries = [] then none else some (.object settings.memory.entries) := by
  unfold toTree section?
  cases settings.cpu.entries <;> cases settings.memory.entries <;> exact ⟨rfl, rfl⟩

theorem entries_eq_nil_iff {bounds : Bounds} : bounds.entries = [] ↔
    bounds.maxLimit = none ∧ bounds.maxRequest = none ∧ bounds.minLimit = none ∧
      bounds.minRequest = none := by
  obtain ⟨a, b, c, d⟩ := bounds
  cases a <;> cases b <;> cases c <;> cases d <;> simp [Bounds.entries, Bounds.cell]

theorem part?_of_get? {tree inner : Tree} {resource field : String}
    (h : tree.get? resource = some inner) : tree.part? [resource, field] = inner.get? field := by
  unfold Tree.part?
  rw [h, Option.bind_some]
  unfold Tree.part? Tree.part?
  cases inner.get? field <;> rfl

/-- Below a resource the settings show the fields of its bounds, also where there are none. -/
theorem part?_of_bounds {tree : Tree} {resource : String} {bounds : Bounds}
    (h : tree.get? resource = if bounds.entries = [] then none else some (.object bounds.entries)) :
    tree.part? [resource, "maxLimit"] = bounds.maxLimit.map Tree.text ∧
      tree.part? [resource, "maxRequest"] = bounds.maxRequest.map Tree.text ∧
      tree.part? [resource, "minLimit"] = bounds.minLimit.map Tree.text ∧
      tree.part? [resource, "minRequest"] = bounds.minRequest.map Tree.text := by
  by_cases hnil : bounds.entries = []
  · obtain ⟨ha, hb, hc, hd⟩ := entries_eq_nil_iff.1 hnil
    rw [if_pos hnil] at h
    simp [Tree.part?, h, ha, hb, hc, hd]
  · rw [if_neg hnil] at h
    simp only [part?_of_get? h]
    exact get?_object_entries bounds

theorem part?_toTree (settings : ResourceBounds) :
    (settings.toTree.part? ["cpu", "maxLimit"] = settings.cpu.maxLimit.map Tree.text ∧
      settings.toTree.part? ["cpu", "maxRequest"] = settings.cpu.maxRequest.map Tree.text ∧
      settings.toTree.part? ["cpu", "minLimit"] = settings.cpu.minLimit.map Tree.text ∧
      settings.toTree.part? ["cpu", "minRequest"] = settings.cpu.minRequest.map Tree.text) ∧
    settings.toTree.part? ["memory", "maxLimit"] = settings.memory.maxLimit.map Tree.text ∧
      settings.toTree.part? ["memory", "maxRequest"] = settings.memory.maxRequest.map Tree.text ∧
      settings.toTree.part? ["memory", "minLimit"] = settings.memory.minLimit.map Tree.text ∧
      settings.toTree.part? ["memory", "minRequest"] = settings.memory.minRequest.map Tree.text :=
  ⟨part?_of_bounds settings.get?_toTree.1, part?_of_bounds settings.get?_toTree.2⟩

theorem quantity_eq_ok {part : Criterion} {q : String} (h : quantity part = .ok q) :
    q = Text.trim part.value := by
  unfold quantity at h
  split at h <;> cases h
  rfl

/-- The side that a part bounds tells its operator. -/
theorem operator_of_side {operator : String} {side : BoundSide}
    (h : BoundSide.ofOperator? operator = some side) :
    operator = match side with
      | .max => ">"
      | .min => "<=" := by
  unfold BoundSide.ofOperator? at h
  split at h
  case h_1 ho =>
    cases h
    exact (Operator.text_of_ofText? ho).symm
  case h_2 ho =>
    cases h
    exact (Operator.text_of_ofText? ho).symm
  case h_3 => cases h

/-- A part sets the cell that it is for, and leaves the seven others as they were. -/
theorem part?_add {settings out : ResourceBounds} {part : Criterion}
    (h : settings.add part = .ok out) : ∀ cell ∈ Cell.all, out.toTree.part? cell.path =
      if cell.Takes part then some (.text (Text.trim part.value))
      else settings.toTree.part? cell.path := by
  unfold add at h
  split at h
  case h_1 => cases h
  case h_2 side hside =>
    obtain ⟨q, hq, h⟩ := bind_eq_ok.1 h
    obtain rfl := quantity_eq_ok hq
    have ho := operator_of_side hside
    -- The name chooses one of four pairs of cells, the side one of the pair.
    split_ifs at h
    all_goals
      rename_i hname
      cases h
      cases side <;>
        simp [Cell.all, Cell.path, Cell.Takes, ho, hname, part?_toTree, Bounds.setLimit,
          Bounds.setRequest]

/-- In the end a cell holds the text of the last part for it. -/
theorem cell_of_foldlM {parts : List Criterion} {bounds : ResourceBounds}
    (h : parts.foldlM add {} = .ok bounds) {cell : Cell} (hcell : cell ∈ Cell.all) :
    bounds.toTree.part? cell.path =
      (parts.filter cell.Takes).getLast?.map fun part => .text (Text.trim part.value) := by
  have hempty : ∀ cell ∈ Cell.all, ({} : ResourceBounds).toTree.part? cell.path = none := by
    decide
  have hlast : bounds.toTree.part? cell.path =
      ((parts.filter cell.Takes).getLast?.map fun part => some (.text (Text.trim part.value))).getD
        (({} : ResourceBounds).toTree.part? cell.path) :=
    foldlM_last (g := fun s => s.toTree.part? cell.path)
      (fun s part t htakes hadd => by rw [part?_add hadd cell hcell, if_pos htakes])
      (fun s part t htakes hadd => by rw [part?_add hadd cell hcell, if_neg htakes]) h
  rw [hlast, hempty cell hcell]
  cases (parts.filter cell.Takes).getLast? <;> rfl

theorem exists_bounds [Pattern.Engine] {source : ScanSource} {c : Criterion} {settings : Tree}
    (h : Module.containerResources.settings source [c] = .ok settings) :
    ∃ bounds, c.parts.foldlM add {} = .ok bounds ∧ bounds.toTree = settings := by
  obtain ⟨bounds, hbounds, rfl⟩ := map_eq_ok.1 h
  unfold ofCriteria at hbounds
  rw [single, ok_bind] at hbounds
  dsimp only at hbounds
  split at hbounds
  · cases hbounds
  · exact ⟨bounds, hbounds, rfl⟩

theorem follows_of_settings [Pattern.Engine] {source : ScanSource} {c : Criterion} {settings : Tree}
    (h : Module.containerResources.settings source [c] = .ok settings) {cell : Cell}
    (hcell : cell ∈ Cell.all) : cell.Follows c.parts settings := by
  obtain ⟨bounds, hbounds, rfl⟩ := exists_bounds h
  have hpart := cell_of_foldlM hbounds hcell
  constructor
  case absent =>
    rw [hpart, Option.map_eq_none_iff, List.getLast?_eq_none_iff, List.filter_eq_nil_iff]
    simp
  case last =>
    intro front part back hsplit htakes hback
    rw [hpart, hsplit, getLast?_filter_append_cons htakes hback]
    rfl

/-- The object for a resource is there if one of its four cells is. -/
theorem get?_eq_none_iff (bounds : ResourceBounds) : ∀ resource ∈ ["cpu", "memory"],
    (bounds.toTree.get? resource = none ↔
      ∀ cell ∈ Cell.all, cell.resource = resource → bounds.toTree.part? cell.path = none) := by
  obtain ⟨hcpu, hmemory⟩ := bounds.get?_toTree
  simp [Cell.all, Cell.path, hcpu, hmemory, part?_toTree, entries_eq_nil_iff]

theorem isBound_iff {part : Criterion} : part.IsBound ↔
    (part.operator = "<=" ∨ part.operator = ">") ∧
      part.name ∈ ["cpuLimit", "cpuRequest", "memoryLimit", "memoryRequest"] ∧
      ∃ v, Number.DenotesDecimal (Text.trimChars part.value.toList) v ∧ Number.IsQuantity v := by
  have hnumber : (∃ d, Number.Decimal.ofChars? (Text.trimChars part.value.toList) = some d ∧
        d.isNonNegative = true) ↔
      ∃ v, Number.DenotesDecimal (Text.trimChars part.value.toList) v ∧ Number.IsQuantity v := by
    rw [← Number.Decimal.any_ofChars?_iff, Option.any_eq_true]
  rw [← hnumber]
  constructor
  · exact fun h => ⟨by simpa using h.operator, h.quantity, h.number⟩
  · exact fun h => ⟨h.2.1, by simpa using h.1, h.2.2⟩

theorem succeeds_bounds_iff [Pattern.Engine] {source : ScanSource} {criteria : List Criterion} :
    Succeeds (Module.containerResources.settings source criteria) ↔
      ∃ c, criteria = [c] ∧ c.parts ≠ [] ∧ ∀ part ∈ c.parts, part.IsBound := by
  match criteria with
  | [] => simp [Module.settings, ofCriteria, single, error_bind]
  | [c] => simp [Module.settings, succeeds_resourceBounds]
  | c :: d :: cs =>
    rw [Module.settings_cons_cons source rfl]
    simp

end Settings.ResourceBounds

open Settings.ResourceBounds in
/-- There are settings for exactly one criterion with parts, each of which bounds one of four
quantities from above or below by a decimal literal for a number that is finite and not negative.
Then each of the eight cells is there if a part is for it and holds the text of the last such part,
parts for the other cells change nothing about it, and there is an object for the CPU, or for the
memory, if one of its four cells is there. -/
theorem Module.cells_of_settings [Pattern.Engine] (source : Settings.ScanSource)
    (criteria : List Criterion) :
    (Succeeds (containerResources.settings source criteria) ↔
      ∃ c, criteria = [c] ∧ c.parts ≠ [] ∧ ∀ part ∈ c.parts,
        (part.operator = "<=" ∨ part.operator = ">") ∧
        part.name ∈ ["cpuLimit", "cpuRequest", "memoryLimit", "memoryRequest"] ∧
        ∃ v, Number.DenotesDecimal (Text.trimChars part.value.toList) v ∧
          Number.IsQuantity v) ∧
    ∀ c settings, containerResources.settings source [c] = .ok settings →
      (∀ cell ∈ Cell.all, cell.Follows c.parts settings) ∧
      (∀ other settings', containerResources.settings source [other] = .ok settings' →
        ∀ cell ∈ Cell.all, other.parts.filter cell.Takes = c.parts.filter cell.Takes →
          settings'.part? cell.path = settings.part? cell.path) ∧
      ∀ resource ∈ ["cpu", "memory"], (settings.get? resource = none ↔
        ∀ cell ∈ Cell.all, cell.resource = resource → settings.part? cell.path = none) := by
  refine ⟨?_, fun c settings h => ⟨fun cell => follows_of_settings h, ?_, ?_⟩⟩
  · simp only [succeeds_bounds_iff, isBound_iff]
  · intro other settings' h' cell hcell hsame
    obtain ⟨bounds, hbounds, rfl⟩ := exists_bounds h
    obtain ⟨bounds', hbounds', rfl⟩ := exists_bounds h'
    rw [cell_of_foldlM hbounds' hcell, cell_of_foldlM hbounds hcell, hsame]
  · obtain ⟨bounds, -, rfl⟩ := exists_bounds h
    exact bounds.get?_eq_none_iff

/-- A limit that a later part replaces, and a part for another cell between the two. -/
def Criterion.twoLimits : Criterion where
  name := "resourceLimit"
  parts := [{ name := "cpuLimit", operator := ">", value := "2" },
    { name := "memoryRequest", operator := "<=", value := "1.5e+3" },
    { name := "cpuLimit", operator := ">", value := " -0. " }]

def Criterion.bareLimits : Criterion where
  name := "resourceLimit"
  parts := [{ name := "cpuLimit", operator := ">", value := "2" },
    { name := "cpuLimit", operator := ">", value := " -0. " }]

theorem Module.cells_of_twoLimits :
    ∃ settings bare,
      containerResources.settings ⟨"sbomscanner", "amd64"⟩ [.twoLimits] = .ok settings ∧
      containerResources.settings ⟨"sbomscanner", "amd64"⟩ [.bareLimits] = .ok bare ∧
      settings.part? ["cpu", "maxLimit"] = some (.text "-0.") ∧
      bare.part? ["cpu", "maxLimit"] = settings.part? ["cpu", "maxLimit"] ∧
      settings.get? "memory" ≠ none ∧ bare.get? "memory" = none := by
  have htwo :
      Succeeds (containerResources.settings ⟨"sbomscanner", "amd64"⟩ [.twoLimits]) := by
    decide +kernel
  have hbare :
      Succeeds (containerResources.settings ⟨"sbomscanner", "amd64"⟩ [.bareLimits]) := by
    decide +kernel
  obtain ⟨settings, hsettings⟩ := htwo
  obtain ⟨bare, hbare⟩ := hbare
  have hcell : ⟨"cpuLimit", ">", "cpu", "maxLimit"⟩ ∈ Cell.all := by simp [Cell.all]
  obtain ⟨-, hcells⟩ := cells_of_settings ⟨"sbomscanner", "amd64"⟩ [.twoLimits]
  obtain ⟨hfollows, hothers, -⟩ := hcells _ settings hsettings
  have hsplit : Criterion.twoLimits.parts = Criterion.twoLimits.parts.take 2 ++
      { name := "cpuLimit", operator := ">", value := " -0. " } :: [] := rfl
  have hlast := (hfollows _ hcell).last _ _ [] hsplit ⟨rfl, rfl⟩ (List.forall_mem_nil _)
  refine ⟨settings, bare, hsettings, hbare, hlast, hothers _ bare hbare _ hcell rfl, ?_, ?_⟩
  · cases hsettings
    decide
  · cases hbare
    rfl

end Admission
