import Admission.Proofs.Identity

/-!
What becomes of the rules of an export. Main statements: the rule at each place of a list is the one
exported there, under its own id or the next number, with its empty and its absent parts made alike;
the documents of a stream count as one list, up to the first that is broken.
-/

namespace Admission.Export

mutual

/-- The exported criterion stands for this one: what is given stays, and a list of parts that is
left out is empty, at every level. -/
inductive Denotes : ExportedCriterion → Criterion → Prop
  | intro (name operator value : String) {parts : Option (List ExportedCriterion)}
      {criteria : List Criterion} (h : DenotesAll parts criteria) :
      Denotes ⟨name, operator, value, parts⟩ ⟨name, operator, value, criteria⟩

inductive DenotesAll : Option (List ExportedCriterion) → List Criterion → Prop
  | absent : DenotesAll none []
  | nil : DenotesAll (some []) []
  | cons {e : ExportedCriterion} {c : Criterion} {es : List ExportedCriterion}
      {cs : List Criterion} (head : Denotes e c) (tail : DenotesAll (some es) cs) :
      DenotesAll (some (e :: es)) (c :: cs)

end

mutual

theorem denotes_toCriterion : (e : ExportedCriterion) → Denotes e e.toCriterion
  | ⟨name, operator, value, parts⟩ =>
    .intro name operator value (denotesAll_optionToCriteria parts)

theorem denotesAll_optionToCriteria :
    (es : Option (List ExportedCriterion)) → DenotesAll es (optionToCriteria es)
  | none => .absent
  | some es => denotesAll_toCriteria es

theorem denotesAll_toCriteria :
    (es : List ExportedCriterion) → DenotesAll (some es) (toCriteria es)
  | [] => .nil
  | e :: es => .cons (denotes_toCriterion e) (denotesAll_toCriteria es)

end

mutual

theorem Denotes.eq {e : ExportedCriterion} {c : Criterion} : Denotes e c → c = e.toCriterion
  | .intro name operator value h => by
    rw [h.eq]
    rfl

theorem DenotesAll.eq {es : Option (List ExportedCriterion)} {cs : List Criterion} :
    DenotesAll es cs → cs = optionToCriteria es
  | .absent => rfl
  | .nil => rfl
  | .cons head tail => by
    rw [head.eq, tail.eq]
    rfl

end

/-- Exported criteria stand for one list and no other. -/
theorem denotesAll_iff {es : Option (List ExportedCriterion)} {cs : List Criterion} :
    DenotesAll es cs ↔ cs = optionToCriteria es := by
  constructor
  · exact fun h => h.eq
  · rintro rfl
    exact denotesAll_optionToCriteria es

theorem kindOf_eq (name : Option String) :
    kindOf name = if name.getD "" = "" then .deny else .ofName (name.getD "") := by
  cases name <;> rfl

theorem modeOf_eq (mode : Option String) :
    modeOf mode = if mode.getD "" = "" then none else some (mode.getD "") := by
  cases mode with
  | none => rfl
  | some s =>
    unfold modeOf
    rw [Option.filter_some]
    by_cases hs : s = "" <;> simp [hs]

/-- A rule without an id gets the number behind those that the rules without an id before it have
used up. -/
theorem getElem?_assignIds (next : UInt32) (rules : List ExportedRule) (i : Nat) :
    (assignIds next rules)[i]? = rules[i]?.map fun rule =>
      rule.withId (rule.id.getD (next + UInt32.ofNat (countWithoutId (rules.take i)))) := by
  -- The count runs on from rule to rule, so the statement is proved for every start.
  induction rules generalizing next i with
  | nil => rfl
  | cons rule rules ih =>
    cases hid : rule.id with
    | some id =>
      rw [assignIds, hid]
      cases i with
      | zero =>
        rw [List.getElem?_cons_zero, List.getElem?_cons_zero, Option.map_some, hid]
        rfl
      | succ i =>
        rw [List.take_succ_cons, countWithoutId_cons_of_some hid]
        exact ih next i
    | none =>
      rw [assignIds, hid]
      cases i with
      | zero =>
        have hstart : next + UInt32.ofNat 0 = next := UInt32.add_zero next
        rw [List.getElem?_cons_zero, List.getElem?_cons_zero, Option.map_some, hid]
        exact congrArg some (congrArg rule.withId hstart.symm)
      | succ i =>
        have hnext : next + UInt32.ofNat (countWithoutId (rules.take i) + 1) =
            next + 1 + UInt32.ofNat (countWithoutId (rules.take i)) := by
          rw [Nat.add_comm, UInt32.ofNat_add, ← UInt32.add_assoc]
          rfl
        rw [List.take_succ_cons, countWithoutId_cons_of_none hid, hnext]
        exact ih (next + 1) i

/-- The first own id and so many more, as long as ids do not run out. -/
theorem toNat_firstOwnId_add {count : Nat} (h : count < UInt32.size - 1000) :
    (Rule.firstOwnId + UInt32.ofNat count).toNat = 1000 + count := by
  have hsize : UInt32.size = 4294967296 := rfl
  have hfirst : Rule.firstOwnId.toNat = 1000 := rfl
  have hcount : (UInt32.ofNat count).toNat = count := UInt32.toNat_ofNat_of_lt' (by omega)
  rw [UInt32.toNat_add, hfirst, hcount]
  exact Nat.mod_eq_of_lt (by omega)

/-- The rule is what the exported one becomes where so many rules without an id stand before it. -/
structure InterfaceRule.LoadsAs (exported : InterfaceRule) (before : Nat) (rule : Rule) :
    Prop where
  ownId : ∀ id, exported.id = some id → rule.id = id
  nextId : exported.id = none → rule.id.toNat = 1000 + before
  criteria : DenotesAll exported.criteria rule.criteria
  kind : rule.kind =
    if exported.kind.getD "" = "" then .deny else .ofName (exported.kind.getD "")
  disabled : rule.disabled = exported.disabled
  mode : rule.mode =
    if exported.mode.getD "" = "" then none else some (exported.mode.getD "")
  comment : rule.comment = exported.comment

theorem InterfaceRule.loadsAs_withId (exported : InterfaceRule) {before : Nat}
    (h : exported.id = none → before < UInt32.size - 1000) :
    exported.LoadsAs before (exported.toExported.withId
      (exported.id.getD (Rule.firstOwnId + UInt32.ofNat before))) where
  ownId := by
    intro id hid
    rw [hid]
    rfl
  nextId := by
    intro hid
    rw [hid]
    exact toNat_firstOwnId_add (h hid)
  criteria := denotesAll_optionToCriteria exported.criteria
  kind := kindOf_eq exported.kind
  disabled := rfl
  mode := modeOf_eq exported.mode
  comment := rfl

/-- These are the rules of the export, each at its place. -/
structure LoadedFrom (exported : List InterfaceRule) (rules : List Rule) : Prop where
  length : rules.length = exported.length
  each : ∀ (i : Nat) (rule : InterfaceRule) (loaded : Rule), exported[i]? = some rule →
    rules[i]? = some loaded →
      rule.LoadsAs ((exported.take i).countP fun before => before.id.isNone) loaded

theorem length_assignIds (next : UInt32) (rules : List ExportedRule) :
    (assignIds next rules).length = rules.length := by
  induction rules generalizing next with
  | nil => rfl
  | cons rule rules ih =>
    rw [assignIds]
    split <;> rw [List.length_cons, List.length_cons, ih]

theorem countWithoutId_map_toExported (exported : List InterfaceRule) :
    countWithoutId (exported.map InterfaceRule.toExported) =
      exported.countP fun rule => rule.id.isNone :=
  List.countP_map

theorem loadedFrom_numbered {exported : List InterfaceRule}
    (h : (exported.countP fun rule => rule.id.isNone) < UInt32.size - 1000) :
    LoadedFrom exported (numbered (exported.map InterfaceRule.toExported)) where
  length := by
    unfold numbered
    rw [length_assignIds, List.length_map]
  each := by
    intro i rule loaded hrule hloaded
    unfold numbered at hloaded
    rw [getElem?_assignIds, List.getElem?_map, hrule, ← List.map_take,
      countWithoutId_map_toExported] at hloaded
    cases hloaded
    refine rule.loadsAs_withId fun _ => lt_of_le_of_lt ?_ h
    exact (List.take_sublist i exported).countP_le

def Document.rules : Document → List ResourceRule
  | .resource rules => rules.getD []
  | .void | .broken => []

/-- Documents that can be read count as one list, however the rules are spread over them. -/
theorem exportedFrom_eq_ok {documents : List Document} (h : .broken ∉ documents)
    (position : Nat) : exportedFrom position documents =
      .ok ((documents.flatMap Document.rules).map ResourceRule.toExported) := by
  induction documents generalizing position with
  | nil => rfl
  | cons document documents ih =>
    rw [List.mem_cons, not_or] at h
    have hlater := ih h.2 (position + 1)
    cases document with
    | void => exact hlater
    | broken => exact absurd rfl h.1
    | resource rules =>
      rw [exportedFrom, hlater, List.flatMap_cons, List.map_append]
      rfl

/-- The first broken document is told by its position, and no rule is kept. -/
theorem exportedFrom_eq_error {front : List Document} (h : .broken ∉ front)
    (back : List Document) (position : Nat) :
    exportedFrom position (front ++ .broken :: back) =
      .error (.input (.notYaml (position + front.length))) := by
  induction front generalizing position with
  | nil => rfl
  | cons document front ih =>
    rw [List.mem_cons, not_or] at h
    have hlater := ih h.2 (position + 1)
    rw [Nat.add_assoc, Nat.add_comm 1] at hlater
    cases document with
    | void => exact hlater
    | broken => exact absurd rfl h.1
    | resource rules =>
      rw [List.cons_append, exportedFrom, hlater]
      rfl

end Admission.Export
