import Admission.Export.Reader
import Admission.Pattern
import Admission.Proofs.Batch
import Mathlib.Data.List.Nodup

/-!
The ids of loaded rules. Main statement: they differ exactly when those that were exported differ
and none of them is one of the numbers given to the other rules; then the policies differ in name.
-/

namespace Admission

namespace Export

/-- The ids that rules were exported with. -/
def explicitIds (rules : List ExportedRule) : List UInt32 := rules.filterMap ExportedRule.id

def countWithoutId (rules : List ExportedRule) : Nat := rules.countP fun rule => rule.id.isNone

theorem countWithoutId_cons_of_some {rule : ExportedRule} {id : UInt32} (h : rule.id = some id)
    (rules : List ExportedRule) : countWithoutId (rule :: rules) = countWithoutId rules :=
  List.countP_cons_of_neg (by simp [h])

theorem countWithoutId_cons_of_none {rule : ExportedRule} (h : rule.id = none)
    (rules : List ExportedRule) : countWithoutId (rule :: rules) = countWithoutId rules + 1 :=
  List.countP_cons_of_pos (by simp [h])

def numbersFrom (first : UInt32) (count : Nat) : List UInt32 :=
  (List.range count).map fun i => first + UInt32.ofNat i

theorem numbersFrom_succ (first : UInt32) (count : Nat) :
    numbersFrom first (count + 1) = first :: numbersFrom (first + 1) count := by
  unfold numbersFrom
  rw [List.range_succ_eq_map, List.map_cons, List.map_map]
  refine congrArg₂ _ (by simp) (List.map_congr_left fun i _ => ?_)
  rw [Function.comp, Nat.succ_eq_one_add, UInt32.ofNat_add, ← UInt32.add_assoc]
  rfl

/-- The ids after loading are the exported ones and the numbers, in some order. -/
theorem map_id_assignIds_perm (next : UInt32) (rules : List ExportedRule) :
    ((assignIds next rules).map Rule.id).Perm
      (explicitIds rules ++ numbersFrom next (countWithoutId rules)) := by
  -- The count runs on from rule to rule, so the statement is proved for every start.
  induction rules generalizing next with
  | nil => exact List.Perm.refl _
  | cons rule rules ih =>
    rw [assignIds]
    cases hid : rule.id with
    | some id =>
      have hexplicit : explicitIds (rule :: rules) = id :: explicitIds rules :=
        List.filterMap_cons_some hid
      rw [hexplicit, countWithoutId_cons_of_some hid]
      exact (ih next).cons id
    | none =>
      have hexplicit : explicitIds (rule :: rules) = explicitIds rules :=
        List.filterMap_cons_none hid
      rw [hexplicit, countWithoutId_cons_of_none hid, numbersFrom_succ]
      exact ((ih (next + 1)).cons next).trans List.perm_middle.symm

/-- The numbers differ until the count comes round. -/
theorem nodup_numbersFrom_iff {first : UInt32} {count : Nat} :
    (numbersFrom first count).Nodup ↔ count ≤ UInt32.size := by
  have hsize : UInt32.size = 4294967296 := rfl
  unfold numbersFrom
  constructor
  · intro h
    by_contra hcount
    -- After the last number the count begins again with the first.
    have hzero : 0 ∈ List.range count := List.mem_range.2 (by omega)
    have hround : UInt32.size ∈ List.range count := List.mem_range.2 (by omega)
    have := List.inj_on_of_nodup_map h hzero hround (by rfl)
    omega
  · intro hcount
    refine List.Nodup.map_on (fun i hi j hj heq => ?_) List.nodup_range
    rw [List.mem_range] at hi hj
    have hofNat : UInt32.ofNat i = UInt32.ofNat j := UInt32.add_right_inj _ |>.1 heq
    have := congrArg UInt32.toNat hofNat
    rw [UInt32.toNat_ofNat', UInt32.toNat_ofNat'] at this
    omega

/-- The numbers that rules without an id get. -/
def givenIds (rules : List ExportedRule) : List UInt32 :=
  numbersFrom Rule.firstOwnId (countWithoutId rules)

theorem nodup_map_id_numbered_iff {rules : List ExportedRule} :
    ((numbered rules).map Rule.id).Nodup ↔
      (explicitIds rules).Nodup ∧ countWithoutId rules ≤ UInt32.size ∧
        ∀ id ∈ explicitIds rules, id ∉ givenIds rules := by
  unfold numbered givenIds
  rw [(map_id_assignIds_perm _ rules).nodup_iff, List.nodup_append', nodup_numbersFrom_iff]
  simp only [List.disjoint_left]

end Export

section

variable {rule : Rule}

theorem Rule.policyName_injective {rule other : Rule} (h : rule.policyName = other.policyName) :
    rule.id = other.id := by
  have hdigits : (toString rule.id.toNat).toList = (toString other.id.toNat).toList := by
    have hchars := congrArg String.toList h
    unfold policyName at hchars
    rw [String.toList_append, String.toList_append, String.toList_append,
      String.toList_append] at hchars
    exact List.append_cancel_left (List.append_cancel_right hchars)
  rw [Nat.toString_eq_repr, Nat.toString_eq_repr, Nat.toList_repr, Nat.toList_repr] at hdigits
  have hnat := congrArg (Nat.ofDigitChars 10 · 0) hdigits
  simp only [Nat.ofDigitChars_ten_toDigits] at hnat
  exact UInt32.toNat.inj hnat

namespace Converter

variable [Pattern.Engine]

/-- A batch makes one policy at most of each rule, under the name of the rule. -/
theorem map_name_policies_sublist (converter : Converter) (rules : List Rule) :
    ((converter.convertAll rules).policies.map Policy.name).Sublist
      (rules.map Rule.policyName) := by
  rw [policies_convertAll]
  induction rules with
  | nil => exact List.Sublist.refl _
  | cons rule rules ih =>
    rw [List.map_cons]
    cases hpolicy : Outcome.policy? (converter.convert rule) with
    | none =>
      rw [List.filterMap_cons_none (by exact hpolicy)]
      exact ih.cons _
    | some policy =>
      have hconvert : converter.convert rule = .ok (.converted policy) :=
        Outcome.policy?_eq_some.1 hpolicy
      rw [List.filterMap_cons_some (by exact hpolicy), List.map_cons,
        (name_mode_of_convert hconvert).1]
      exact ih.cons_cons _

theorem nodup_map_name_policies (converter : Converter) {rules : List Rule}
    (h : (rules.map Rule.id).Nodup) :
    ((converter.convertAll rules).policies.map Policy.name).Nodup := by
  refine List.Nodup.sublist (converter.map_name_policies_sublist rules) ?_
  apply (List.Nodup.of_map _ h).map_on
  intro rule hrule other hother hname
  exact List.inj_on_of_nodup_map h hrule hother (Rule.policyName_injective hname)

end Converter

end

namespace Export

/-- What the text of a file exports, before the rules without an id get one. -/
def Dialect.exported : Dialect → String → Except Failure (List ExportedRule)
  | interface, s =>
    match (Json.read s).bind interface? with
    | some rules => .ok ((rules.getD []).map InterfaceRule.toExported)
    | none => .error (.input .notJson)
  | resources, s =>
    exportedFrom 0 ((Yaml.documents s).map fun document => .ofTree document.soundValue?)

theorem Dialect.read_eq (dialect : Dialect) (s : String) :
    dialect.read s = (dialect.exported s).map numbered := by
  cases dialect with
  | interface =>
    change readInterface s = Except.map numbered (match (Json.read s).bind interface? with
      | some rules => .ok ((rules.getD []).map InterfaceRule.toExported)
      | none => .error (.input .notJson))
    unfold readInterface
    cases (Json.read s).bind interface? <;> rfl
  | resources => rfl

/-- Loaded rules differ in their ids exactly when those exported with an id do and no number given
to the others is among these ids; then no two of their policies have one name. -/
theorem Dialect.ids_of_read [Pattern.Engine] {dialect : Dialect} {s : String} {rules : List Rule}
    (h : dialect.read s = .ok rules) :
    ∃ exported, dialect.exported s = .ok exported ∧ rules = numbered exported ∧
      ((rules.map Rule.id).Nodup ↔
        (explicitIds exported).Nodup ∧ countWithoutId exported ≤ UInt32.size ∧
          ∀ id ∈ explicitIds exported, id ∉ givenIds exported) ∧
      ∀ converter : Converter, (rules.map Rule.id).Nodup →
        ((converter.convertAll rules).policies.map Policy.name).Nodup := by
  rw [Dialect.read_eq] at h
  obtain ⟨exported, hexported, rfl⟩ := map_eq_ok.1 h
  exact ⟨exported, hexported, rfl, nodup_map_id_numbered_iff,
    fun converter hids => converter.nodup_map_name_policies hids⟩

/-- An export of a rule without an id and one with the first number that is given out. -/
def takenNumber : String :=
  "\x7b\"rules\":[" ++
  "\x7b\"criteria\":[\x7b\"name\":\"runAsRoot\",\"op\":\"=\",\"value\":\"true\"\x7d]\x7d," ++
  "\x7b\"id\":1000,\"criteria\":" ++
  "[\x7b\"name\":\"runAsPrivileged\",\"op\":\"=\",\"value\":\"true\"\x7d]\x7d]\x7d"

theorem Dialect.ids_clash_in_takenNumber : ∃ exported rules,
    Dialect.interface.exported takenNumber = .ok exported ∧ (explicitIds exported).Nodup ∧
      Dialect.interface.read takenNumber = .ok rules ∧ ¬ (rules.map Rule.id).Nodup ∧
      ¬ ((Converter.plain.convertAll rules).policies.map Policy.name).Nodup := by
  have hexported : (Dialect.interface.exported takenNumber).toOption.map explicitIds =
      some [1000] := by decide +kernel
  have hread : (Dialect.interface.read takenNumber).toOption.map (fun rules =>
      (rules.map Rule.id, (Converter.plain.convertAll rules).policies.map Policy.name)) =
        some ([1000, 1000],
          ["neuvector-rule-1000-conversion", "neuvector-rule-1000-conversion"]) := by
    decide +kernel
  obtain ⟨exported, hexported, hexplicit⟩ := toOption_map_eq_some.1 hexported
  obtain ⟨rules, hread, hrules⟩ := toOption_map_eq_some.1 hread
  rw [Prod.mk.injEq] at hrules
  refine ⟨exported, rules, hexported, ?_, hread, ?_, ?_⟩
  · rw [hexplicit]
    decide
  · rw [hrules.1]
    decide
  · rw [hrules.2]
    decide

/-- A rule without an id and one with the second number, which nobody else gets. -/
theorem Dialect.ids_differ_in_mixture : ∃ rules,
    Dialect.interface.read "\x7b\"rules\":[\x7b\x7d,\x7b\"id\":1001\x7d]\x7d" = .ok rules ∧
      (rules.map Rule.id).Nodup ∧
      ((Converter.plain.convertAll rules).policies.map Policy.name).Nodup := by
  have hread : (Dialect.interface.read
      "\x7b\"rules\":[\x7b\x7d,\x7b\"id\":1001\x7d]\x7d").toOption.map (·.map Rule.id) =
        some [1000, 1001] := by decide +kernel
  obtain ⟨rules, hread, hids⟩ := toOption_map_eq_some.1 hread
  obtain ⟨exported, -, -, -, hnames⟩ := Dialect.ids_of_read hread
  have hnodup : (rules.map Rule.id).Nodup := by
    rw [hids]
    decide
  exact ⟨rules, hread, hnodup, hnames Converter.plain hnodup⟩

end Export
end Admission
