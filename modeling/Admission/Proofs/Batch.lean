import Admission.Proofs.Conversion
import Admission.Proofs.Synthesis
import Mathlib.Data.List.Induction

namespace Admission

def Outcome.policy? : Except Failure Outcome → Option Policy
  | .ok (.converted policy) => some policy
  | _ => none

def Outcome.artifact? : Except Failure Outcome → Option Artifact
  | .ok (.diverted artifact) => some artifact
  | _ => none

theorem Outcome.policy?_eq_some {outcome : Except Failure Outcome} {policy : Policy} :
    Outcome.policy? outcome = some policy ↔ outcome = .ok (.converted policy) := by
  unfold Outcome.policy?
  split
  · simp
  · next h =>
    refine iff_of_false (fun hnone => ?_) fun heq => h policy heq
    cases hnone

namespace BatchResult

def ofOutcomes (outcomes : List (UInt32 × Except Failure Outcome)) : BatchResult where
  policies := outcomes.filterMap fun o => Outcome.policy? o.2
  diverted := outcomes.filterMap fun o => Outcome.artifact? o.2
  summary := outcomes.map fun o => SummaryEntry.ofOutcome o.1 o.2

theorem ofOutcomes_concat (outcomes : List (UInt32 × Except Failure Outcome)) (id : UInt32)
    (outcome : Except Failure Outcome) :
    ofOutcomes (outcomes ++ [(id, outcome)]) = (ofOutcomes outcomes).file id outcome := by
  unfold ofOutcomes
  rw [List.filterMap_append, List.filterMap_append, List.map_append]
  rcases outcome with failure | policy | artifact <;>
    simp [file, Outcome.policy?, Outcome.artifact?]

end BatchResult

namespace Converter

variable [Pattern.Engine] {converter : Converter} {rules : List Rule}

/-- Writing bundles out changes nothing that a policy takes its name or its mode from. -/
theorem name_mode_of_convert {rule : Rule} {policy : Policy}
    (h : converter.convert rule = .ok (.converted policy)) :
    policy.name = rule.policyName ∧ policy.mode = converter.config.resolveMode rule.mode := by
  obtain ⟨-, -, -, -, hknown, hpolicy⟩ := convert_eq_converted_iff.1 h
  have hwritten : policy.name = rule.writtenOut.policyName ∧
      policy.mode = converter.config.resolveMode rule.writtenOut.mode :=
    Policy.name_mode_of_ofRule hknown.module?_of_mem_checks hpolicy
  exact hwritten

theorem convertAll_concat (converter : Converter) (rules : List Rule) (rule : Rule) :
    converter.convertAll (rules ++ [rule]) =
      (converter.convertAll rules).file rule.id (converter.convert rule) := by
  unfold convertAll
  rw [List.foldl_append]
  rfl

/-- Filing one outcome after the other gives the outcomes of each kind in the order of the rules. -/
theorem convertAll_eq (converter : Converter) (rules : List Rule) :
    converter.convertAll rules =
      .ofOutcomes (rules.map fun rule => (rule.id, converter.convert rule)) := by
  induction rules using List.reverseRecOn with
  | nil => rfl
  | append_singleton rules rule ih =>
    rw [convertAll_concat, ih, List.map_append, List.map_singleton, BatchResult.ofOutcomes_concat]

theorem policies_convertAll (converter : Converter) (rules : List Rule) :
    (converter.convertAll rules).policies =
      rules.filterMap fun rule => Outcome.policy? (converter.convert rule) := by
  rw [convertAll_eq, BatchResult.ofOutcomes, List.filterMap_map]
  rfl

theorem mem_policies_convertAll {policy : Policy} :
    policy ∈ (converter.convertAll rules).policies ↔
      ∃ rule ∈ rules, converter.convert rule = .ok (.converted policy) := by
  rw [policies_convertAll, List.mem_filterMap]
  simp only [Outcome.policy?_eq_some]

theorem summary_convertAll (converter : Converter) (rules : List Rule) :
    (converter.convertAll rules).summary =
      rules.map fun rule => SummaryEntry.ofOutcome rule.id (converter.convert rule) := by
  rw [convertAll_eq, BatchResult.ofOutcomes, List.map_map]
  rfl

/-- The line about a rule stands where the rule does, whatever surrounds it. -/
theorem getElem?_summary_convertAll (converter : Converter) (before : List Rule) (rule : Rule)
    (after : List Rule) :
    (converter.convertAll (before ++ rule :: after)).summary[before.length]? =
      some (.ofOutcome rule.id (converter.convert rule)) := by
  rw [summary_convertAll, List.getElem?_map, List.getElem?_append_right (Nat.le_refl _),
    Nat.sub_self]
  rfl

end Converter
end Admission
