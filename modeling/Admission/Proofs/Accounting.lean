import Admission.Proofs.Batch

/-!
What a batch amounts to. It can be converted rule by rule, each outcome filed behind the earlier
ones. Main statement: the result of two batches in a row is that of the one followed by that of the
other, and each result accounts for every rule: by a line of its own, and by what it became or by
the line that says why not.
-/

namespace Admission

def Outcome.isConverted : Outcome → Bool
  | converted _ => true
  | diverted _ => false

namespace BatchResult

/-- One result behind the other, list by list. -/
instance : Append BatchResult where
  append result later :=
    { policies := result.policies ++ later.policies
      diverted := result.diverted ++ later.diverted
      summary := result.summary ++ later.summary }

theorem ofOutcomes_append (outcomes more : List (UInt32 × Except Failure Outcome)) :
    ofOutcomes (outcomes ++ more) = ofOutcomes outcomes ++ ofOutcomes more := by
  unfold ofOutcomes
  rw [List.filterMap_append, List.filterMap_append, List.map_append]
  rfl

theorem file_summary (result : BatchResult) (id : UInt32) (outcome : Except Failure Outcome) :
    (result.file id outcome).summary = result.summary ++ [.ofOutcome id outcome] := by
  rcases outcome with _ | _ | _ <;> rfl

theorem map_policies_file (result : BatchResult) (id : UInt32)
    (outcome : Except Failure Outcome) :
    (result.file id outcome).policies.map .converted =
      result.policies.map .converted ++ outcome.toOption.toList.filter Outcome.isConverted := by
  rcases outcome with failure | policy | artifact
  case error => exact (List.append_nil _).symm
  case ok.converted => exact List.map_append
  case ok.diverted => exact (List.append_nil _).symm

theorem map_diverted_file (result : BatchResult) (id : UInt32)
    (outcome : Except Failure Outcome) :
    (result.file id outcome).diverted.map .diverted =
      result.diverted.map .diverted ++
        outcome.toOption.toList.filter fun outcome => !outcome.isConverted := by
  rcases outcome with failure | policy | artifact
  case error => exact (List.append_nil _).symm
  case ok.converted => exact (List.append_nil _).symm
  case ok.diverted => exact List.map_append

/-- One more rule is skipped, converted or diverted, and only one of the three. -/
theorem count_file (result : BatchResult) (id : UInt32) (outcome : Except Failure Outcome) :
    (result.file id outcome).skipped + (result.file id outcome).policies.length +
        (result.file id outcome).diverted.length =
      result.skipped + result.policies.length + result.diverted.length + 1 := by
  unfold skipped
  rw [file_summary, List.countP_append]
  rcases outcome with failure | policy | artifact <;>
    simp only [file, SummaryEntry.ofOutcome, List.countP_singleton, List.length_append,
      List.length_singleton, Bool.not_true, Bool.not_false, if_true, Bool.false_eq_true,
      if_false] <;>
    omega

end BatchResult

/-- The line says of the rule what became of it. -/
structure SummaryEntry.Reports (entry : SummaryEntry) (rule : Rule)
    (outcome : Except Failure Outcome) : Prop where
  id : entry.id = rule.id
  ok : entry.status = "OK" ↔ Succeeds outcome
  skipped : ∀ failure, outcome = .error failure →
    entry.status = "Skipped" ∧ entry.notes = failure.message

theorem SummaryEntry.reports_ofOutcome (rule : Rule) (outcome : Except Failure Outcome) :
    (ofOutcome rule.id outcome).Reports rule outcome := by
  cases outcome with
  | error failure =>
    have hskipped : ¬ "Skipped" = "OK" := by decide
    refine ⟨rfl, iff_of_false hskipped (not_succeeds_error failure), ?_⟩
    rintro _ ⟨⟩
    exact ⟨rfl, rfl⟩
  | ok outcome =>
    have hok : (ofOutcome rule.id (.ok outcome)).status = "OK" := by
      cases outcome <;> rfl
    refine ⟨by cases outcome <;> rfl, iff_of_true hok (succeeds_ok outcome), ?_⟩
    rintro _ ⟨⟩

variable [Pattern.Engine]

/-- What became of the rules that were not skipped, in the order of the rules. -/
def Converter.successes (converter : Converter) (rules : List Rule) : List Outcome :=
  rules.filterMap fun rule => (converter.convert rule).toOption

namespace BatchResult

/-- The result tells of every rule what became of it, keeps everything that was made, in the order
of the rules and apart by kind, and counts no rule twice. -/
structure Accounts (result : BatchResult) (converter : Converter) (rules : List Rule) : Prop where
  lines : List.Forall₂ (fun rule entry => entry.Reports rule (converter.convert rule)) rules
    result.summary
  policies : result.policies.map Outcome.converted =
    (converter.successes rules).filter Outcome.isConverted
  diverted : result.diverted.map Outcome.diverted =
    (converter.successes rules).filter fun outcome => !outcome.isConverted
  total : result.skipped + result.policies.length + result.diverted.length = rules.length

variable {result : BatchResult} {converter : Converter} {rules : List Rule}

theorem accounts_nil (converter : Converter) : ({} : BatchResult).Accounts converter [] where
  lines := .nil
  policies := rfl
  diverted := rfl
  total := rfl

theorem successes_concat (converter : Converter) (rules : List Rule) (rule : Rule) :
    converter.successes (rules ++ [rule]) =
      converter.successes rules ++ (converter.convert rule).toOption.toList := by
  unfold Converter.successes
  rw [List.filterMap_append]
  cases h : converter.convert rule with
  | error failure => rw [List.filterMap_cons_none (by rw [h]; rfl)]; rfl
  | ok outcome => rw [List.filterMap_cons_some (by rw [h]; rfl)]; rfl

/-- A result that accounts for some rules accounts for one more once its outcome is filed. -/
theorem Accounts.file (h : result.Accounts converter rules) (rule : Rule) :
    (result.file rule.id (converter.convert rule)).Accounts converter (rules ++ [rule]) := by
  constructor
  case lines =>
    have hreport := SummaryEntry.reports_ofOutcome rule (converter.convert rule)
    rw [file_summary]
    exact List.rel_append h.lines (.cons hreport .nil)
  case policies =>
    rw [successes_concat, List.filter_append, ← h.policies, map_policies_file]
  case diverted =>
    rw [successes_concat, List.filter_append, ← h.diverted, map_diverted_file]
  case total =>
    have htotal := h.total
    have hone := count_file result rule.id (converter.convert rule)
    rw [List.length_append, List.length_singleton]
    omega

end BatchResult

namespace Converter

theorem accounts_convertAll (converter : Converter) (rules : List Rule) :
    (converter.convertAll rules).Accounts converter rules := by
  induction rules using List.reverseRecOn with
  | nil => exact BatchResult.accounts_nil converter
  | append_singleton rules rule ih =>
    rw [convertAll_concat]
    exact ih.file rule

/-- What a batch makes of its first rules does not depend on those behind, nor what it makes of the
last on those before. -/
theorem convertAll_append (converter : Converter) (rules more : List Rule) :
    converter.convertAll (rules ++ more) =
      converter.convertAll rules ++ converter.convertAll more := by
  simp only [convertAll_eq, List.map_append, BatchResult.ofOutcomes_append]

/-- Two batches in a row give what each gives by itself, one behind the other; in every batch the
outcomes of each kind stand in the order of the rules, and the result accounts for all of its rules. -/
theorem convertAll_accounting (converter : Converter) :
    (∀ rules more : List Rule, converter.convertAll (rules ++ more) =
      converter.convertAll rules ++ converter.convertAll more) ∧
    ∀ rules : List Rule,
      converter.convertAll rules =
          .ofOutcomes (rules.map fun rule => (rule.id, converter.convert rule)) ∧
        (converter.convertAll rules).Accounts converter rules :=
  ⟨converter.convertAll_append, fun rules =>
    ⟨converter.convertAll_eq rules, converter.accounts_convertAll rules⟩⟩

end Converter
end Admission
