import Admission.Pattern
import Admission.Proofs.Batch

/-!
Rules that are built into the source platform. Main statement: such a rule without custom criteria
is refused as built in, and noted so, exactly when its bundles can be written out; this happens
before its id is looked at, and a bundle that cannot be written out is the failure that shows.
-/

namespace Admission

/-- Every bundle among the criteria has the operator that bundles take. -/
def BundlesReadable (criteria : List Criterion) : Prop :=
  ∀ c ∈ criteria, c.name = "pspCompliance" → c.operator = "="

theorem exists_first_unreadable {criteria : List Criterion} (h : ¬ BundlesReadable criteria) :
    ∃ front c back, criteria = front ++ c :: back ∧ BundlesReadable front ∧
      c.name = "pspCompliance" ∧ c.operator ≠ "=" := by
  induction criteria with
  | nil => exact absurd (List.forall_mem_nil _) h
  | cons c cs ih =>
    by_cases hc : c.name = "pspCompliance" ∧ c.operator ≠ "="
    · exact ⟨[], c, cs, rfl, List.forall_mem_nil _, hc⟩
    · have hread : c.name = "pspCompliance" → c.operator = "=" := by simpa using hc
      have hcs : ¬ BundlesReadable cs := fun hcs => h (List.forall_mem_cons.2 ⟨hread, hcs⟩)
      obtain ⟨front, d, back, rfl, hfront, hd⟩ := ih hcs
      exact ⟨c :: front, d, back, rfl, List.forall_mem_cons.2 ⟨hread, hfront⟩, hd⟩

theorem Criterion.expand_eq_error {c : Criterion} (hname : c.name = "pspCompliance")
    (ho : c.operator ≠ "=") : c.expand = .error (.unsupportedOperator c.operator) := by
  have htopic : c.topic? = some .pspCompliance := Criterion.topic?_eq_some_iff.2 hname
  have hbundle : (Topic.ofName? c.name).any Topic.isBundle = true :=
    (Topic.any_ofName?_eq (fun _ => Topic.isBundle_iff) c.name).2 hname
  have hrefused : Topic.pspCompliance.accepts c.operator = false := by
    simp only [Topic.accepts, Topic.operators, List.any_cons, List.any_nil, Bool.or_false,
      beq_eq_false_iff_ne]
    exact Ne.symm ho
  unfold Criterion.expand Criterion.bundle?
  rw [if_pos hbundle, htopic, Option.any_some, hrefused]
  rfl

namespace Rule

variable {rule : Rule}

/-- The first bundle that cannot be written out decides the failure. -/
theorem expand_eq_error {front back : List Criterion} {c : Criterion}
    (hsplit : rule.criteria = front ++ c :: back) (hfront : BundlesReadable front)
    (hname : c.name = "pspCompliance") (ho : c.operator ≠ "=") :
    rule.expand = .error (.unsupportedOperator c.operator) := by
  unfold expand
  rw [hsplit, expandAll_append, expandAll_eq_ok.2 ⟨hfront, rfl⟩, ok_bind, expandAll,
    Criterion.expand_eq_error hname ho]
  rfl

/-- Writing bundles out brings in no custom criterion and takes none away. -/
theorem hasCustom_writtenOut : rule.writtenOut.hasCustom = rule.hasCustom := by
  have hwritten (c : Criterion) : c.written.any Criterion.isCustom = c.isCustom := by
    unfold Criterion.written
    split
    · next h =>
      rw [Criterion.isCustom, h]
      decide
    · rw [List.any_cons, List.any_nil, Bool.or_false]
  change (rule.criteria.flatMap Criterion.written).any Criterion.isCustom = _
  rw [List.any_flatMap]
  exact congrArg rule.criteria.any (funext hwritten)

theorem validate_eq_builtIn (rule : Rule) (h : rule.id < 1000) :
    rule.validate = .error (.builtIn rule.id) := by
  unfold validate
  exact if_pos h

end Rule

theorem Failure.message_unsupportedOperator_ne (operator : String) :
    (Failure.unsupportedOperator operator).message ≠ "neuvector environment only rule" := by
  intro h
  have hhead := congrArg (fun s : String => s.toList.head?) h
  have hoperator : "unsupported operator: ".toList.head? = some 'u' := by decide
  have hbuiltIn : "neuvector environment only rule".toList.head? = some 'n' := by decide
  dsimp only [Failure.message] at hhead
  rw [String.toList_append, List.head?_append, hoperator, hbuiltIn] at hhead
  cases hhead

namespace Converter

variable [Pattern.Engine] {converter : Converter} {rule : Rule}

theorem convert_eq_builtIn (hid : rule.id < 1000) (hplain : rule.hasCustom = false)
    (hbundles : BundlesReadable rule.criteria) :
    converter.convert rule = .error (.builtIn rule.id) := by
  have hcustom : rule.writtenOut.hasCustom = false := by rw [Rule.hasCustom_writtenOut, hplain]
  have hrefused : rule.writtenOut.validate = .error (.builtIn rule.id) :=
    rule.writtenOut.validate_eq_builtIn hid
  unfold convert
  rw [Rule.expand_eq_ok.2 ⟨hbundles, rfl⟩, ok_bind, hcustom, hrefused]
  rfl

theorem convert_eq_unsupportedOperator {front back : List Criterion} {c : Criterion}
    (hsplit : rule.criteria = front ++ c :: back) (hfront : BundlesReadable front)
    (hname : c.name = "pspCompliance") (ho : c.operator ≠ "=") :
    converter.convert rule = .error (.unsupportedOperator c.operator) := by
  unfold convert
  rw [Rule.expand_eq_error hsplit hfront hname ho]
  rfl

/-- A built-in rule is refused for its id or for a bundle, and for the id just when no bundle is in
the way. -/
theorem convert_builtIn_cases (converter : Converter) (hid : rule.id < 1000)
    (hplain : rule.hasCustom = false) :
    (BundlesReadable rule.criteria ∧ converter.convert rule = .error (.builtIn rule.id)) ∨
      (¬ BundlesReadable rule.criteria ∧
        ∃ operator, converter.convert rule = .error (.unsupportedOperator operator)) := by
  by_cases h : BundlesReadable rule.criteria
  · exact .inl ⟨h, convert_eq_builtIn hid hplain h⟩
  · obtain ⟨front, c, back, hsplit, hfront, hname, ho⟩ := exists_first_unreadable h
    exact .inr ⟨h, c.operator, convert_eq_unsupportedOperator hsplit hfront hname ho⟩

/-- A built-in rule without custom criteria is refused as built in, and its line in every batch says
so, exactly when its bundles can be written out; else the first that cannot shows. -/
theorem builtIn_reported_iff (converter : Converter) {rule : Rule} (hid : rule.id < 1000)
    (hplain : rule.hasCustom = false) :
    (converter.convert rule = .error (.builtIn rule.id) ↔ BundlesReadable rule.criteria) ∧
    (∀ front c back, rule.criteria = front ++ c :: back → BundlesReadable front →
      c.name = "pspCompliance" → c.operator ≠ "=" →
      converter.convert rule = .error (.unsupportedOperator c.operator)) ∧
    ∀ before after, ∃ entry,
      (converter.convertAll (before ++ rule :: after)).summary[before.length]? = some entry ∧
      entry.id = rule.id ∧ entry.status = "Skipped" ∧
      (entry.notes = "neuvector environment only rule" ↔ BundlesReadable rule.criteria) := by
  refine ⟨?_, fun front c back => convert_eq_unsupportedOperator, fun before after => ?_⟩
  · rcases converter.convert_builtIn_cases hid hplain with ⟨h, heq⟩ | ⟨h, o, heq⟩
    · exact iff_of_true heq h
    · rw [heq]
      exact iff_of_false (fun habsurd => nomatch habsurd) h
  · refine ⟨_, converter.getElem?_summary_convertAll before rule after, ?_⟩
    rcases converter.convert_builtIn_cases hid hplain with ⟨h, heq⟩ | ⟨h, o, heq⟩
    · rw [heq]
      exact ⟨rfl, rfl, iff_of_true rfl h⟩
    · rw [heq]
      exact ⟨rfl, rfl, iff_of_false (Failure.message_unsupportedOperator_ne o) h⟩

end Converter

def Rule.builtInUnknown : Rule where
  id := 999
  criteria := [{ name := "bogus", operator := "??" }]
  kind := .exception
  disabled := true

theorem Converter.builtIn_reported_builtInUnknown :
    Converter.plain.convert .builtInUnknown = .error (.builtIn 999) ∧
      ∃ entry, (Converter.plain.convertAll [.builtInUnknown]).summary[0]? = some entry ∧
        entry.status = "Skipped" ∧ entry.notes = "neuvector environment only rule" := by
  have hid : Rule.builtInUnknown.id < 1000 := by decide
  have hplain : Rule.builtInUnknown.hasCustom = false := by decide
  have hread : BundlesReadable Rule.builtInUnknown.criteria := by
    intro c hc
    rw [List.mem_singleton.1 hc]
    decide
  obtain ⟨hreported, -, hbatch⟩ := Converter.builtIn_reported_iff Converter.plain hid hplain
  obtain ⟨entry, hentry, -, hstatus, hnotes⟩ := hbatch [] []
  exact ⟨hreported.2 hread, entry, hentry, hstatus, hnotes.2 hread⟩

/-- A built-in rule with a bundle under an operator that bundles do not take. -/
def Rule.builtInBundle : Rule where
  id := 12
  criteria := [{ name := "pspCompliance", operator := "containsAny", value := "true" }]

theorem Converter.builtInBundle_not_reported :
    Rule.builtInBundle.id < 1000 ∧ Rule.builtInBundle.hasCustom = false ∧
      Converter.plain.convert .builtInBundle = .error (.unsupportedOperator "containsAny") ∧
      (Converter.plain.convertAll [.builtInBundle]).summary =
        [⟨12, false, "unsupported operator: containsAny"⟩] := by
  have hsplit : Rule.builtInBundle.criteria =
      [] ++ { name := "pspCompliance", operator := "containsAny", value := "true" } :: [] := rfl
  have hrefused : Converter.plain.convert .builtInBundle =
      .error (.unsupportedOperator "containsAny") :=
    convert_eq_unsupportedOperator hsplit (List.forall_mem_nil _) rfl (by decide)
  refine ⟨by decide, by decide, hrefused, ?_⟩
  rw [summary_convertAll, List.map_singleton, hrefused]
  decide

end Admission
