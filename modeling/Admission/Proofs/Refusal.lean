import Admission.Proofs.Bridging

/-!
What a rule is refused for before anything is built from it. Main statement: of all that is wrong
with a rule the first thing shows, in the order of id, kind, disabled flag and then criterion by
criterion; so criteria that are added behind change no refusal, and custom criteria change nothing
at all.
-/

namespace Admission

/-- What is wrong with a criterion: its name, which no module checks, or else its operator. -/
inductive Criterion.AtFault (c : Criterion) : Failure → Prop
  | name (hplain : c.name ≠ "customPath" ∧ c.name ≠ "")
    (h : ∀ topic : Topic, c.name = topic.name →
      topic.isUnsupported = true ∨ topic.module? = none) :
    c.AtFault (.unsupportedCriterion c.name)
  | operator {topic : Topic} (hname : c.name = topic.name)
    (hsupported : topic.isUnsupported = false) (hmodule : topic.module?.isSome = true)
    (h : ∀ o ∈ topic.operators, o.text ≠ c.operator) :
    c.AtFault (.unsupportedOperator c.operator)

theorem Topic.isUnsupported_eq_false {topic : Topic} (h : topic.module?.isSome = true) :
    topic.isUnsupported = false := by
  cases topic <;> first | rfl | cases h

theorem Topic.accepts_eq_false_iff {topic : Topic} {operator : String} :
    topic.accepts operator = false ↔ ∀ o ∈ topic.operators, o.text ≠ operator := by
  simp [accepts]

namespace Criterion

variable {c : Criterion}

theorem isCustom_eq_false_iff : c.isCustom = false ↔ c.name ≠ "customPath" ∧ c.name ≠ "" := by
  rw [← Bool.not_eq_true, isCustom_iff, not_or]

theorem validate_of_custom (h : c.isCustom = true) : c.validate = .ok () := if_pos h

/-- Custom criteria have nothing wrong with them. -/
theorem AtFault.plain {failure : Failure} (h : c.AtFault failure) : c.isCustom = false := by
  cases h with
  | name hplain _ => exact isCustom_eq_false_iff.2 hplain
  | operator hname _ hmodule _ =>
    obtain ⟨m, hm⟩ := Option.isSome_iff_exists.1 hmodule
    exact isCustom_eq_false_of_module? (module?_eq_some_iff.2 ⟨_, hname, hm⟩)

theorem validate_eq_error_iff {failure : Failure} :
    c.validate = .error failure ↔ c.AtFault failure := by
  constructor
  · intro h
    unfold validate at h
    split at h
    · cases h
    · next hcustom =>
      have hplain := isCustom_eq_false_iff.1 (Bool.not_eq_true _ ▸ hcustom)
      split at h
      case h_1 hnone =>
        cases h
        refine .name hplain fun topic hname => ?_
        rw [topic?_eq_some_iff.2 hname] at hnone
        cases hnone
      case h_2 topic htopic =>
        have hname := topic?_eq_some_iff.1 htopic
        split at h
        · next hm =>
          cases h
          refine .name hplain fun other hother => .inr ?_
          rw [Topic.name_injective (hother.symm.trans hname)]
          exact Option.isNone_iff_eq_none.1 hm
        · next hm =>
          have hmodule : topic.module?.isSome = true := by
            simpa [Option.isSome_iff_ne_none] using hm
          split at h
          · cases h
          · next ho =>
            cases h
            exact .operator hname (Topic.isUnsupported_eq_false hmodule) hmodule
              (Topic.accepts_eq_false_iff.1 (Bool.not_eq_true _ ▸ ho))
  · intro h
    have hplain := h.plain
    unfold validate
    rw [hplain]
    cases h with
    | name _ hunchecked =>
      cases htopic : c.topic? with
      | none => rfl
      | some topic =>
        have hm : topic.module? = none := by
          rcases hunchecked topic (topic?_eq_some_iff.1 htopic) with hun | hm
          · by_contra hsome
            have hsupported := Topic.isUnsupported_eq_false (Option.isSome_iff_ne_none.2 hsome)
            rw [hun] at hsupported
            cases hsupported
          · exact hm
        simp [hm]
    | operator hname _ hmodule ho =>
      rw [topic?_eq_some_iff.2 hname]
      obtain ⟨m, hm⟩ := Option.isSome_iff_exists.1 hmodule
      simp [hm, Topic.accepts_eq_false_iff.2 ho]

theorem validate_eq_ok_iff_forall : c.validate = .ok () ↔ ∀ failure, ¬ c.AtFault failure := by
  simp only [← validate_eq_error_iff]
  cases c.validate <;> simp

end Criterion

/-- What a rule is refused for: the first thing that is wrong with it. -/
inductive Rule.RefusedFor (rule : Rule) : Failure → Prop
  | builtIn (h : rule.id < 1000) : rule.RefusedFor (.builtIn rule.id)
  | kind (hid : 1000 ≤ rule.id) (h : rule.kind ≠ .deny) :
    rule.RefusedFor (.unsupportedKind rule.kind.name)
  | disabled (hid : 1000 ≤ rule.id) (hkind : rule.kind = .deny) (h : rule.disabled = true) :
    rule.RefusedFor .disabled
  | criterion (hid : 1000 ≤ rule.id) (hkind : rule.kind = .deny) (hon : rule.disabled = false)
    {front back : List Criterion} {c : Criterion} {failure : Failure}
    (hsplit : rule.criteria = front ++ c :: back)
    (hfront : ∀ d ∈ front, ∀ other, ¬ d.AtFault other) (h : c.AtFault failure) :
    rule.RefusedFor failure

namespace Rule

variable {rule : Rule}

/-- Once a rule is of its own, denies and is on, its criteria decide. -/
theorem validate_eq_forM (hid : 1000 ≤ rule.id) (hkind : rule.kind = .deny)
    (hon : rule.disabled = false) : rule.validate = rule.criteria.forM Criterion.validate := by
  have hown : ¬ rule.id < firstOwnId := UInt32.not_lt.2 hid
  unfold validate
  rw [if_neg hown, if_neg (not_not.2 hkind), hon]
  rfl

theorem validate_of_refusedFor {failure : Failure} (h : rule.RefusedFor failure) :
    rule.validate = .error failure := by
  cases h with
  | builtIn h => exact rule.validate_eq_builtIn h
  | kind hid h =>
    have hown : ¬ rule.id < firstOwnId := UInt32.not_lt.2 hid
    unfold validate
    rw [if_neg hown, if_pos h]
  | disabled hid hkind h =>
    have hown : ¬ rule.id < firstOwnId := UInt32.not_lt.2 hid
    unfold validate
    rw [if_neg hown, if_neg (not_not.2 hkind), if_pos h]
  | criterion hid hkind hon hsplit hfront h =>
    rw [validate_eq_forM hid hkind hon, forM_eq_error_iff]
    exact ⟨_, _, _, hsplit, fun d hd => Criterion.validate_eq_ok_iff_forall.2 (hfront d hd),
      Criterion.validate_eq_error_iff.2 h⟩

theorem refusedFor_of_validate {failure : Failure} (h : rule.validate = .error failure) :
    rule.RefusedFor failure := by
  by_cases hid : rule.id < 1000
  · rw [rule.validate_eq_builtIn hid] at h
    cases h
    exact .builtIn hid
  · have hid' : 1000 ≤ rule.id := UInt32.not_lt.1 hid
    by_cases hkind : rule.kind = .deny
    · cases hon : rule.disabled with
      | true =>
        rw [validate_of_refusedFor (.disabled hid' hkind hon)] at h
        cases h
        exact .disabled hid' hkind hon
      | false =>
        rw [validate_eq_forM hid' hkind hon, forM_eq_error_iff] at h
        obtain ⟨front, c, back, hsplit, hfront, hc⟩ := h
        exact .criterion hid' hkind hon hsplit
          (fun d hd => Criterion.validate_eq_ok_iff_forall.1 (hfront d hd))
          (Criterion.validate_eq_error_iff.1 hc)
    · rw [validate_of_refusedFor (.kind hid' hkind)] at h
      cases h
      exact .kind hid' hkind

theorem validate_eq_error_iff {failure : Failure} :
    rule.validate = .error failure ↔ rule.RefusedFor failure :=
  ⟨refusedFor_of_validate, validate_of_refusedFor⟩

/-- What is checked before the criteria is the same for all lists of criteria. -/
theorem validate_eq_bind (rule : Rule) : ∃ before : Except Failure Unit, ∀ criteria,
    { rule with criteria : Rule }.validate =
      (before >>= fun _ => criteria.forM Criterion.validate) := by
  refine ⟨{ rule with criteria := [] : Rule }.validate, fun criteria => ?_⟩
  unfold validate
  dsimp only
  split
  · rfl
  · split
    · rfl
    · split <;> rfl

/-- Two lists of criteria are checked one after the other. -/
theorem validate_append (rule : Rule) (front back : List Criterion) :
    { rule with criteria := front ++ back : Rule }.validate =
      ({ rule with criteria := front : Rule }.validate >>= fun _ =>
        { rule with criteria := back : Rule }.validate) := by
  obtain ⟨before, hbefore⟩ := rule.validate_eq_bind
  have happend : (front ++ back).forM Criterion.validate =
      (front.forM Criterion.validate >>= fun _ => back.forM Criterion.validate) :=
    List.forM_append
  rw [hbefore, hbefore, hbefore, happend]
  cases before with
  | error failure => rfl
  | ok u => cases front.forM Criterion.validate <;> rfl

/-- Only the criteria that are not custom are looked at. -/
theorem validate_congr {criteria : List Criterion}
    (h : (criteria.filter fun c => !c.isCustom) = rule.criteria.filter fun c => !c.isCustom) :
    { rule with criteria : Rule }.validate = rule.validate := by
  have hpasses (c : Criterion) (hc : (!c.isCustom) = false) : c.validate = .ok () :=
    Criterion.validate_of_custom (by simpa using hc)
  obtain ⟨before, hbefore⟩ := rule.validate_eq_bind
  rw [hbefore criteria, ← forM_filter hpasses, h, forM_filter hpasses]
  exact (hbefore rule.criteria).symm

/-- A rule is refused for the first thing that is wrong with it, and not refused if nothing is: an
id below 1000, a kind other than deny, being disabled, then its criteria one after the other, of
which custom ones are never wrong and all others first by their names. So a refusal stays what it is
when criteria are added behind, two lists of criteria are refused as the first is and else as the
second is, and custom criteria can be put in and left out anywhere. -/
theorem verdict_of_validate (rule : Rule) :
    (∀ failure, rule.validate = .error failure ↔ rule.RefusedFor failure) ∧
    (rule.validate = .ok () ↔ ∀ failure, ¬ rule.RefusedFor failure) ∧
    (∀ more failure, rule.validate = .error failure →
      { rule with criteria := rule.criteria ++ more : Rule }.validate = .error failure) ∧
    (∀ front back, { rule with criteria := front ++ back : Rule }.validate =
      ({ rule with criteria := front : Rule }.validate >>= fun _ =>
        { rule with criteria := back : Rule }.validate)) ∧
    ∀ criteria : List Criterion,
      (criteria.filter fun c => c.name ≠ "customPath" ∧ c.name ≠ "") =
        (rule.criteria.filter fun c => c.name ≠ "customPath" ∧ c.name ≠ "") →
      { rule with criteria : Rule }.validate = rule.validate := by
  refine ⟨fun failure => validate_eq_error_iff, ?_, fun more failure h => ?_, rule.validate_append,
    fun criteria h => ?_⟩
  · simp only [← validate_eq_error_iff]
    cases rule.validate <;> simp
  · rw [validate_append, h, error_bind]
  · have hplain : (fun c : Criterion => decide (c.name ≠ "customPath" ∧ c.name ≠ "")) =
        fun c => !c.isCustom := by
      funext c
      rw [Bool.eq_iff_iff, decide_eq_true_iff, Bool.not_eq_true', Criterion.isCustom_eq_false_iff]
    rw [hplain] at h
    exact validate_congr h

/-- A rule with a custom criterion in front of three that no policy can be made from, each for
another reason. -/
def manyFaults : Rule where
  id := 1001
  criteria := [{ name := "" }, { name := "labels", operator := "regex", value := "a" },
    { name := "imageSigned", operator := "=", value := "true" },
    { name := "bogus", operator := "??" }]

theorem verdict_of_manyFaults :
    manyFaults.RefusedFor (.unsupportedOperator "regex") ∧
      { manyFaults with criteria := manyFaults.criteria ++ [{ name := "" }] : Rule }.validate =
        .error (.unsupportedOperator "regex") ∧
      { manyFaults with criteria := manyFaults.criteria.tail : Rule }.validate =
        manyFaults.validate := by
  obtain ⟨hrefused, -, hmore, -, hcustom⟩ := verdict_of_validate manyFaults
  have hfails : manyFaults.validate = .error (.unsupportedOperator "regex") := by decide
  exact ⟨(hrefused _).1 hfails, hmore _ _ hfails, hcustom _ rfl⟩

end Rule
end Admission
