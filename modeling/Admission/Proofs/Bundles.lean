import Admission.Proofs.BuiltIn

/-!
What bundles are written out to. Main statement: a rule cannot be written out just when a bundle has
a foreign operator, and the first such bundle shows. Otherwise each bundle gives way, where it
stands, to the same six criteria and all else stays; no bundle is left, and whether the rule is
custom and whether it needs a group can be told as well before as after.
-/

namespace Admission

def Criterion.practices : List Criterion :=
  [{ name := "shareIpcWithHost", operator := "=", value := "true" },
    { name := "shareNetWithHost", operator := "=", value := "true" },
    { name := "sharePidWithHost", operator := "=", value := "true" },
    { name := "runAsPrivileged", operator := "=", value := "true" },
    { name := "runAsRoot", operator := "=", value := "true" },
    { name := "allowPrivEscalation", operator := "=", value := "true" }]

/-- The second list is the first with the six criteria in the place of each bundle, and with every
other criterion as it is. -/
inductive WritesOut : List Criterion → List Criterion → Prop
  | nil : WritesOut [] []
  | bundle {c : Criterion} {cs out : List Criterion} (hname : c.name = "pspCompliance")
    (h : WritesOut cs out) : WritesOut (c :: cs) (Criterion.practices ++ out)
  | other {c : Criterion} {cs out : List Criterion} (hname : c.name ≠ "pspCompliance")
    (h : WritesOut cs out) : WritesOut (c :: cs) (c :: out)

namespace Criterion

variable {c : Criterion}

theorem isBundle_iff : c.isBundle = true ↔ c.name = "pspCompliance" :=
  Topic.any_ofName?_eq (fun _ => Topic.isBundle_iff) c.name

theorem written_of_bundle (h : c.name = "pspCompliance") : c.written = practices := if_pos h

theorem written_of_ne (h : c.name ≠ "pspCompliance") : c.written = [c] := if_neg h

end Criterion

theorem writesOut_flatMap (criteria : List Criterion) :
    WritesOut criteria (criteria.flatMap Criterion.written) := by
  induction criteria with
  | nil => exact .nil
  | cons c cs ih =>
    rw [List.flatMap_cons]
    by_cases h : c.name = "pspCompliance"
    · rw [Criterion.written_of_bundle h]
      exact .bundle h ih
    · rw [Criterion.written_of_ne h]
      exact .other h ih

/-- Nothing that is written out is a bundle in turn. -/
theorem WritesOut.name_ne {criteria out : List Criterion} (h : WritesOut criteria out) :
    ∀ c ∈ out, c.name ≠ "pspCompliance" := by
  have hpractices : ∀ c ∈ Criterion.practices, c.name ≠ "pspCompliance" := by decide
  induction h with
  | nil => exact List.forall_mem_nil _
  | bundle _ _ ih => exact List.forall_mem_append.2 ⟨hpractices, ih⟩
  | other hname _ ih => exact List.forall_mem_cons.2 ⟨hname, ih⟩

/-- Where there is no bundle there is nothing to write out. -/
theorem flatMap_written_of_ne {criteria : List Criterion}
    (h : ∀ c ∈ criteria, c.name ≠ "pspCompliance") :
    criteria.flatMap Criterion.written = criteria := by
  induction criteria with
  | nil => rfl
  | cons c cs ih =>
    rw [List.forall_mem_cons] at h
    rw [List.flatMap_cons, Criterion.written_of_ne h.1, ih h.2]
    rfl

namespace Rule

variable {rule : Rule}

/-- Two checks that go different ways need a group. -/
theorem needsGroup_of_ne {c d : Criterion} (hc : c ∈ rule.checks) (hd : d ∈ rule.checks)
    (hne : c.routeKey ≠ d.routeKey) : rule.needsGroup = true := by
  have hckey : c.routeKey ∈ rule.checks.map Criterion.routeKey := List.mem_map_of_mem hc
  have hdkey : d.routeKey ∈ rule.checks.map Criterion.routeKey := List.mem_map_of_mem hd
  unfold needsGroup
  rw [Bool.or_eq_true]
  refine .inr ?_
  cases hkeys : rule.checks.map Criterion.routeKey with
  | nil =>
    rw [hkeys] at hckey
    cases hckey
  | cons key keys =>
    rw [hkeys] at hckey hdkey
    dsimp only
    by_contra hsame
    have hall : ∀ k ∈ key :: keys, k = key := by simpa using hsame
    exact hne ((hall _ hckey).trans (hall _ hdkey).symm)

theorem needsGroup_of_bundle {c : Criterion} (hc : c ∈ rule.criteria)
    (hname : c.name = "pspCompliance") : rule.needsGroup = true := by
  have hgate : c.isGate = false := by
    rw [← Bool.not_eq_true, Criterion.isGate_iff, hname]
    decide
  have hcheck : c ∈ rule.checks := List.mem_filter.2 ⟨hc, by rw [hgate]; rfl⟩
  unfold needsGroup
  rw [Bool.or_eq_true]
  exact .inl (List.any_eq_true.2 ⟨c, hcheck, Criterion.isBundle_iff.2 hname⟩)

/-- What a bundle stands for needs a group, as the bundle does. -/
theorem needsGroup_writtenOut (rule : Rule) : rule.writtenOut.needsGroup = rule.needsGroup := by
  by_cases h : ∃ c ∈ rule.criteria, c.name = "pspCompliance"
  · obtain ⟨c, hc, hname⟩ := h
    have hchecks (topic : Topic) (ht : topic ∈ Topic.bundled)
        (hgate : (Criterion.ofBundled topic).isGate = false) :
        Criterion.ofBundled topic ∈ rule.writtenOut.checks := by
      refine List.mem_filter.2 ⟨List.mem_flatMap.2 ⟨c, hc, ?_⟩, by rw [hgate]; rfl⟩
      rw [Criterion.written_of_bundle hname]
      exact List.mem_map_of_mem ht
    have hroot := hchecks .runAsRoot (by decide) (by decide)
    have hprivileged := hchecks .runAsPrivileged (by decide) (by decide)
    rw [needsGroup_of_ne hroot hprivileged (by decide), needsGroup_of_bundle hc hname]
  · have hnone : ∀ c ∈ rule.criteria, c.name ≠ "pspCompliance" := by
      intro c hc hname
      exact h ⟨c, hc, hname⟩
    have hsame : rule.writtenOut.checks = rule.checks := by
      change (rule.criteria.flatMap Criterion.written).filter _ = _
      rw [flatMap_written_of_ne hnone]
      rfl
    exact needsGroup_congr hsame

theorem succeeds_expand : Succeeds rule.expand ↔ BundlesReadable rule.criteria := by
  constructor
  · rintro ⟨out, hout⟩
    exact (expand_eq_ok.1 hout).1
  · intro h
    exact ⟨rule.writtenOut, expand_eq_ok.2 ⟨h, rfl⟩⟩

theorem expand_eq_error_iff {failure : Failure} : rule.expand = .error failure ↔
    ∃ front c back, rule.criteria = front ++ c :: back ∧ BundlesReadable front ∧
      c.name = "pspCompliance" ∧ c.operator ≠ "=" ∧ failure = .unsupportedOperator c.operator := by
  constructor
  · intro h
    have hread : ¬ BundlesReadable rule.criteria := by
      rw [← succeeds_expand, not_succeeds_iff]
      exact ⟨failure, h⟩
    obtain ⟨front, c, back, hsplit, hfront, hname, ho⟩ := exists_first_unreadable hread
    rw [expand_eq_error hsplit hfront hname ho] at h
    exact ⟨front, c, back, hsplit, hfront, hname, ho, (Except.error.inj h).symm⟩
  · rintro ⟨front, c, back, hsplit, hfront, hname, ho, rfl⟩
    exact expand_eq_error hsplit hfront hname ho

theorem expand_eq (rule : Rule) :
    rule.expand = (expandAll rule.criteria).map fun criteria => { rule with criteria } := by
  unfold expand
  cases expandAll rule.criteria <;> rfl

/-- Two lists of criteria are written out each for itself. -/
theorem expand_append (rule : Rule) (front back : List Criterion) :
    { rule with criteria := front ++ back : Rule }.expand = (do
      let first ← { rule with criteria := front : Rule }.expand
      let second ← { rule with criteria := back : Rule }.expand
      return { rule with criteria := first.criteria ++ second.criteria }) := by
  simp only [expand_eq, expandAll_append]
  cases expandAll front with
  | error failure => rfl
  | ok first => cases expandAll back <;> rfl

/-- A rule cannot be written out exactly when a bundle has another operator than `=`, and the
failure names the operator of the first such bundle. Else only the criteria change: each bundle
becomes the same six where it stands, and every other criterion is kept, with its parts and in its
place. So the criteria are written out list by list, no bundle is left and a second time changes
nothing; and whether the rule has a custom criterion, and whether it needs a group, is the same
before and after. -/
theorem rewriting_of_expand (rule : Rule) :
    (Succeeds rule.expand ↔ ∀ c ∈ rule.criteria, c.name = "pspCompliance" → c.operator = "=") ∧
    (∀ failure, rule.expand = .error failure ↔
      ∃ front c back, rule.criteria = front ++ c :: back ∧
        (∀ d ∈ front, d.name = "pspCompliance" → d.operator = "=") ∧
        c.name = "pspCompliance" ∧ c.operator ≠ "=" ∧
        failure = .unsupportedOperator c.operator) ∧
    (∀ out, rule.expand = .ok out →
      out = { rule with criteria := out.criteria } ∧ WritesOut rule.criteria out.criteria ∧
      (∀ c ∈ out.criteria, c.isBundle = false) ∧ out.expand = .ok out ∧
      out.hasCustom = rule.hasCustom ∧ out.needsGroup = rule.needsGroup) ∧
    ∀ front back, { rule with criteria := front ++ back : Rule }.expand = (do
      let first ← { rule with criteria := front : Rule }.expand
      let second ← { rule with criteria := back : Rule }.expand
      return { rule with criteria := first.criteria ++ second.criteria }) := by
  refine ⟨succeeds_expand, fun failure => expand_eq_error_iff, fun out hout => ?_,
    rule.expand_append⟩
  obtain ⟨-, rfl⟩ := expand_eq_ok.1 hout
  have hwrites : WritesOut rule.criteria rule.writtenOut.criteria := writesOut_flatMap rule.criteria
  have hnone : ∀ c ∈ rule.writtenOut.criteria, c.name ≠ "pspCompliance" := hwrites.name_ne
  refine ⟨rfl, hwrites, ?_, ?_, hasCustom_writtenOut, rule.needsGroup_writtenOut⟩
  · intro c hc
    rw [← Bool.not_eq_true, Criterion.isBundle_iff]
    exact hnone c hc
  · refine expand_eq_ok.2 ⟨fun c hc hname => absurd hname (hnone c hc), ?_⟩
    have hagain : rule.writtenOut.written = rule.written := flatMap_written_of_ne hnone
    exact congrArg (fun criteria => { rule with criteria : Rule }) hagain.symm

/-- A rule whose bundle stands between a gate and two criteria that no module checks. -/
def bundleBetween : Rule where
  id := 7
  criteria := [{ name := "namespace", operator := "containsAny", value := "dev" },
    { name := "pspCompliance", operator := "=", value := "false" },
    { name := "customPath", parts := [{ name := "pspCompliance", operator := ">" }] },
    { name := "bogus", operator := "??" }]
  kind := .exception
  comment := "psp"

theorem rewriting_of_bundleBetween :
    (∃ out, bundleBetween.expand = .ok out ∧ WritesOut bundleBetween.criteria out.criteria ∧
      out.criteria.length = 9 ∧ out.comment = "psp" ∧ out.expand = .ok out ∧
      out.hasCustom = true ∧ out.needsGroup = true) ∧
    builtInBundle.expand = .error (.unsupportedOperator "containsAny") := by
  obtain ⟨hsucceeds, -, hout, -⟩ := rewriting_of_expand bundleBetween
  obtain ⟨out, hexpand⟩ := hsucceeds.2 (by decide)
  obtain ⟨-, hwrites, -, hagain, hcustom, hneeds⟩ := hout out hexpand
  have hcount : out.criteria.length = 9 ∧ out.comment = "psp" := by
    cases hexpand
    exact ⟨rfl, rfl⟩
  refine ⟨⟨out, hexpand, hwrites, hcount.1, hcount.2, hagain, ?_, ?_⟩, ?_⟩
  · rw [hcustom]
    decide
  · rw [hneeds]
    decide
  · obtain ⟨-, hfailure, -, -⟩ := rewriting_of_expand builtInBundle
    exact (hfailure _).2 ⟨[], _, [], rfl, List.forall_mem_nil _, rfl, by decide, rfl⟩

end Rule
end Admission
