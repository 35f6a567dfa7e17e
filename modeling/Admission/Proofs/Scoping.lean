import Admission.Proofs.BuiltIn

/-!
Scoping a rule to namespaces. Main statement: a namespace criterion put anywhere into a rule gives
the policy of the rule its selector and changes nothing else in it; a second one has the rule
refused.
-/

namespace Admission

def Policy.withSelector (selector : Option Selector) : Policy → Policy
  | .single policy => .single { policy with selector }
  | .group policy => .group { policy with selector }

/-- The rule with a criterion put in at a position, or at the end if it has no such position. -/
def Rule.insertAt (rule : Rule) (position : Nat) (c : Criterion) : Rule :=
  { rule with criteria := rule.criteria.take position ++ c :: rule.criteria.drop position }

/-- The criterion scopes a rule to namespaces, which are compared with its items in this way. -/
structure Criterion.Scopes (c : Criterion) (comparison : SelectorOperator) : Prop where
  name : c.name = "namespace"
  operator : (c.operator = "containsAny" ∧ comparison = .inValues) ∨
    (c.operator = "notContainsAny" ∧ comparison = .notInValues)

namespace Criterion.Scopes

variable {c : Criterion} {comparison : SelectorOperator}

theorem isGate (h : c.Scopes comparison) : c.isGate = true := Criterion.isGate_iff.2 h.name

theorem written (h : c.Scopes comparison) : c.written = [c] := by
  have hname : ¬ c.name = "pspCompliance" := by
    rw [h.name]
    decide
  exact if_neg hname

theorem accepts (h : c.Scopes comparison) : Topic.namespaceName.accepts c.operator = true := by
  rcases h.operator with ⟨ho, -⟩ | ⟨ho, -⟩ <;> rw [ho] <;> decide

theorem ofGate? (h : c.Scopes comparison) :
    SelectorOperator.ofGate? c.operator = some comparison := by
  rcases h.operator with ⟨ho, rfl⟩ | ⟨ho, rfl⟩ <;> rw [ho] <;> decide

theorem ofGate (h : c.Scopes comparison) (hitems : c.items ≠ []) :
    Selector.ofGate c =
      .ok ⟨[{ key := namespaceLabel, operator := comparison, values := c.items }]⟩ := by
  unfold Selector.ofGate
  rw [h.ofGate?]
  exact if_neg hitems

end Criterion.Scopes

namespace Rule

variable {rule : Rule} {c : Criterion} {comparison : SelectorOperator}

theorem mem_insertAt {position : Nat} {d : Criterion} :
    d ∈ (rule.insertAt position c).criteria ↔ d = c ∨ d ∈ rule.criteria := by
  have hsplit : d ∈ rule.criteria ↔
      d ∈ rule.criteria.take position ∨ d ∈ rule.criteria.drop position := by
    rw [← List.mem_append, List.take_append_drop]
  unfold insertAt
  rw [List.mem_append, List.mem_cons, hsplit]
  exact or_left_comm

/-- A gate is no check, wherever it stands. -/
theorem checks_insertAt (h : c.isGate = true) (position : Nat) :
    (rule.insertAt position c).checks = rule.checks := by
  unfold checks insertAt
  rw [List.filter_append, List.filter_cons_of_neg (by simp [h]), ← List.filter_append,
    List.take_append_drop]

theorem length_gates_insertAt (h : c.isGate = true) (position : Nat) :
    (rule.insertAt position c).gates.length = rule.gates.length + 1 := by
  have hsplit : rule.gates = (rule.criteria.take position).filter Criterion.isGate ++
      (rule.criteria.drop position).filter Criterion.isGate := by
    rw [← List.filter_append, List.take_append_drop]
    rfl
  rw [hsplit]
  unfold gates insertAt
  rw [List.filter_append, List.filter_cons_of_pos h, List.length_append, List.length_append,
    List.length_cons, Nat.add_assoc]

theorem gates_insertAt_of_nil (h : c.isGate = true) (hnone : rule.gates = []) (position : Nat) :
    (rule.insertAt position c).gates = [c] := by
  have hmem : c ∈ (rule.insertAt position c).gates :=
    List.mem_filter.2 ⟨mem_insertAt.2 (.inl rfl), h⟩
  have hlength := rule.length_gates_insertAt h position
  rw [hnone] at hlength
  obtain ⟨d, hd⟩ := List.length_eq_one_iff.1 hlength
  rw [hd, List.mem_singleton] at hmem
  rw [hd, hmem]

/-- Bundles hold no gates. -/
theorem gates_writtenOut (rule : Rule) : rule.writtenOut.gates = rule.gates := by
  have hwritten (c : Criterion) :
      c.written.filter Criterion.isGate = [c].filter Criterion.isGate := by
    unfold Criterion.written
    split
    · next h =>
      have hgate : ¬ c.isGate = true := by
        rw [Criterion.isGate_iff, h]
        decide
      rw [List.filter_cons_of_neg hgate]
      exact List.filter_eq_nil_iff.2 (by decide)
    · rfl
  change (rule.criteria.flatMap Criterion.written).filter Criterion.isGate =
    rule.criteria.filter Criterion.isGate
  induction rule.criteria with
  | nil => rfl
  | cons c cs ih =>
    rw [List.flatMap_cons, List.filter_append, hwritten, ih, ← List.filter_append]
    rfl

/-- Writing bundles out leaves a gate in the rule, if at another position. -/
theorem exists_writtenOut_insertAt (rule : Rule) (h : c.Scopes comparison) (position : Nat) :
    ∃ place, (rule.insertAt position c).writtenOut = rule.writtenOut.insertAt place c := by
  let front := (rule.criteria.take position).flatMap Criterion.written
  let back := (rule.criteria.drop position).flatMap Criterion.written
  have hrule : rule.written = front ++ back := by
    rw [← List.flatMap_append, List.take_append_drop]
    rfl
  have hinserted : (rule.insertAt position c).written = front ++ c :: back := by
    unfold written insertAt
    rw [List.flatMap_append, List.flatMap_cons, h.written]
    rfl
  refine ⟨front.length, ?_⟩
  unfold writtenOut
  rw [hinserted, hrule]
  unfold insertAt
  rw [List.take_left, List.drop_left]

theorem Known.insertAt (h : rule.Known) (hc : c.Scopes comparison) (position : Nat) :
    (rule.insertAt position c).Known := by
  intro d hd
  obtain rfl | hd := mem_insertAt.1 hd
  · exact ⟨.namespaceName, Criterion.topic?_eq_some_iff.2 hc.name, by decide, hc.accepts⟩
  · exact h d hd

theorem gate_insertAt (hnone : rule.gates = []) (hchecks : rule.checks ≠ [])
    (hc : c.Scopes comparison) (hitems : c.items ≠ []) (position : Nat) :
    (rule.insertAt position c).gate =
      .ok (some ⟨[{ key := namespaceLabel, operator := comparison, values := c.items }]⟩) := by
  have hgates := gates_insertAt_of_nil hc.isGate hnone position
  rw [gate_eq_ok, hgates, checks_insertAt hc.isGate]
  refine ⟨Nat.le_refl 1, hchecks, ?_⟩
  unfold selector
  rw [hgates]
  dsimp only
  rw [hc.ofGate hitems]
  rfl

theorem gate_of_several (h : 1 < rule.gates.length) : rule.gate = .error .severalGates := if_pos h

end Rule

section

variable [Pattern.Engine] {source : Settings.ScanSource} {config : Config} {rule : Rule}

/-- Criteria with the same checks make the same policy but for its selector, which is up to the
gate. -/
theorem Policy.ofRule_withSelector {criteria : List Criterion} {selector : Option Selector}
    {policy : Policy} (hmod : ∀ c ∈ rule.checks, ∃ m, c.module? = some m)
    (hchecks : { rule with criteria : Rule }.checks = rule.checks)
    (hgate : { rule with criteria : Rule }.gate = .ok selector)
    (h : Policy.ofRule source config rule = .ok policy) :
    Policy.ofRule source config { rule with criteria } = .ok (policy.withSelector selector) := by
  have hneeds' := Rule.needsGroup_congr hchecks
  rw [Policy.ofRule_eq_ok, hneeds']
  obtain ⟨hneeds, group, hgroup, rfl⟩ | ⟨hneeds, single, hsingle, rfl⟩ := Policy.ofRule_eq_ok.1 h
  · obtain ⟨old, members, -, hmembers, rfl⟩ := (PolicyGroup.ofRule_eq_ok hmod).1 hgroup
    have hmod' := hmod
    rw [← hchecks] at hmod' hmembers
    have hmade : PolicyGroup.ofRule source config { rule with criteria } = .ok _ :=
      (PolicyGroup.ofRule_eq_ok hmod').2 ⟨selector, members, hgate, hmembers, rfl⟩
    refine .inl ⟨hneeds, _, hmade, ?_⟩
    unfold PolicyGroup.assemble
    rw [hchecks]
    rfl
  · obtain ⟨old, m, settings, -, hm, hsettings, rfl⟩ := SinglePolicy.ofRule_eq_ok.1 hsingle
    rw [← hchecks] at hm hsettings
    have hmade : SinglePolicy.ofRule source config { rule with criteria } = .ok _ :=
      SinglePolicy.ofRule_eq_ok.2 ⟨selector, m, settings, hgate, hm, hsettings, rfl⟩
    exact .inr ⟨hneeds, _, hmade, rfl⟩

/-- A gate that fails decides, before anything is built. -/
theorem Policy.ofRule_of_gate_eq_error {failure : Failure} (h : rule.gate = .error failure) :
    Policy.ofRule source config rule = .error failure := by
  unfold Policy.ofRule PolicyGroup.ofRule SinglePolicy.ofRule
  rw [h]
  split <;> rfl

end

/-- The rule passes everything that is checked before a policy is made of it. -/
structure Rule.Passes (rule : Rule) : Prop where
  bundles : BundlesReadable rule.criteria
  id : 1000 ≤ rule.id
  kind : rule.kind = .deny
  enabled : rule.disabled = false
  known : rule.writtenOut.Known

theorem Rule.Passes.insertAt {rule : Rule} {c : Criterion} {comparison : SelectorOperator}
    (h : rule.Passes) (hc : c.Scopes comparison) (position : Nat) :
    (rule.insertAt position c).Passes where
  bundles := by
    intro d hd hname
    obtain rfl | hd := Rule.mem_insertAt.1 hd
    · rw [hc.name] at hname
      exact absurd hname (by decide)
    · exact h.bundles d hd hname
  id := h.id
  kind := h.kind
  enabled := h.enabled
  known := by
    obtain ⟨place, hplace⟩ := rule.exists_writtenOut_insertAt hc position
    rw [hplace]
    exact h.known.insertAt hc place

namespace Converter

variable [Pattern.Engine] {converter : Converter} {rule : Rule} {policy : Policy}

theorem convert_of_passes (converter : Converter) (h : rule.Passes) :
    converter.convert rule =
      (Policy.ofRule converter.config.scanSource converter.config rule.writtenOut).map
        .converted := by
  obtain ⟨hplain, hcriteria⟩ := Rule.known_iff.1 h.known
  have hvalid : rule.writtenOut.validate = .ok () :=
    Rule.validate_eq_ok.2 ⟨h.id, h.kind, h.enabled, hcriteria⟩
  unfold convert
  rw [Rule.expand_eq_ok.2 ⟨h.bundles, rfl⟩, ok_bind, hplain, hvalid]
  rfl

/-- A namespace criterion put into a rule without one, wherever it stands, leaves the policy as it
is but for the selector, which compares the name of the namespace with its items. A second one,
wherever it stands and whatever its items are, has the rule refused. -/
theorem scoping_of_convert (h : converter.convert rule = .ok (.converted policy))
    (hfree : ∀ c ∈ rule.criteria, c.name ≠ "namespace") {c : Criterion}
    {comparison : SelectorOperator} (hc : c.Scopes comparison) (hitems : c.items ≠ [])
    (position : Nat) :
    converter.convert (rule.insertAt position c) =
        .ok (.converted (policy.withSelector (some ⟨[{
          key := "kubernetes.io/metadata.name"
          operator := comparison
          values := c.items }]⟩))) ∧
      ∀ (further : Criterion) (other : SelectorOperator), further.Scopes other → ∀ place : Nat,
        converter.convert ((rule.insertAt position c).insertAt place further) =
          .error .severalGates := by
  obtain ⟨hbundles, hid, hkind, henabled, hknown, hpolicy⟩ := convert_eq_converted_iff.1 h
  have hpasses : rule.Passes := ⟨hbundles, hid, hkind, henabled, hknown⟩
  have hinserted := hpasses.insertAt hc position
  refine ⟨?_, fun further other hfurther place => ?_⟩
  · have hmod := hknown.module?_of_mem_checks
    have hnone : rule.writtenOut.gates = [] := by
      rw [rule.gates_writtenOut]
      exact List.filter_eq_nil_iff.2 fun d hd => mt Criterion.isGate_iff.1 (hfree d hd)
    have hchecks : rule.writtenOut.checks ≠ [] := by
      obtain ⟨selector, hgate⟩ := ((Policy.succeeds_ofRule hmod).1 ⟨policy, hpolicy⟩).1
      exact (Rule.gate_eq_ok.1 hgate).2.1
    obtain ⟨place, hplace⟩ := rule.exists_writtenOut_insertAt hc position
    have hgate := Rule.gate_insertAt hnone hchecks hc hitems place
    have hframed : Policy.ofRule _ _ (rule.writtenOut.insertAt place c) = _ :=
      Policy.ofRule_withSelector hmod (Rule.checks_insertAt hc.isGate place) hgate hpolicy
    rw [convert_of_passes converter hinserted, hplace, hframed]
    rfl
  · have hseveral :
        1 < ((rule.insertAt position c).insertAt place further).writtenOut.gates.length := by
      rw [Rule.gates_writtenOut, Rule.length_gates_insertAt hfurther.isGate,
        Rule.length_gates_insertAt hc.isGate]
      omega
    rw [convert_of_passes converter (hinserted.insertAt hfurther place),
      Policy.ofRule_of_gate_eq_error (Rule.gate_of_several hseveral)]
    rfl

end Converter

/-- A rule with a bundle and a check of the module that namespace criteria belong to as well. -/
def Rule.userAndBundle : Rule where
  id := 1003
  criteria := [{ name := "user", operator := "containsAny", value := "alice" },
    { name := "pspCompliance", operator := "=", value := "true" }]
  comment := "no best practice"

def Criterion.withinProdAndDev : Criterion :=
  { name := "namespace", operator := "containsAny", value := " prod ,, dev" }

def Criterion.outsideNothing : Criterion := { name := "namespace", operator := "notContainsAny" }

theorem Converter.scoping_of_userAndBundle : ∃ policy,
    plain.convert .userAndBundle = .ok (.converted policy) ∧
      plain.convert (Rule.userAndBundle.insertAt 1 .withinProdAndDev) =
        .ok (.converted (policy.withSelector (some ⟨[{
          key := "kubernetes.io/metadata.name"
          operator := .inValues
          values := ["prod", "dev"] }]⟩))) ∧
      plain.convert ((Rule.userAndBundle.insertAt 1 .withinProdAndDev).insertAt 0
        .outsideNothing) = .error .severalGates := by
  have hkind : (Outcome.policy? (plain.convert .userAndBundle)).isSome = true := by
    decide +kernel
  obtain ⟨policy, hpolicy⟩ := Option.isSome_iff_exists.1 hkind
  have hconvert := Outcome.policy?_eq_some.1 hpolicy
  have hitems : Criterion.withinProdAndDev.items = ["prod", "dev"] := by decide +kernel
  have hwithin : Criterion.withinProdAndDev.Scopes .inValues := ⟨rfl, .inl ⟨rfl, rfl⟩⟩
  have houtside : Criterion.outsideNothing.Scopes .notInValues := ⟨rfl, .inr ⟨rfl, rfl⟩⟩
  obtain ⟨hscoped, hrefused⟩ :=
    scoping_of_convert hconvert (by decide) hwithin (by rw [hitems]; decide) 1
  rw [hitems] at hscoped
  exact ⟨policy, hconvert, hscoped, hrefused _ _ houtside 0⟩

end Admission
