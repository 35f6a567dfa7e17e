import Admission.Proofs.Conversion
import Admission.Proofs.Synthesis
import Admission.Proofs.WellFormed

/-!
Which rules become policies. Main statement: exactly the convertible ones, and what makes a rule
convertible is said of its criteria one by one and of how often some names stand among them.
-/

namespace Admission

namespace Criterion

/-- The criterion is about a topic that a module can check, under one of its operators, with a value
written as the topic needs it. -/
structure Convertible [Pattern.Engine] (c : Criterion) (topic : Topic) : Prop where
  about : c.name = topic.name
  enforced : topic.module?.isSome = true
  operator : c.operator ∈ topic.operators.map Operator.text
  wellFormed : c.WellFormed topic

end Criterion

namespace Rule

def uniqueNames : List String :=
  ["namespace", "envVars", "labels", "annotations", "storageClassName", "saBindRiskyRole",
    "resourceLimit"]

/-- Everything that a rule needs to become a policy. -/
structure Convertible [Pattern.Engine] (rule : Rule) : Prop where
  bundles : ∀ c ∈ rule.criteria, c.name = "pspCompliance" → c.operator = "="
  id : 1000 ≤ rule.id
  kind : rule.kind = .deny
  enabled : rule.disabled = false
  criteria : ∀ c ∈ rule.written, ∃ topic, c.Convertible topic
  enforceable : ∃ c ∈ rule.written, c.name ≠ "namespace"
  unique : ∀ name ∈ uniqueNames, rule.written.countP (·.name = name) ≤ 1

end Rule

theorem SelectorOperator.exists_ofGate? {operator : String}
    (h : operator ∈ ["containsAny", "notContainsAny"]) :
    ∃ comparison, SelectorOperator.ofGate? operator = some comparison := by
  simp only [List.mem_cons, List.not_mem_nil, or_false] at h
  rcases h with rfl | rfl <;> exact ⟨_, rfl⟩

theorem Selector.succeeds_ofGate {c : Criterion}
    (h : c.operator ∈ ["containsAny", "notContainsAny"]) :
    Succeeds (Selector.ofGate c) ↔ c.items ≠ [] := by
  obtain ⟨operator, hread⟩ := SelectorOperator.exists_ofGate? h
  unfold Selector.ofGate
  rw [hread]
  dsimp only
  split <;> simp_all

theorem Rule.succeeds_gate {rule : Rule}
    (h : ∀ c ∈ rule.gates, c.operator ∈ ["containsAny", "notContainsAny"]) :
    Succeeds rule.gate ↔
      rule.gates.length ≤ 1 ∧ rule.checks ≠ [] ∧ ∀ c ∈ rule.gates, c.items ≠ [] := by
  have hselector (hlen : rule.gates.length ≤ 1) :
      Succeeds rule.selector ↔ ∀ c ∈ rule.gates, c.items ≠ [] := by
    unfold Rule.selector
    match hgates : rule.gates, hlen with
    | [], _ => simp
    | [c], _ =>
      have hc : c.operator ∈ ["containsAny", "notContainsAny"] := h c (by simp [hgates])
      rw [succeeds_map, Selector.succeeds_ofGate hc, List.forall_mem_singleton]
  simp only [Succeeds, Rule.gate_eq_ok, exists_and_left]
  exact and_congr_right fun hlen => and_congr_right fun _ => hselector hlen

namespace Rule

variable {rule : Rule}

theorem length_gates : rule.gates.length = rule.criteria.countP (·.name = "namespace") := by
  unfold gates
  rw [← List.countP_eq_length_filter]
  apply List.countP_congr
  intro c _
  rw [Criterion.isGate_iff, decide_eq_true_iff]

/-- Where all checks of a module are about one topic, they are the criteria of that name. -/
theorem length_checksOf (m : Module) (topic : Topic)
    (h : ∀ t : Topic, t.module? = some m ∧ t.isGate = false ↔ t = topic) :
    (rule.checksOf m).length = rule.criteria.countP (·.name = topic.name) := by
  unfold checksOf checks
  rw [List.filter_filter, ← List.countP_eq_length_filter]
  apply List.countP_congr
  intro c _
  rw [Bool.and_eq_true, decide_eq_true_iff, decide_eq_true_iff, Bool.not_eq_true',
    ← Criterion.topic?_eq_some_iff]
  unfold Criterion.module? Criterion.isGate
  cases c.topic? with
  | none => simp
  | some t => simpa using h t

/-- The gate and the modules that take one criterion ask for the same as the names. -/
theorem unique_iff :
    (rule.gates.length ≤ 1 ∧
      ∀ m : Module, m.takesOne = true → (rule.checksOf m).length ≤ 1) ↔
    ∀ name ∈ uniqueNames, rule.criteria.countP (·.name = name) ≤ 1 := by
  -- Each of these modules checks one topic only, so its checks can be counted by name.
  have henvVars := rule.length_checksOf .environmentVariables .envVars
    fun t => by cases t <;> decide
  have hlabels := rule.length_checksOf .labels .labels fun t => by cases t <;> decide
  have hannotations := rule.length_checksOf .annotations .annotations
    fun t => by cases t <;> decide
  have hclass := rule.length_checksOf .storageClass .storageClassName
    fun t => by cases t <;> decide
  have hrole := rule.length_checksOf .serviceAccount .saBindRiskyRole
    fun t => by cases t <;> decide
  have hlimit := rule.length_checksOf .containerResources .resourceLimit
    fun t => by cases t <;> decide
  rw [length_gates]
  simp only [uniqueNames, List.forall_mem_cons]
  constructor
  · intro hgiven
    obtain ⟨hgate, h⟩ := hgiven
    exact ⟨hgate, henvVars ▸ h _ rfl, hlabels ▸ h _ rfl, hannotations ▸ h _ rfl,
      hclass ▸ h _ rfl, hrole ▸ h _ rfl, hlimit ▸ h _ rfl, by simp⟩
  · intro hgiven
    obtain ⟨hgate, h₁, h₂, h₃, h₄, h₅, h₆, -⟩ := hgiven
    refine ⟨hgate, fun m hm => ?_⟩
    cases m
    case environmentVariables => exact henvVars.trans_le h₁
    case labels => exact hlabels.trans_le h₂
    case annotations => exact hannotations.trans_le h₃
    case serviceAccount => exact hrole.trans_le h₅
    case containerResources => exact hlimit.trans_le h₆
    case storageClass => exact hclass.trans_le h₄
    all_goals cases hm

end Rule

namespace Rule

variable {rule : Rule} {source : Settings.ScanSource}

theorem Known.goesTo (h : rule.Known) {m : Module} {c : Criterion} (hc : c ∈ rule.checksOf m) :
    ∃ topic, c.GoesTo m topic := by
  simp only [checksOf, checks, List.mem_filter, decide_eq_true_iff, Bool.not_eq_true'] at hc
  obtain ⟨⟨hmem, hgate⟩, hm⟩ := hc
  obtain ⟨topic, htopic, -, ho⟩ := h c hmem
  rw [Criterion.isGate, htopic] at hgate
  rw [Criterion.module?, htopic] at hm
  exact ⟨topic, htopic, Topic.role_eq_check hm hgate, ho⟩

theorem Known.gateOperator (h : rule.Known) {c : Criterion} (hc : c ∈ rule.gates) :
    c.operator ∈ ["containsAny", "notContainsAny"] := by
  obtain ⟨hmem, hgate⟩ := List.mem_filter.1 hc
  obtain ⟨topic, htopic, -, ho⟩ := h c hmem
  have hname : topic = .namespaceName := by
    rw [Criterion.isGate, htopic] at hgate
    exact Topic.isGate_iff.1 hgate
  subst hname
  obtain ⟨o, ho, htext⟩ := Topic.accepts_iff.1 ho
  simp only [Topic.operators, List.mem_cons, List.not_mem_nil, or_false] at ho
  rw [← htext]
  rcases ho with rfl | rfl <;> decide

theorem isWellFormed_iff_of_mem_gates [Pattern.Engine] {c : Criterion} (hc : c ∈ rule.gates) :
    c.IsWellFormed ↔ c.items ≠ [] := by
  have hgate := (List.mem_filter.1 hc).2
  have htopic : c.topic? = some .namespaceName :=
    Criterion.topic?_eq_some_iff.2 (Criterion.isGate_iff.1 hgate)
  simp [Criterion.IsWellFormed, htopic, Criterion.WellFormed]

/-- A criterion is checked by its module or stands at the gate. -/
theorem Known.forall_isWellFormed_iff [Pattern.Engine] (h : rule.Known) :
    (∀ c ∈ rule.criteria, c.IsWellFormed) ↔
      (∀ c ∈ rule.gates, c.items ≠ []) ∧ ∀ m, ∀ c ∈ rule.checksOf m, c.IsWellFormed := by
  constructor
  · intro hall
    refine ⟨fun c hc => ?_, fun m c hc => ?_⟩
    · exact (isWellFormed_iff_of_mem_gates hc).1 (hall c (List.mem_of_mem_filter hc))
    · exact hall c (List.mem_of_mem_filter (List.mem_of_mem_filter hc))
  · rintro ⟨hgates, hchecks⟩ c hc
    cases hgate : c.isGate with
    | true =>
      have hmem : c ∈ rule.gates := List.mem_filter.2 ⟨hc, hgate⟩
      exact (isWellFormed_iff_of_mem_gates hmem).2 (hgates c hmem)
    | false =>
      obtain ⟨m, hm⟩ := h.module? hc
      refine hchecks m c (List.mem_filter.2 ⟨List.mem_filter.2 ⟨hc, ?_⟩, decide_eq_true hm⟩)
      rw [hgate]
      rfl

theorem checks_ne_nil_iff : rule.checks ≠ [] ↔ ∃ c ∈ rule.criteria, c.name ≠ "namespace" := by
  unfold checks
  simp only [ne_eq, List.filter_eq_nil_iff, Bool.not_eq_true', Bool.not_eq_false,
    Criterion.isGate_iff, not_forall, exists_prop]

variable [Pattern.Engine]

/-- Modules that no check reaches have nothing to refuse. -/
theorem Known.forall_succeeds_settings_iff (h : rule.Known) :
    (∀ m, rule.Reaches m → Succeeds (m.settings source (rule.checksOf m))) ↔
      (∀ m : Module, m.takesOne = true → (rule.checksOf m).length ≤ 1) ∧
        ∀ m, ∀ c ∈ rule.checksOf m, c.IsWellFormed := by
  rw [← forall_and]
  apply forall_congr'
  intro m
  rw [reaches_iff]
  by_cases hm : rule.checksOf m = []
  · simp [hm]
  · rw [m.succeeds_settings_iff source hm fun c hc => h.goesTo hc]
    exact forall_prop_of_true hm

theorem Known.succeeds_policy (h : rule.Known) (source : Settings.ScanSource) (config : Config) :
    Succeeds (Policy.ofRule source config rule) ↔
      (∀ c ∈ rule.criteria, c.IsWellFormed) ∧ (∃ c ∈ rule.criteria, c.name ≠ "namespace") ∧
        ∀ name ∈ uniqueNames, rule.criteria.countP (·.name = name) ≤ 1 := by
  rw [Policy.succeeds_ofRule h.module?_of_mem_checks, succeeds_gate fun c hc => h.gateOperator hc,
    h.forall_succeeds_settings_iff, h.forall_isWellFormed_iff, ← unique_iff, ← checks_ne_nil_iff]
  constructor
  · intro hgiven
    obtain ⟨⟨hlen, hne, hgates⟩, hone, hchecks⟩ := hgiven
    exact ⟨⟨hgates, hchecks⟩, hne, hlen, hone⟩
  · intro hgiven
    obtain ⟨⟨hgates, hchecks⟩, hne, hlen, hone⟩ := hgiven
    exact ⟨⟨hlen, hne, hgates⟩, hone, hchecks⟩

end Rule

variable [Pattern.Engine]

theorem Criterion.exists_convertible_iff {c : Criterion} : (∃ topic, c.Convertible topic) ↔
    (∃ topic, c.topic? = some topic ∧ topic.module?.isSome = true ∧
      topic.accepts c.operator = true) ∧ c.IsWellFormed := by
  have hoperator (topic : Topic) :
      topic.accepts c.operator = true ↔ c.operator ∈ topic.operators.map Operator.text := by
    rw [Topic.accepts_iff, List.mem_map]
  constructor
  · intro hgiven
    obtain ⟨topic, hname, hm, ho, hwf⟩ := hgiven
    have htopic : c.topic? = some topic := Criterion.topic?_eq_some_iff.2 hname
    refine ⟨⟨topic, htopic, hm, (hoperator topic).2 ho⟩, fun other hother => ?_⟩
    rw [htopic, Option.some.injEq] at hother
    exact hother ▸ hwf
  · intro hgiven
    obtain ⟨⟨topic, htopic, hm, ho⟩, hwf⟩ := hgiven
    have hname : c.name = topic.name := Criterion.topic?_eq_some_iff.1 htopic
    exact ⟨topic, hname, hm, (hoperator topic).1 ho, hwf topic htopic⟩

/-- A rule becomes a policy exactly when it is convertible, for every configuration and bridge. -/
theorem Converter.converts_iff_convertible (converter : Converter) (rule : Rule) :
    (∃ policy, converter.convert rule = .ok (.converted policy)) ↔ rule.Convertible := by
  have hcriteria : (∀ c ∈ rule.written, ∃ topic, c.Convertible topic) ↔
      rule.writtenOut.Known ∧ ∀ c ∈ rule.written, c.IsWellFormed := by
    simp only [Criterion.exists_convertible_iff, Rule.Known, Rule.writtenOut, forall_and]
  simp only [Converter.convert_eq_converted_iff]
  constructor
  · intro hgiven
    obtain ⟨policy, hbundles, hid, hkind, henabled, hknown, hpolicy⟩ := hgiven
    obtain ⟨hwf, henforceable, hunique⟩ := (hknown.succeeds_policy _ _).1 ⟨policy, hpolicy⟩
    exact ⟨hbundles, hid, hkind, henabled, hcriteria.2 ⟨hknown, hwf⟩, henforceable, hunique⟩
  · intro hgiven
    obtain ⟨hbundles, hid, hkind, henabled, hconvertible, henforceable, hunique⟩ := hgiven
    obtain ⟨hknown, hwf⟩ := hcriteria.1 hconvertible
    obtain ⟨policy, hpolicy⟩ :=
      (hknown.succeeds_policy converter.config.scanSource converter.config).2
        ⟨hwf, henforceable, hunique⟩
    exact ⟨policy, hbundles, hid, hkind, henabled, hknown, hpolicy⟩

end Admission
