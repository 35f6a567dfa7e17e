import Admission.Conversion.Converter
import Admission.Proofs.Success

/-!
What a rule goes through before it becomes a policy. Main statement: a rule is converted when its
bundles can be written out and what they leave is free of custom criteria, passes its checks and has
a policy.
-/

namespace Admission

namespace Topic

theorem isBundle_iff {topic : Topic} : topic.isBundle = true ↔ topic = .pspCompliance := by
  cases topic <;> decide

theorem isGate_iff {topic : Topic} : topic.isGate = true ↔ topic = .namespaceName := by
  cases topic <;> decide

theorem any_ofName?_eq {p : Topic → Bool} {topic : Topic} (h : ∀ t, p t = true ↔ t = topic)
    (s : String) : (ofName? s).any p = true ↔ s = topic.name := by
  rw [← ofName?_eq_some_iff]
  cases ofName? s <;> simp [h]

theorem role_eq_check {topic : Topic} {m : Module} (h : topic.module? = some m)
    (hgate : topic.isGate = false) : topic.role = .check m := by
  cases topic <;> cases h <;> first | rfl | cases hgate

end Topic

namespace Criterion

variable {c : Criterion} {topic : Topic} {m : Module}

theorem topic?_eq_some_iff : c.topic? = some topic ↔ c.name = topic.name :=
  Topic.ofName?_eq_some_iff

theorem isGate_iff : c.isGate = true ↔ c.name = "namespace" :=
  Topic.any_ofName?_eq (fun _ => Topic.isGate_iff) c.name

theorem module?_eq_some_iff :
    c.module? = some m ↔ ∃ topic : Topic, c.name = topic.name ∧ topic.module? = some m := by
  unfold module?
  rw [Option.bind_eq_some_iff]
  simp only [topic?_eq_some_iff]

/-- The criteria that stand for a criterion: those of its bundle, or itself. -/
def written (c : Criterion) : List Criterion :=
  if c.name = "pspCompliance" then Topic.bundled.map ofBundled else [c]

theorem expand_eq_ok {criteria : List Criterion} : c.expand = .ok criteria ↔
    (c.name = "pspCompliance" → c.operator = "=") ∧ criteria = c.written := by
  have hbundle : (Topic.ofName? c.name).any Topic.isBundle = true ↔ c.name = "pspCompliance" :=
    Topic.any_ofName?_eq (fun _ => Topic.isBundle_iff) c.name
  unfold expand bundle? written
  by_cases h : c.name = "pspCompliance"
  · have htopic : c.topic? = some .pspCompliance := topic?_eq_some_iff.2 h
    rw [if_pos (hbundle.2 h), if_pos h, htopic]
    by_cases ho : c.operator = "="
    · simp [h, ho, Topic.accepts, Topic.operators, Operator.text, eq_comm]
    · have : ¬ "=" = c.operator := fun heq => ho heq.symm
      simp [h, ho, Topic.accepts, Topic.operators, Operator.text, this]
  · rw [if_neg (mt hbundle.1 h), if_neg h]
    simp [h, eq_comm]

end Criterion

theorem expandAll_eq_ok {criteria out : List Criterion} : expandAll criteria = .ok out ↔
    (∀ c ∈ criteria, c.name = "pspCompliance" → c.operator = "=") ∧
      out = criteria.flatMap Criterion.written := by
  induction criteria generalizing out with
  | nil => simp [expandAll, eq_comm]
  | cons c cs ih =>
    rw [expandAll]
    simp only [bind_eq_ok, pure_eq_ok, Criterion.expand_eq_ok, ih, List.forall_mem_cons,
      List.flatMap_cons]
    constructor
    · intro hgiven
      obtain ⟨_, ⟨hc, rfl⟩, _, ⟨hcs, rfl⟩, rfl⟩ := hgiven
      exact ⟨⟨hc, hcs⟩, rfl⟩
    · intro hgiven
      obtain ⟨⟨hc, hcs⟩, rfl⟩ := hgiven
      exact ⟨_, ⟨hc, rfl⟩, _, ⟨hcs, rfl⟩, rfl⟩

namespace Rule

def written (rule : Rule) : List Criterion := rule.criteria.flatMap Criterion.written

/-- The rule with its bundles written out, wherever that is possible. -/
def writtenOut (rule : Rule) : Rule := { rule with criteria := rule.written }

theorem expand_eq_ok {rule out : Rule} : rule.expand = .ok out ↔
    (∀ c ∈ rule.criteria, c.name = "pspCompliance" → c.operator = "=") ∧
      out = rule.writtenOut := by
  unfold Rule.expand
  simp only [bind_eq_ok, pure_eq_ok, expandAll_eq_ok]
  constructor
  · intro hgiven
    obtain ⟨_, ⟨h, rfl⟩, rfl⟩ := hgiven
    exact ⟨h, rfl⟩
  · intro hgiven
    obtain ⟨h, rfl⟩ := hgiven
    exact ⟨_, ⟨h, rfl⟩, rfl⟩

end Rule

theorem Criterion.isCustom_eq_false_of_module? {c : Criterion} {m : Module}
    (h : c.module? = some m) : c.isCustom = false := by
  obtain ⟨topic, hname, hm⟩ := Criterion.module?_eq_some_iff.1 h
  unfold Criterion.isCustom
  rw [hname]
  cases topic <;> first | decide | cases hm

theorem Criterion.validate_eq_ok {c : Criterion} (h : c.isCustom = false) :
    c.validate = .ok () ↔ ∃ topic, c.topic? = some topic ∧ topic.module?.isSome = true ∧
      topic.accepts c.operator = true := by
  unfold Criterion.validate
  rw [h]
  cases c.topic? with
  | none => simp
  | some topic => cases hm : topic.module? <;> simp [hm]

theorem Rule.validate_eq_ok {rule : Rule} : rule.validate = .ok () ↔
    1000 ≤ rule.id ∧ rule.kind = .deny ∧ rule.disabled = false ∧
      ∀ c ∈ rule.criteria, c.validate = .ok () := by
  have hid : ¬ rule.id < firstOwnId ↔ 1000 ≤ rule.id := UInt32.not_lt
  unfold Rule.validate
  split
  · next h => simp [← hid, h]
  · next h =>
    rw [← hid]
    split
    · next hk => simp [hk]
    · next hk =>
      split
      · next hd => simp [hd]
      · next hd =>
        rw [forM_eq_ok]
        exact ⟨fun hc => ⟨h, not_not.1 hk, by simpa using hd, hc⟩, fun hc => hc.2.2.2⟩

namespace Rule

variable {rule : Rule}

/-- Every criterion names a topic that a module can check, with one of its operators. -/
def Known (rule : Rule) : Prop :=
  ∀ c ∈ rule.criteria, ∃ topic, c.topic? = some topic ∧ topic.module?.isSome = true ∧
    topic.accepts c.operator = true

theorem Known.module? (h : rule.Known) {c : Criterion} (hc : c ∈ rule.criteria) :
    ∃ m, c.module? = some m := by
  obtain ⟨topic, htopic, hm, -⟩ := h c hc
  rw [Criterion.module?, htopic]
  exact Option.isSome_iff_exists.1 hm

theorem Known.module?_of_mem_checks (h : rule.Known) :
    ∀ c ∈ rule.checks, ∃ m, c.module? = some m :=
  fun _ hc => h.module? (List.mem_of_mem_filter hc)

theorem known_iff : rule.Known ↔
    rule.hasCustom = false ∧ ∀ c ∈ rule.criteria, c.validate = .ok () := by
  have hcustom : rule.hasCustom = false ↔ ∀ c ∈ rule.criteria, c.isCustom = false := by
    simp only [hasCustom, List.any_eq_false, Bool.not_eq_true]
  rw [hcustom]
  constructor
  · intro h
    have hplain (c : Criterion) (hc : c ∈ rule.criteria) : c.isCustom = false := by
      obtain ⟨m, hm⟩ := h.module? hc
      exact Criterion.isCustom_eq_false_of_module? hm
    exact ⟨hplain, fun c hc => (Criterion.validate_eq_ok (hplain c hc)).2 (h c hc)⟩
  · rintro ⟨hplain, hvalid⟩ c hc
    exact (Criterion.validate_eq_ok (hplain c hc)).1 (hvalid c hc)

end Rule

/-- The way of a rule to its policy; custom criteria lead to the bridge instead. -/
theorem Converter.convert_eq_converted_iff [Pattern.Engine] {converter : Converter} {rule : Rule}
    {policy : Policy} :
    converter.convert rule = .ok (.converted policy) ↔
      (∀ c ∈ rule.criteria, c.name = "pspCompliance" → c.operator = "=") ∧
      1000 ≤ rule.id ∧ rule.kind = .deny ∧ rule.disabled = false ∧ rule.writtenOut.Known ∧
      Policy.ofRule converter.config.scanSource converter.config rule.writtenOut = .ok policy := by
  unfold Converter.convert
  simp only [bind_eq_ok, Rule.expand_eq_ok, Rule.known_iff]
  constructor
  · intro hgiven
    obtain ⟨_, ⟨hbundles, rfl⟩, h⟩ := hgiven
    split at h
    -- A custom criterion leads to an artifact, never to a policy.
    · obtain ⟨artifact, -, habsurd⟩ := map_eq_ok.1 h
      cases habsurd
    · next hcustom =>
      obtain ⟨⟨⟩, hvalid, h⟩ := bind_eq_ok.1 h
      obtain ⟨_, hpolicy, heq⟩ := map_eq_ok.1 h
      obtain ⟨hid, hkind, henabled, hvalid⟩ := Rule.validate_eq_ok.1 hvalid
      cases heq
      exact ⟨hbundles, hid, hkind, henabled, ⟨Bool.not_eq_true _ ▸ hcustom, hvalid⟩, hpolicy⟩
  · intro hgiven
    obtain ⟨hbundles, hid, hkind, henabled, ⟨hcustom, hvalid⟩, hpolicy⟩ := hgiven
    have hchecked : rule.writtenOut.validate = .ok () :=
      Rule.validate_eq_ok.2 ⟨hid, hkind, henabled, hvalid⟩
    refine ⟨_, ⟨hbundles, rfl⟩, ?_⟩
    rw [hcustom, hchecked, hpolicy]
    rfl

def Converter.plain : Converter where
  config := {}
  valid := by decide

end Admission
