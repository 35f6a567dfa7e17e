import Admission.Pattern
import Admission.Proofs.Acceptance

/-!
What can still go wrong with a rule that passed its checks. Main statement: it has several namespace
criteria or nothing but one, or some value is not as its topic needs it; names and operators are not
looked at in vain a second time, and the parts that count modules agree on how many there are.
-/

namespace Admission

/-- Whether the fault lies in the value or the parts of a criterion, or in a second criterion beside
it. Else it lies in the name or the operator, or in there being no criterion at all. -/
def SettingsFault.liesInValue : SettingsFault → Bool
  | noValues _ | noNamespaces | notSingle | notBoolean _ | onlyFalse _ _ | unknownRole _
  | notInteger _ _ _ | negativeCount _ _ | countOutOfRange _ | noParts _ | foreignPartOperator _ _
  | notQuantity _ _ | foreignPart _ | invalidPattern _ _ => true
  | foreignCriterion _ | foreignListOperator _ | noConditions | foreignOperator _ _ => false

namespace Settings

/-- Settings that only values can be in the way of. -/
abbrev NeedsValues {α : Type} (x : Except SettingsFault α) : Prop :=
  FailsOnly (fun fault => fault.liesInValue = true) x

variable {c : Criterion} {topic : Topic}

theorem needsValues_boolean (value : String) : NeedsValues (boolean value) := by
  unfold boolean
  split_ifs
  · exact failsOnly_ok _
  · exact failsOnly_ok _
  · exact failsOnly_error.2 rfl

theorem needsValues_items (c : Criterion) : NeedsValues (items c) := by
  unfold items
  split
  · exact failsOnly_error.2 rfl
  · exact failsOnly_ok _

theorem needsValues_count (c : Criterion) : NeedsValues (count c) := by
  unfold count
  split
  · exact failsOnly_error.2 rfl
  · split_ifs
    · exact failsOnly_error.2 rfl
    · exact failsOnly_ok _

theorem needsValues_maxAccepted (threshold : Int) : NeedsValues (maxAccepted threshold) := by
  unfold maxAccepted
  split_ifs
  · exact failsOnly_error.2 rfl
  · exact failsOnly_ok _

theorem needsValues_single (criteria : List Criterion) : NeedsValues (single criteria) := by
  unfold single
  split
  · exact failsOnly_ok _
  · exact failsOnly_error.2 rfl

theorem single_eq_ok {criteria : List Criterion} : single criteria = .ok c ↔ criteria = [c] := by
  unfold single
  split
  · simp
  · next h =>
    refine iff_of_false (fun habsurd => ?_) (h c)
    cases habsurd

theorem needsValues_addHostNamespace (s : HostNamespaces) (h : c.GoesTo .hostNamespaces topic) :
    NeedsValues (HostNamespaces.add s c) := by
  have ht := h.mem_topics
  simp only [Module.topics, List.mem_cons, List.not_mem_nil, or_false] at ht
  unfold HostNamespaces.add
  rw [h.about]
  refine (needsValues_boolean c.value).bind fun denied _ => ?_
  rcases ht with rfl | rfl | rfl <;> exact failsOnly_pure _

theorem needsValues_addTrustedRepo (s : TrustedRepos) (h : c.GoesTo .trustedRepos topic) :
    NeedsValues (TrustedRepos.add s c) := by
  have ht := h.mem_topics
  simp only [Module.topics, List.mem_cons, List.not_mem_nil, or_false] at ht
  unfold TrustedRepos.add
  rw [h.about]
  rcases ht with rfl | rfl <;>
    exact (needsValues_items c).bind fun _ _ => failsOnly_pure _

theorem needsValues_addImageScan (s : ImageScan) (h : c.GoesTo .imageCve topic) :
    NeedsValues (ImageScan.add s c) := by
  have ht := h.mem_topics
  simp only [Module.topics, List.mem_cons, List.not_mem_nil, or_false] at ht
  unfold ImageScan.add
  rw [h.about]
  rcases ht with rfl | rfl | rfl
  · exact (needsValues_boolean c.value).bind fun _ _ => failsOnly_pure _
  all_goals
    refine (needsValues_count c).bind fun n _ => ?_
    exact (needsValues_maxAccepted n).bind fun _ _ => failsOnly_pure _

theorem needsValues_switch (switch : Switch) (criteria : List Criterion) :
    NeedsValues (switch.ofCriteria criteria) := by
  have hcheck (c : Criterion) : NeedsValues (switch.check c) := by
    unfold Switch.check
    split
    · exact failsOnly_error.2 rfl
    · exact failsOnly_ok _
  unfold Switch.ofCriteria
  exact (FailsOnly.forM fun c _ => hcheck c).bind fun _ _ => failsOnly_pure _

theorem needsValues_checkPattern [Pattern.Engine] (c : Criterion) (pattern : String) :
    NeedsValues (Validation.checkPattern c pattern) := by
  unfold Validation.checkPattern
  split
  · exact failsOnly_ok _
  · exact failsOnly_error.2 rfl

theorem needsValues_patterns [Pattern.Engine] (c : Criterion) :
    NeedsValues (Validation.patterns c) := by
  unfold Validation.patterns
  refine (needsValues_items c).bind fun found _ => ?_
  exact (FailsOnly.mapM fun item _ => needsValues_checkPattern c _).bind fun _ _ => failsOnly_pure _

theorem needsValues_pattern [Pattern.Engine] (c : Criterion) :
    NeedsValues (Validation.pattern c) := by
  unfold Validation.pattern
  dsimp only
  split
  · exact failsOnly_error.2 rfl
  · exact needsValues_checkPattern c _

/-- Every operator of the two topics has a condition. -/
theorem needsValues_validation [Pattern.Engine] (h : c.GoesTo .cel topic) :
    NeedsValues (Validation.ofCriterion c) := by
  have ht := h.mem_topics
  obtain ⟨operator, ho, htext⟩ := Topic.accepts_iff.1 h.operator
  simp only [Module.topics, List.mem_cons, List.not_mem_nil, or_false] at ht
  have hread : Operator.ofText? c.operator = some operator := htext ▸ Operator.ofText?_text operator
  have hlist := needsValues_patterns c
  have hwhole := needsValues_pattern c
  unfold Validation.ofCriterion
  rw [h.about]
  rcases ht with rfl | rfl <;>
    simp only [Topic.operators, List.mem_cons, List.not_mem_nil, or_false] at ho
  · dsimp only
    unfold Validation.ofUser
    rw [hread]
    rcases ho with rfl | rfl | rfl | rfl
    · exact hlist.bind fun _ _ => failsOnly_pure _
    · exact hlist.bind fun _ _ => failsOnly_pure _
    · exact hwhole.bind fun _ _ => failsOnly_pure _
    · exact hwhole.bind fun _ _ => failsOnly_pure _
  · dsimp only
    unfold Validation.ofGroups
    rw [hread]
    rcases ho with rfl | rfl | rfl | rfl | rfl | rfl
    · exact hlist.bind fun _ _ => failsOnly_pure _
    · exact hlist.bind fun _ _ => failsOnly_pure _
    · exact hlist.bind fun _ _ => failsOnly_pure _
    · exact hlist.bind fun _ _ => failsOnly_pure _
    · exact hwhole.bind fun _ _ => failsOnly_pure _
    · exact hwhole.bind fun _ _ => failsOnly_pure _

theorem needsValues_valueList {criteria : List Criterion}
    (ho : ∀ c ∈ criteria,
      c.operator ∈ ["containsAll", "containsAny", "notContainsAny", "containsOtherThan"]) :
    NeedsValues (ValueList.ofCriteria criteria) := by
  unfold ValueList.ofCriteria
  refine (needsValues_single criteria).bind fun c hc => ?_
  have hk := ho c (single_eq_ok.1 hc ▸ List.mem_singleton_self c)
  obtain ⟨keyword, hk⟩ := exists_negation? hk
  rw [hk]
  exact (needsValues_items c).bind fun _ _ => failsOnly_pure _

theorem needsValues_blockedRoles (criteria : List Criterion) :
    NeedsValues (BlockedRoles.ofCriteria criteria) := by
  have hadd (rules : List BlockRule) (category : String) :
      NeedsValues (BlockedRoles.add rules category) := by
    unfold BlockedRoles.add
    split
    · exact failsOnly_error.2 rfl
    · exact failsOnly_ok _
  unfold BlockedRoles.ofCriteria
  refine (needsValues_single criteria).bind fun c _ => ?_
  refine (needsValues_items c).bind fun found _ => ?_
  exact (FailsOnly.foldlM fun rules category _ => hadd rules category).bind
    fun _ _ => failsOnly_pure _

theorem needsValues_quantity (part : Criterion) : NeedsValues (ResourceBounds.quantity part) := by
  unfold ResourceBounds.quantity
  split
  · exact failsOnly_ok _
  · exact failsOnly_error.2 rfl

/-- The names and operators of parts belong to the value of a criterion. -/
theorem needsValues_addBound (s : ResourceBounds) (part : Criterion) :
    NeedsValues (ResourceBounds.add s part) := by
  unfold ResourceBounds.add
  split
  · exact failsOnly_error.2 rfl
  · refine (needsValues_quantity part).bind fun q _ => ?_
    split_ifs
    · exact failsOnly_pure _
    · exact failsOnly_pure _
    · exact failsOnly_pure _
    · exact failsOnly_pure _
    · exact failsOnly_error.2 rfl

theorem needsValues_resourceBounds (criteria : List Criterion) :
    NeedsValues (ResourceBounds.ofCriteria criteria) := by
  unfold ResourceBounds.ofCriteria
  refine (needsValues_single criteria).bind fun c _ => ?_
  dsimp only
  split
  · exact failsOnly_error.2 rfl
  · exact FailsOnly.foldlM fun s part _ => needsValues_addBound s part

theorem needsValues_storageClasses (criteria : List Criterion) :
    NeedsValues (StorageClasses.ofCriteria criteria) := by
  unfold StorageClasses.ofCriteria
  refine (needsValues_single criteria).bind fun c _ => ?_
  exact (needsValues_items c).bind fun _ _ => failsOnly_pure _

end Settings

open Settings in
theorem Module.needsValues_settings [Pattern.Engine] (source : ScanSource) (m : Module)
    {criteria : List Criterion}
    (hne : criteria ≠ []) (h : ∀ c ∈ criteria, ∃ topic, c.GoesTo m topic) :
    NeedsValues (m.settings source criteria) := by
  have hlist (hm : m ∈ [.environmentVariables, .labels, .annotations]) :
      NeedsValues (ValueList.ofCriteria criteria) := by
    refine needsValues_valueList fun c hc => ?_
    obtain ⟨topic, hgo⟩ := h c hc
    exact hgo.listOperator hm
  cases m
  case hostNamespaces =>
    refine FailsOnly.map (FailsOnly.foldlM fun s c hc => ?_)
    obtain ⟨topic, hgo⟩ := h c hc
    exact needsValues_addHostNamespace s hgo
  case trustedRepos =>
    refine FailsOnly.map (FailsOnly.foldlM fun s c hc => ?_)
    obtain ⟨topic, hgo⟩ := h c hc
    exact needsValues_addTrustedRepo s hgo
  case imageCve =>
    refine FailsOnly.map (FailsOnly.foldlM fun s c hc => ?_)
    obtain ⟨topic, hgo⟩ := h c hc
    exact needsValues_addImageScan s hgo
  case cel =>
    refine FailsOnly.map ?_
    rw [ofCriteria_of_ne_nil hne]
    refine (FailsOnly.mapM fun c hc => ?_).map
    obtain ⟨topic, hgo⟩ := h c hc
    exact needsValues_validation hgo
  case environmentVariables => exact (hlist (by simp)).map
  case labels => exact (hlist (by simp)).map
  case annotations => exact (hlist (by simp)).map
  case serviceAccount => exact (needsValues_blockedRoles criteria).map
  case containerResources => exact (needsValues_resourceBounds criteria).map
  case storageClass => exact (needsValues_storageClasses criteria).map
  all_goals exact (needsValues_switch _ criteria).map

/-- What is left to go wrong with a rule that passed its checks. -/
inductive Failure.LeftByChecks : Failure → Prop
  | severalGates : LeftByChecks .severalGates
  | nothingEnforceable : LeftByChecks .nothingEnforceable
  | settings {fault : SettingsFault} (h : fault.liesInValue = true) : LeftByChecks (.settings fault)

namespace Rule

variable {rule : Rule} {source : Settings.ScanSource} {config : Config}

theorem Known.failsOnly_settingsFor [Pattern.Engine] (h : rule.Known) {m : Module}
    (hm : rule.Reaches m) :
    FailsOnly Failure.LeftByChecks (m.settingsFor source (rule.checksOf m)) := by
  have hsettings := m.needsValues_settings source (reaches_iff.1 hm) fun c hc => h.goesTo hc
  exact FailsOnly.mapError (hsettings.imp fun fault => Failure.LeftByChecks.settings)

theorem Known.failsOnly_gate (h : rule.Known) : FailsOnly Failure.LeftByChecks rule.gate := by
  unfold gate
  split_ifs
  · exact failsOnly_error.2 .severalGates
  · exact failsOnly_error.2 .nothingEnforceable
  · unfold selector
    split
    · exact failsOnly_ok _
    · next c gates hgates =>
      refine FailsOnly.map ?_
      have hc := h.gateOperator (hgates ▸ List.mem_cons_self)
      obtain ⟨operator, hread⟩ := SelectorOperator.exists_ofGate? hc
      unfold Selector.ofGate
      rw [hread]
      dsimp only
      split_ifs
      · exact failsOnly_error.2 (.settings rfl)
      · exact failsOnly_ok _

/-- Without need for a group all checks that are left behind the gate go to one module. -/
theorem Known.exists_commonModule (h : rule.Known) (hne : rule.checks ≠ [])
    (hsingle : rule.needsGroup = false) :
    ∃ m, commonModule rule.checks = .ok m ∧ rule.Reaches m ∧ rule.checksOf m = rule.checks := by
  obtain ⟨m, hm⟩ := (needsGroup_eq_false_iff h.module?_of_mem_checks).1 hsingle
  obtain ⟨c, hc⟩ := List.exists_mem_of_ne_nil _ hne
  exact ⟨m, commonModule_eq_ok.2 ⟨hne, hm⟩, ⟨c, hc, hm c hc⟩, checksOf_eq_checks hm⟩

variable [Pattern.Engine]

theorem Known.failsOnly_single (h : rule.Known) (hsingle : rule.needsGroup = false) :
    FailsOnly Failure.LeftByChecks (SinglePolicy.ofRule source config rule) := by
  unfold SinglePolicy.ofRule
  refine h.failsOnly_gate.bind fun selector hgate => ?_
  obtain ⟨m, hcommon, hm, hchecks⟩ := h.exists_commonModule (gate_eq_ok.1 hgate).2.1 hsingle
  rw [hcommon, ok_bind, ← hchecks]
  exact (h.failsOnly_settingsFor hm).bind fun _ _ => failsOnly_pure _

theorem Known.failsOnly_group (h : rule.Known) :
    FailsOnly Failure.LeftByChecks (PolicyGroup.ofRule source config rule) := by
  rw [PolicyGroup.ofRule_eq h.module?_of_mem_checks]
  refine h.failsOnly_gate.bind fun selector _ => ?_
  refine FailsOnly.bind (FailsOnly.mapM fun entry hentry => ?_) fun _ _ => failsOnly_pure _
  obtain ⟨m, hm, rfl⟩ := List.mem_map.1 hentry
  have hsettings : FailsOnly Failure.LeftByChecks (m.settingsFor source (rule.checksOf m)) :=
    h.failsOnly_settingsFor (Share.mem_reached.1 hm)
  exact (hsettings.bind fun _ _ => failsOnly_pure _).bind fun _ _ => failsOnly_pure _

theorem Known.failsOnly_policy (h : rule.Known) :
    FailsOnly Failure.LeftByChecks (Policy.ofRule source config rule) := by
  unfold Policy.ofRule
  split
  · exact h.failsOnly_group.map
  · next hsingle => exact (h.failsOnly_single (Bool.not_eq_true _ ▸ hsingle)).map

end Rule

abbrev FailsByRule {α : Type} (x : Except Failure α) : Prop :=
  FailsOnly (fun failure => failure.isRuleScoped = true) x

theorem Failure.LeftByChecks.isRuleScoped {failure : Failure} (h : failure.LeftByChecks) :
    failure.isRuleScoped = true := by
  cases h <;> rfl

theorem Criterion.failsByRule_expand (c : Criterion) : FailsByRule c.expand := by
  unfold Criterion.expand
  split
  · exact failsOnly_ok _
  · split_ifs
    · exact failsOnly_ok _
    · exact failsOnly_error.2 rfl

theorem failsByRule_expandAll (criteria : List Criterion) : FailsByRule (expandAll criteria) := by
  induction criteria with
  | nil => exact failsOnly_ok _
  | cons c cs ih =>
    exact c.failsByRule_expand.bind fun _ _ => ih.bind fun _ _ => failsOnly_pure _

theorem Criterion.failsByRule_validate (c : Criterion) : FailsByRule c.validate := by
  unfold Criterion.validate
  split_ifs
  · exact failsOnly_ok _
  · split
    · exact failsOnly_error.2 rfl
    · split_ifs
      · exact failsOnly_error.2 rfl
      · exact failsOnly_ok _
      · exact failsOnly_error.2 rfl

theorem Rule.failsByRule_validate (rule : Rule) : FailsByRule rule.validate := by
  unfold Rule.validate
  split_ifs
  · exact failsOnly_error.2 rfl
  · exact failsOnly_error.2 rfl
  · exact failsOnly_error.2 rfl
  · exact FailsOnly.forM fun c _ => c.failsByRule_validate

theorem Rule.known_of_validate {rule : Rule} (hplain : rule.hasCustom = false)
    (hvalid : rule.validate = .ok ()) : rule.Known :=
  Rule.known_iff.2 ⟨hplain, (Rule.validate_eq_ok.1 hvalid).2.2.2⟩

/-- Only a bridge can fail with something else than a rule. -/
theorem Converter.failsByRule_convert [Pattern.Engine] {converter : Converter}
    (hbridge : converter.bridge = Bridge.none) (rule : Rule) :
    FailsByRule (converter.convert rule) := by
  unfold Converter.convert
  refine FailsOnly.bind ?_ fun written _ => ?_
  · exact (failsByRule_expandAll rule.criteria).bind fun _ _ => failsOnly_pure _
  · split
    · rw [hbridge]
      exact FailsOnly.map (failsOnly_error.2 rfl)
    · next hplain =>
      refine written.failsByRule_validate.bind fun _ hvalid => ?_
      have hknown : written.Known := Rule.known_of_validate (Bool.not_eq_true _ ▸ hplain) hvalid
      exact FailsOnly.map (hknown.failsOnly_policy.imp fun _ h => h.isRuleScoped)

/-- What passed its checks fails for its gate or for values only, and all agree on how many modules
it needs; without a bridge of its own a converter fails for rules only. -/
theorem Policy.failures_after_checks [Pattern.Engine] {rule : Rule}
    (hplain : rule.hasCustom = false)
    (hvalid : rule.validate = .ok ()) (source : Settings.ScanSource) (config : Config) :
    (∀ failure, Policy.ofRule source config rule = .error failure → failure.LeftByChecks) ∧
    (rule.needsGroup = true ↔ 2 ≤ rule.modules.card) ∧
    (Succeeds (commonModule rule.checks) ↔ rule.modules.card = 1) ∧
    (∃ shares, Share.ofChecks rule.checks = .ok shares ∧ shares.length = rule.modules.card ∧
      (shares.map fun s => s.2.module).toFinset = rule.modules) ∧
    ∀ converter : Converter, converter.bridge = Bridge.none → ∀ other failure,
      converter.convert other = .error failure → failure.isRuleScoped = true := by
  have hknown : rule.Known := Rule.known_of_validate hplain hvalid
  have hmod := hknown.module?_of_mem_checks
  refine ⟨hknown.failsOnly_policy, Rule.needsGroup_iff_card hmod,
    succeeds_commonModule_iff_card hmod, ⟨_, Share.ofChecks_eq_ok hmod, ?_, ?_⟩,
    fun converter hbridge other => Converter.failsByRule_convert hbridge other⟩
  · rw [List.length_map, Share.length_reached]
  · have hmodules : ((Share.reached rule.checks Module.byName).map (Share.entry rule.checks)).map
        (fun s => s.2.module) = Share.reached rule.checks Module.byName := by
      rw [List.map_map]
      exact List.map_id _
    rw [hmodules, Share.toFinset_reached]

/-- A rule that passes its checks, with a count that no module accepts. -/
def Rule.negativeCount : Rule where
  id := 1001
  criteria := [{ name := "runAsRoot", operator := "=", value := "true" },
    { name := "namespace", operator := "containsAny", value := "dev" },
    { name := "cveHighCount", operator := ">=", value := "-3" }]

theorem Policy.failures_after_checks_negativeCount : ∃ failure,
    Policy.ofRule ⟨"sbomscanner", "amd64"⟩ {} .negativeCount = .error failure ∧
      failure.LeftByChecks ∧ 2 ≤ Rule.negativeCount.modules.card := by
  have hplain : Rule.negativeCount.hasCustom = false := by decide
  have hvalid : Rule.negativeCount.validate = .ok () := by decide
  obtain ⟨hleft, hcard, -⟩ :=
    Policy.failures_after_checks hplain hvalid ⟨"sbomscanner", "amd64"⟩ {}
  have hfails : Policy.ofRule ⟨"sbomscanner", "amd64"⟩ {} .negativeCount =
      .error (.settings (.negativeCount "cveHighCount" (-3))) := rfl
  exact ⟨_, hfails, hleft _ hfails, hcard.1 (by decide)⟩

end Admission
