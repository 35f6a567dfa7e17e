import Admission.Proofs.Literal
import Admission.Settings

/-!
What the value of a criterion has to look like. Main statement: a module has settings for criteria
that it may be handed exactly when all of them are well formed and, where the module takes one
criterion only, there is no second.
-/

namespace Admission

def riskCategories : List String :=
  ["risky_role_view_secret", "risky_role_any_action_workload", "risky_role_any_action_rbac",
    "risky_role_create_pod", "risky_role_exec_into_container"]

namespace Criterion

/-- One of four quantities, bounded from above or below by a finite number that is not negative. -/
structure IsBound (part : Criterion) : Prop where
  quantity : part.name ∈ ["cpuLimit", "cpuRequest", "memoryLimit", "memoryRequest"]
  operator : part.operator ∈ ["<=", ">"]
  number : ∃ d, Number.Decimal.ofChars? (Text.trimChars part.value.toList) = some d ∧
    d.isNonNegative = true

variable [Pattern.Engine]

/-- The whole value is a regular expression under the two operators that take one; under the others
it is a list, and each item gives one. -/
def HasPatterns (c : Criterion) : Prop :=
  if c.operator ∈ ["regex", "!regex"] then
    Text.trim c.value ≠ "" ∧ Pattern.Engine.accepts (Text.trim c.value) = true
  else c.items ≠ [] ∧ ∀ item ∈ c.items, Pattern.Engine.accepts (Pattern.ofWildcard item) = true

def WellFormed (c : Criterion) : Topic → Prop
  | .shareIpcWithHost | .shareNetWithHost | .sharePidWithHost | .imageScanned =>
    c.value ∈ Settings.trueLiterals ++ Settings.falseLiterals
  | .cveHighCount | .cveMediumCount =>
    ∃ n, Number.DenotesInteger (Text.trimChars c.value.toList) n ∧ 0 ≤ n ∧ n ≤ Number.maxInteger
  | .envVarSecrets => Text.trim c.value = "false"
  | .storageClassName | .envVars | .image | .imageRegistry | .namespaceName | .labels
  | .annotations => c.items ≠ []
  | .saBindRiskyRole => c.items ≠ [] ∧ ∀ item ∈ c.items, item ∈ riskCategories
  | .user | .userGroups => c.HasPatterns
  | .resourceLimit => c.parts ≠ [] ∧ ∀ part ∈ c.parts, part.IsBound
  | _ => True

/-- The module may be handed the criterion, which is about this topic. -/
structure GoesTo (c : Criterion) (m : Module) (topic : Topic) : Prop where
  about : c.topic? = some topic
  role : topic.role = .check m
  operator : topic.accepts c.operator = true

end Criterion

namespace Module

def topics : Module → List Topic
  | hostNamespaces => [.shareIpcWithHost, .shareNetWithHost, .sharePidWithHost]
  | privilegeEscalation => [.allowPrivEscalation]
  | podPrivileged => [.runAsPrivileged]
  | runningAsUser => [.runAsRoot]
  | trustedRepos => [.image, .imageRegistry]
  | secretsScanner => [.envVarSecrets]
  | environmentVariables => [.envVars]
  | labels => [.labels]
  | annotations => [.annotations]
  | cel => [.user, .userGroups]
  | imageCve => [.imageScanned, .cveHighCount, .cveMediumCount]
  | serviceAccount => [.saBindRiskyRole]
  | containerResources => [.resourceLimit]
  | storageClass => [.storageClassName]

theorem mem_topics {m : Module} {topic : Topic} (h : topic.role = .check m) : topic ∈ m.topics := by
  cases topic <;> cases h <;> decide

def takesOne : Module → Bool
  | environmentVariables | labels | annotations | serviceAccount | containerResources
  | storageClass => true
  | _ => false

end Module

theorem Topic.accepts_iff {topic : Topic} {operator : String} :
    topic.accepts operator = true ↔ ∃ o ∈ topic.operators, o.text = operator := by
  simp only [accepts, List.any_eq_true, beq_iff_eq]

theorem Criterion.GoesTo.mem_topics {c : Criterion} {m : Module} {topic : Topic}
    (h : c.GoesTo m topic) : topic ∈ m.topics := Module.mem_topics h.role

/-- The modules that match lists have topics with four operators. -/
theorem Criterion.GoesTo.listOperator {c : Criterion} {m : Module} {topic : Topic}
    (h : c.GoesTo m topic) (hm : m ∈ [.environmentVariables, .labels, .annotations]) :
    c.operator ∈ ["containsAll", "containsAny", "notContainsAny", "containsOtherThan"] := by
  have ht := h.mem_topics
  have ho := Topic.accepts_iff.1 h.operator
  simp only [List.mem_cons, List.not_mem_nil, or_false] at hm
  rcases hm with rfl | rfl | rfl <;>
    simp only [Module.topics, List.mem_cons, List.not_mem_nil, or_false] at ht <;> subst ht <;>
    simpa [Topic.operators, Operator.text, eq_comm] using ho

namespace Settings

variable {c : Criterion} {topic : Topic}

theorem succeeds_addHostNamespace [Pattern.Engine] (s : HostNamespaces)
    (h : c.GoesTo .hostNamespaces topic) :
    Succeeds (HostNamespaces.add s c) ↔ c.WellFormed topic := by
  have ht := h.mem_topics
  simp only [Module.topics, List.mem_cons, List.not_mem_nil, or_false] at ht
  unfold HostNamespaces.add
  rw [h.about, succeeds_bind_left]
  · rcases ht with rfl | rfl | rfl <;> exact succeeds_boolean
  · rcases ht with rfl | rfl | rfl <;> exact fun _ => succeeds_pure _

theorem succeeds_addTrustedRepo [Pattern.Engine] (s : TrustedRepos)
    (h : c.GoesTo .trustedRepos topic) :
    Succeeds (TrustedRepos.add s c) ↔ c.WellFormed topic := by
  have ht := h.mem_topics
  simp only [Module.topics, List.mem_cons, List.not_mem_nil, or_false] at ht
  unfold TrustedRepos.add
  rcases ht with rfl | rfl <;> rw [h.about] <;> dsimp only <;>
    rw [succeeds_bind_left fun _ => succeeds_pure _] <;> exact succeeds_items

/-- Every count leaves room for the greatest count below it. -/
theorem succeeds_maxAccepted_count : Succeeds (count c >>= maxAccepted) ↔
    ∃ n, Number.DenotesInteger (Text.trimChars c.value.toList) n ∧
      0 ≤ n ∧ n ≤ Number.maxInteger := by
  simp only [succeeds_bind, count_eq_ok]
  constructor
  · intro hgiven
    obtain ⟨n, hn, -⟩ := hgiven
    exact ⟨n, hn⟩
  · intro hgiven
    obtain ⟨n, hn⟩ := hgiven
    refine ⟨n, hn, ?_⟩
    have h0 : ¬ n - 1 < Number.minInteger := by
      have := hn.2.1
      unfold Number.minInteger
      omega
    rw [maxAccepted, if_neg h0]
    exact succeeds_ok _

theorem succeeds_addImageScan [Pattern.Engine] (s : ImageScan) (h : c.topic? = some topic)
    (ht : topic ∈ Module.imageCve.topics) :
    Succeeds (ImageScan.add s c) ↔ c.WellFormed topic := by
  simp only [Module.topics, List.mem_cons, List.not_mem_nil, or_false] at ht
  unfold ImageScan.add
  rcases ht with rfl | rfl | rfl <;> rw [h] <;> dsimp only
  · rw [succeeds_bind_left fun _ => succeeds_pure _]
    exact succeeds_boolean
  all_goals
    rw [← bind_assoc, succeeds_bind_left fun _ => succeeds_pure _]
    exact succeeds_maxAccepted_count

theorem succeeds_switch {switch : Switch} {criteria : List Criterion} :
    Succeeds (switch.ofCriteria criteria) ↔
      ∀ c ∈ criteria, switch.needsFalse = true → Text.trim c.value = "false" := by
  have hcheck (c : Criterion) : switch.check c = .ok () ↔
      (switch.needsFalse = true → Text.trim c.value = "false") := by
    unfold Switch.check
    split <;> simp_all
  unfold Switch.ofCriteria
  rw [succeeds_bind_left fun _ => succeeds_pure _, succeeds_unit, forM_eq_ok]
  simp only [hcheck]

theorem succeeds_checkPattern [Pattern.Engine] {pattern : String} :
    Succeeds (Validation.checkPattern c pattern) ↔ Pattern.Engine.accepts pattern = true := by
  unfold Validation.checkPattern
  split <;> simp_all

theorem succeeds_patterns [Pattern.Engine] : Succeeds (Validation.patterns c) ↔
    c.items ≠ [] ∧ ∀ item ∈ c.items, Pattern.Engine.accepts (Pattern.ofWildcard item) = true := by
  unfold Validation.patterns
  rw [succeeds_bind]
  simp only [items_eq_ok_iff, succeeds_bind_left fun _ => succeeds_pure _, succeeds_mapM,
    succeeds_checkPattern]
  constructor
  · intro hgiven
    obtain ⟨_, ⟨rfl, hne⟩, h⟩ := hgiven
    exact ⟨hne, h⟩
  · intro hgiven
    obtain ⟨hne, h⟩ := hgiven
    exact ⟨_, ⟨rfl, hne⟩, h⟩

theorem succeeds_pattern [Pattern.Engine] : Succeeds (Validation.pattern c) ↔
    Text.trim c.value ≠ "" ∧ Pattern.Engine.accepts (Text.trim c.value) = true := by
  unfold Validation.pattern
  dsimp only
  split
  · next h => simp [h]
  · next h => simp [h, succeeds_checkPattern]

theorem succeeds_validation [Pattern.Engine] (h : c.GoesTo .cel topic) :
    Succeeds (Validation.ofCriterion c) ↔ c.WellFormed topic := by
  have ht := h.mem_topics
  obtain ⟨operator, ho, htext⟩ := Topic.accepts_iff.1 h.operator
  simp only [Module.topics, List.mem_cons, List.not_mem_nil, or_false] at ht
  have hread : Operator.ofText? c.operator = some operator := htext ▸ Operator.ofText?_text operator
  -- The topic and the operator choose how the value is read, so both are split on.
  unfold Validation.ofCriterion
  rcases ht with rfl | rfl <;> rw [h.about] <;>
    simp only [Topic.operators, List.mem_cons, List.not_mem_nil, or_false] at ho <;>
    simp only [Criterion.WellFormed, Criterion.HasPatterns, ← htext]
  · unfold Validation.ofUser
    rw [hread]
    rcases ho with rfl | rfl | rfl | rfl <;> dsimp only <;>
      rw [succeeds_bind_left fun _ => succeeds_pure _]
    · exact succeeds_patterns.trans (iff_of_eq (if_neg (by decide)).symm)
    · exact succeeds_patterns.trans (iff_of_eq (if_neg (by decide)).symm)
    · exact succeeds_pattern.trans (iff_of_eq (if_pos (by decide)).symm)
    · exact succeeds_pattern.trans (iff_of_eq (if_pos (by decide)).symm)
  · unfold Validation.ofGroups
    rw [hread]
    rcases ho with rfl | rfl | rfl | rfl | rfl | rfl <;> dsimp only <;>
      rw [succeeds_bind_left fun _ => succeeds_pure _]
    · exact succeeds_patterns.trans (iff_of_eq (if_neg (by decide)).symm)
    · exact succeeds_patterns.trans (iff_of_eq (if_neg (by decide)).symm)
    · exact succeeds_patterns.trans (iff_of_eq (if_neg (by decide)).symm)
    · exact succeeds_patterns.trans (iff_of_eq (if_neg (by decide)).symm)
    · exact succeeds_pattern.trans (iff_of_eq (if_pos (by decide)).symm)
    · exact succeeds_pattern.trans (iff_of_eq (if_pos (by decide)).symm)

/-- Conditions are made one by one, of one criterion at least. -/
theorem ofCriteria_of_ne_nil [Pattern.Engine] {criteria : List Criterion} (hne : criteria ≠ []) :
    Conditions.ofCriteria criteria =
      (criteria.mapM Validation.ofCriterion).map Conditions.mk := by
  unfold Conditions.ofCriteria
  rw [List.isEmpty_eq_false_iff.2 hne]
  rfl

theorem conditions_eq_ok [Pattern.Engine] {criteria : List Criterion} {conditions : Conditions} :
    Conditions.ofCriteria criteria = .ok conditions ↔
      criteria ≠ [] ∧ criteria.mapM Validation.ofCriterion = .ok conditions.validations := by
  by_cases hne : criteria = []
  · subst hne
    simp [Conditions.ofCriteria, throw, throwThe, MonadExceptOf.throw, bind, Except.bind]
  · rw [ofCriteria_of_ne_nil hne, map_eq_ok]
    constructor
    · rintro ⟨validations, hmade, rfl⟩
      exact ⟨hne, hmade⟩
    · intro hgiven
      exact ⟨_, hgiven.2, rfl⟩

/-- Each of the four operators has a keyword that negates it. -/
theorem exists_negation?
    (ho : c.operator ∈ ["containsAll", "containsAny", "notContainsAny", "containsOtherThan"]) :
    ∃ keyword, (Operator.ofText? c.operator).bind ValueList.negation? = some keyword := by
  simp only [List.mem_cons, List.not_mem_nil, or_false] at ho
  rcases ho with ho | ho | ho | ho <;> rw [ho] <;> exact ⟨_, rfl⟩

theorem succeeds_valueList
    (ho : c.operator ∈ ["containsAll", "containsAny", "notContainsAny", "containsOtherThan"]) :
    Succeeds (ValueList.ofCriteria [c]) ↔ c.items ≠ [] := by
  obtain ⟨keyword, hk⟩ := exists_negation? ho
  unfold ValueList.ofCriteria
  rw [single, ok_bind, hk]
  dsimp only
  rw [succeeds_bind_left fun _ => succeeds_pure _, succeeds_items]

theorem ofCategory?_isSome {category : String} :
    (BlockRule.ofCategory? category).isSome = true ↔ category ∈ riskCategories := by
  unfold BlockRule.ofCategory? riskCategories
  split_ifs <;> simp_all

theorem succeeds_addCategory {rules : List BlockRule} {category : String} :
    Succeeds (BlockedRoles.add rules category) ↔ category ∈ riskCategories := by
  rw [← ofCategory?_isSome]
  unfold BlockedRoles.add
  split <;> simp_all

theorem succeeds_blockedRoles : Succeeds (BlockedRoles.ofCriteria [c]) ↔
    c.items ≠ [] ∧ ∀ item ∈ c.items, item ∈ riskCategories := by
  have hfold (found : List String) : Succeeds (found.foldlM BlockedRoles.add []) ↔
      ∀ item ∈ found, item ∈ riskCategories :=
    succeeds_foldlM (P := (· ∈ riskCategories)) fun _ _ _ => succeeds_addCategory
  unfold BlockedRoles.ofCriteria
  rw [single, ok_bind, ← bind_assoc, succeeds_bind_left fun _ => succeeds_pure _, succeeds_bind]
  simp only [items_eq_ok_iff, hfold]
  constructor
  · intro hgiven
    obtain ⟨_, ⟨rfl, hne⟩, h⟩ := hgiven
    exact ⟨hne, h⟩
  · intro hgiven
    obtain ⟨hne, h⟩ := hgiven
    exact ⟨_, ⟨rfl, hne⟩, h⟩

theorem succeeds_quantity : Succeeds (ResourceBounds.quantity c) ↔
    ∃ d, Number.Decimal.ofChars? (Text.trimChars c.value.toList) = some d ∧
      d.isNonNegative = true := by
  unfold ResourceBounds.quantity
  split
  · next h => simpa [Option.any_eq_true] using h
  · next h => simpa [Option.any_eq_true] using h

theorem ofOperator?_isSome {operator : String} :
    (BoundSide.ofOperator? operator).isSome = true ↔ operator ∈ ["<=", ">"] := by
  unfold BoundSide.ofOperator?
  constructor
  · intro h
    split at h
    · next ho => simp [← Operator.text_of_ofText? ho, Operator.text]
    · next ho => simp [← Operator.text_of_ofText? ho, Operator.text]
    · simp at h
  · simp only [List.mem_cons, List.not_mem_nil, or_false]
    rintro (rfl | rfl) <;> rfl

theorem succeeds_addBound (s : ResourceBounds) :
    Succeeds (ResourceBounds.add s c) ↔ c.IsBound := by
  have hname : c.name ∈ ["cpuLimit", "cpuRequest", "memoryLimit", "memoryRequest"] ↔
      c.name = "cpuLimit" ∨ c.name = "cpuRequest" ∨ c.name = "memoryLimit" ∨
        c.name = "memoryRequest" := by
    simp only [List.mem_cons, List.not_mem_nil, or_false]
  have hbound : c.IsBound ↔ (BoundSide.ofOperator? c.operator).isSome = true ∧
      Succeeds (ResourceBounds.quantity c) ∧
      c.name ∈ ["cpuLimit", "cpuRequest", "memoryLimit", "memoryRequest"] := by
    rw [ofOperator?_isSome, succeeds_quantity]
    exact ⟨fun ⟨h₁, h₂, h₃⟩ => ⟨h₂, h₃, h₁⟩, fun ⟨h₂, h₃, h₁⟩ => ⟨h₁, h₂, h₃⟩⟩
  rw [hbound, hname]
  unfold ResourceBounds.add
  cases BoundSide.ofOperator? c.operator with
  | none => simp
  | some side =>
    cases ResourceBounds.quantity c with
    | error fault => simp [error_bind]
    | ok q =>
      simp only [ok_bind, Option.isSome_some, succeeds_ok, true_and]
      split_ifs <;> simp_all [throw, throwThe, MonadExceptOf.throw]

theorem succeeds_resourceBounds : Succeeds (ResourceBounds.ofCriteria [c]) ↔
    c.parts ≠ [] ∧ ∀ part ∈ c.parts, part.IsBound := by
  have hfold : Succeeds (c.parts.foldlM ResourceBounds.add {}) ↔ ∀ part ∈ c.parts, part.IsBound :=
    succeeds_foldlM (P := Criterion.IsBound) fun s _ _ => succeeds_addBound s
  unfold ResourceBounds.ofCriteria
  rw [single, ok_bind]
  dsimp only
  split
  · next h => simp [throw, throwThe, MonadExceptOf.throw, List.isEmpty_iff.1 h]
  · next h =>
    rw [hfold]
    exact (and_iff_right fun hnil => h (List.isEmpty_iff.2 hnil)).symm

theorem succeeds_storageClasses : Succeeds (StorageClasses.ofCriteria [c]) ↔ c.items ≠ [] := by
  unfold StorageClasses.ofCriteria
  rw [single, ok_bind, succeeds_bind_left fun _ => succeeds_pure _, succeeds_items]

end Settings

namespace Criterion

variable [Pattern.Engine]

/-- The value is written as the criterion's topic needs it, if it has one. -/
def IsWellFormed (c : Criterion) : Prop := ∀ topic, c.topic? = some topic → c.WellFormed topic

theorem isWellFormed_iff {c : Criterion} {topic : Topic} (h : c.topic? = some topic) :
    c.IsWellFormed ↔ c.WellFormed topic := by
  constructor
  · exact fun hc => hc topic h
  · intro hc other hother
    rw [h] at hother
    cases hother
    exact hc

theorem GoesTo.isWellFormed_iff {c : Criterion} {m : Module} {topic : Topic}
    (h : c.GoesTo m topic) : c.IsWellFormed ↔ c.WellFormed topic :=
  Criterion.isWellFormed_iff h.about

end Criterion

open Settings in
/-- The settings of a module for one criterion. -/
theorem Module.succeeds_settings_singleton [Pattern.Engine] (source : ScanSource) {m : Module}
    {c : Criterion} {topic : Topic} (hm : m.takesOne = true) (h : c.GoesTo m topic) :
    Succeeds (m.settings source [c]) ↔ c.WellFormed topic := by
  have ht := h.mem_topics
  cases m <;> cases hm <;>
    simp only [Module.topics, List.mem_cons, List.not_mem_nil, or_false] at ht <;>
    subst ht <;> simp only [Module.settings, succeeds_map, Criterion.WellFormed]
  case environmentVariables => exact succeeds_valueList (h.listOperator (by simp))
  case labels => exact succeeds_valueList (h.listOperator (by simp))
  case annotations => exact succeeds_valueList (h.listOperator (by simp))
  case serviceAccount => exact succeeds_blockedRoles
  case containerResources => exact succeeds_resourceBounds
  case storageClass => exact succeeds_storageClasses

open Settings in
/-- A module that takes one criterion refuses two. -/
theorem Module.settings_cons_cons [Pattern.Engine] (source : ScanSource) {m : Module}
    (hm : m.takesOne = true) (c d : Criterion) (cs : List Criterion) :
    m.settings source (c :: d :: cs) = .error .notSingle := by
  cases m <;> cases hm <;> rfl

theorem Settings.succeeds_switch_iff [Pattern.Engine] {switch : Switch} {m : Module}
    {criteria : List Criterion} (hgo : ∀ c ∈ criteria, ∃ topic, c.GoesTo m topic)
    (hwf : ∀ (c : Criterion) topic, c.GoesTo m topic →
      (c.WellFormed topic ↔ (switch.needsFalse = true → Text.trim c.value = "false"))) :
    Succeeds (switch.ofCriteria criteria) ↔ ∀ c ∈ criteria, c.IsWellFormed := by
  rw [succeeds_switch]
  apply forall₂_congr
  intro c hc
  obtain ⟨topic, hgo⟩ := hgo c hc
  rw [hgo.isWellFormed_iff, hwf c topic hgo]

open Settings in
/-- The settings of a module that takes any number of criteria. -/
theorem Module.succeeds_settings_of_not_takesOne [Pattern.Engine] (source : ScanSource) {m : Module}
    (hm : m.takesOne = false) {criteria : List Criterion} (hne : criteria ≠ [])
    (h : ∀ c ∈ criteria, ∃ topic, c.GoesTo m topic) :
    Succeeds (m.settings source criteria) ↔ ∀ c ∈ criteria, c.IsWellFormed := by
  cases m <;> cases hm <;> simp only [Module.settings, succeeds_map]
  case hostNamespaces =>
    apply succeeds_foldlM
    intro s c hc
    obtain ⟨topic, hgo⟩ := h c hc
    rw [hgo.isWellFormed_iff, succeeds_addHostNamespace s hgo]
  case trustedRepos =>
    apply succeeds_foldlM
    intro s c hc
    obtain ⟨topic, hgo⟩ := h c hc
    rw [hgo.isWellFormed_iff, succeeds_addTrustedRepo s hgo]
  case imageCve =>
    apply succeeds_foldlM
    intro s c hc
    obtain ⟨topic, hgo⟩ := h c hc
    rw [hgo.isWellFormed_iff, succeeds_addImageScan s hgo.about hgo.mem_topics]
  case cel =>
    rw [ofCriteria_of_ne_nil hne, succeeds_map, succeeds_mapM]
    apply forall₂_congr
    intro c hc
    obtain ⟨topic, hgo⟩ := h c hc
    rw [hgo.isWellFormed_iff, succeeds_validation hgo]
  -- What is left are the switches, of which one only looks at the value.
  all_goals
    apply succeeds_switch_iff h
    intro c topic hgo
    have ht := hgo.mem_topics
    simp only [Module.topics, List.mem_cons, List.not_mem_nil, or_false] at ht
    subst ht
    simp [Criterion.WellFormed, Switch.needsFalse]

/-- A module has settings exactly for well-formed criteria, not too many of them. -/
theorem Module.succeeds_settings_iff [Pattern.Engine] (source : Settings.ScanSource) (m : Module)
    {criteria : List Criterion} (hne : criteria ≠ [])
    (h : ∀ c ∈ criteria, ∃ topic, c.GoesTo m topic) :
    Succeeds (m.settings source criteria) ↔
      (m.takesOne = true → criteria.length ≤ 1) ∧ ∀ c ∈ criteria, c.IsWellFormed := by
  cases hm : m.takesOne with
  | false => simpa using m.succeeds_settings_of_not_takesOne source hm hne h
  | true =>
    -- One criterion is judged by its topic; a second one is refused unread.
    match criteria, hne with
    | [c], _ =>
      obtain ⟨topic, hgo⟩ := h c (by simp)
      simp [m.succeeds_settings_singleton source hm hgo, hgo.isWellFormed_iff]
    | c :: d :: cs, _ => simp [m.settings_cons_cons source hm]

end Admission
