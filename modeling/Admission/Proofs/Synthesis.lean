import Admission.Proofs.Grouping
import Mathlib.Data.Finset.Card

/-!
When a rule has a policy, and what is in it. Main statements: a single policy needs one module for
all checks, a group none in particular; besides that both need the same gate, and settings for the
checks of every module.
-/

namespace Admission

variable {source : Settings.ScanSource} {config : Config} {rule : Rule} {m : Module}

theorem Rule.gate_eq_ok {selector : Option Selector} : rule.gate = .ok selector ↔
    rule.gates.length ≤ 1 ∧ rule.checks ≠ [] ∧ rule.selector = .ok selector := by
  unfold Rule.gate
  split
  · next h =>
    simp only [reduceCtorEq, false_iff, not_and]
    omega
  · next h =>
    split
    · next hnil => simp [hnil]
    · next hne =>
      have : rule.gates.length ≤ 1 := by omega
      simp [this, hne]

theorem Rule.reaches_iff {m : Module} : rule.Reaches m ↔ rule.checksOf m ≠ [] := by
  simp [Rule.Reaches, Rule.checksOf]

theorem Share.mem_reached {checks : List Criterion} :
    m ∈ Share.reached checks Module.byName ↔ ∃ c ∈ checks, c.module? = some m := by
  simp [Share.reached, Module.mem_byName]

theorem Criterion.route_eq_ok {c : Criterion} : c.route = .ok m ↔ c.module? = some m := by
  unfold Criterion.route
  split <;> simp_all

/-- A rule reaches a module as soon as it has a check. -/
theorem Rule.exists_reaches (h : ∀ c ∈ rule.checks, ∃ m, c.module? = some m)
    (hne : rule.checks ≠ []) : ∃ m, rule.Reaches m := by
  obtain ⟨c, hc⟩ := List.exists_mem_of_ne_nil _ hne
  obtain ⟨m, hm⟩ := h c hc
  exact ⟨m, c, hc, hm⟩

/-- The modules that the checks of the rule reach. -/
def Rule.modules (rule : Rule) : Finset Module := (rule.checks.filterMap Criterion.module?).toFinset

theorem Rule.mem_modules : m ∈ rule.modules ↔ rule.Reaches m := by
  rw [Rule.modules, List.mem_toFinset, List.mem_filterMap]
  rfl

theorem Share.nodup_reached (checks : List Criterion) : (reached checks Module.byName).Nodup :=
  (List.Nodup.of_map _ Module.nodup_map_memberName).sublist List.filter_sublist

theorem Share.toFinset_reached :
    (reached rule.checks Module.byName).toFinset = rule.modules := by
  ext m
  rw [List.mem_toFinset, Share.mem_reached, Rule.mem_modules]
  rfl

theorem Share.mem_reached_iff : m ∈ reached rule.checks Module.byName ↔ m ∈ rule.modules := by
  rw [← Share.toFinset_reached, List.mem_toFinset]

theorem Share.length_reached : (reached rule.checks Module.byName).length = rule.modules.card := by
  rw [← Share.toFinset_reached, List.toFinset_card_of_nodup (nodup_reached rule.checks)]

theorem commonModule_eq_ok {checks : List Criterion} :
    commonModule checks = .ok m ↔ checks ≠ [] ∧ ∀ c ∈ checks, c.module? = some m := by
  cases checks with
  | nil => simp [commonModule]
  | cons c cs =>
    unfold commonModule
    simp only [bind_eq_ok, pure_eq_ok, Criterion.route_eq_ok, List.forall_mem_cons]
    constructor
    · intro hgiven
      obtain ⟨first, hc, ⟨⟩, hcs, rfl⟩ := hgiven
      refine ⟨List.cons_ne_nil c cs, hc, fun d hd => ?_⟩
      obtain ⟨second, hsecond, heq⟩ := bind_eq_ok.1 (forM_eq_ok.1 hcs d hd)
      split at heq
      · next h => exact h ▸ Criterion.route_eq_ok.1 hsecond
      · cases heq
    · intro hgiven
      obtain ⟨-, hc, hcs⟩ := hgiven
      refine ⟨m, hc, (), forM_eq_ok.2 fun d hd => ?_, rfl⟩
      rw [Criterion.route_eq_ok.2 (hcs d hd), ok_bind, if_pos rfl]
      rfl

/-- The policy that hands the checks of a rule to one module, from the parts that may fail. -/
def SinglePolicy.assemble (config : Config) (rule : Rule) (m : Module)
    (selector : Option Selector) (settings : Tree) : SinglePolicy where
  apiVersion := policyApiVersion
  kind := "ClusterAdmissionPolicy"
  name := rule.policyName
  server := config.policyServer
  module := m.reference
  mode := config.resolveMode rule.mode
  backgroundAudit := config.backgroundAudit
  rules := MatchRule.ofResources [m.resource]
  settings
  contextResources := m.contextResources
  selector

theorem SinglePolicy.ofRule_eq [Pattern.Engine] (h : commonModule rule.checks = .ok m) :
    SinglePolicy.ofRule source config rule = (do
      let selector ← rule.gate
      let settings ← m.settingsFor source rule.checks
      return assemble config rule m selector settings) := by
  unfold SinglePolicy.ofRule
  rw [h]
  rfl

/-- A single policy is assembled from a gate, the module of all checks and its settings. -/
theorem SinglePolicy.ofRule_eq_ok [Pattern.Engine] {policy : SinglePolicy} :
    SinglePolicy.ofRule source config rule = .ok policy ↔ ∃ selector m settings,
      rule.gate = .ok selector ∧ commonModule rule.checks = .ok m ∧
        m.settingsFor source rule.checks = .ok settings ∧
        policy = assemble config rule m selector settings := by
  unfold SinglePolicy.ofRule
  simp only [bind_eq_ok, pure_eq_ok]
  constructor
  · rintro ⟨selector, hgate, m, hm, settings, hsettings, rfl⟩
    exact ⟨selector, m, settings, hgate, hm, hsettings, rfl⟩
  · rintro ⟨selector, m, settings, hgate, hm, hsettings, rfl⟩
    exact ⟨selector, hgate, m, hm, settings, hsettings, rfl⟩

theorem SinglePolicy.succeeds_ofRule [Pattern.Engine] :
    Succeeds (SinglePolicy.ofRule source config rule) ↔
    Succeeds rule.gate ∧
      ∃ m, (∀ c ∈ rule.checks, c.module? = some m) ∧
        Succeeds (m.settings source rule.checks) := by
  unfold SinglePolicy.ofRule
  simp only [succeeds_bind, succeeds_bind_left fun _ => succeeds_pure _, commonModule_eq_ok,
    Module.settingsFor, succeeds_mapError]
  constructor
  · intro hgiven
    obtain ⟨selector, hgate, m, ⟨-, hm⟩, hs⟩ := hgiven
    exact ⟨⟨selector, hgate⟩, m, hm, hs⟩
  · intro hgiven
    obtain ⟨⟨selector, hgate⟩, m, hm, hs⟩ := hgiven
    exact ⟨selector, hgate, m, ⟨(Rule.gate_eq_ok.1 hgate).2.1, hm⟩, hs⟩

def Share.members [Pattern.Engine] (source : Settings.ScanSource) (shares : List (String × Share)) :
    Except Failure (List (String × Member)) :=
  shares.mapM fun (name, share) => do
    let member ← share.member source
    return (name, member)

def PolicyGroup.assemble (config : Config) (rule : Rule) (selector : Option Selector)
    (members : List (String × Member)) : PolicyGroup where
  apiVersion := policyApiVersion
  kind := "ClusterAdmissionPolicyGroup"
  name := rule.policyName
  server := config.policyServer
  mode := config.resolveMode rule.mode
  backgroundAudit := config.backgroundAudit
  rules := MatchRule.ofResources
    ((Share.reached rule.checks Module.byName).map Module.resource)
  message := rule.violationMessage
  expression := memberExpression
    ((Share.reached rule.checks Module.byName).map Module.memberName)
  members
  selector

theorem PolicyGroup.ofRule_eq [Pattern.Engine] (h : ∀ c ∈ rule.checks, ∃ m, c.module? = some m) :
    PolicyGroup.ofRule source config rule = (do
      let selector ← rule.gate
      let members ← Share.members source
        ((Share.reached rule.checks Module.byName).map (Share.entry rule.checks))
      return assemble config rule selector members) := by
  unfold PolicyGroup.ofRule
  rw [Share.ofChecks_eq_ok h]
  simp only [ok_bind, List.map_map]
  rfl

theorem Share.succeeds_member [Pattern.Engine] (share : Share) :
    Succeeds (share.member source) ↔ Succeeds (share.module.settings source share.criteria) := by
  unfold Share.member
  rw [succeeds_bind_left fun _ => succeeds_pure _, Module.settingsFor, succeeds_mapError]

theorem PolicyGroup.succeeds_ofRule [Pattern.Engine]
    (h : ∀ c ∈ rule.checks, ∃ m, c.module? = some m) :
    Succeeds (PolicyGroup.ofRule source config rule) ↔
      Succeeds rule.gate ∧
        ∀ m, rule.Reaches m → Succeeds (m.settings source (rule.checksOf m)) := by
  rw [PolicyGroup.ofRule_eq h]
  simp only [succeeds_bind, succeeds_bind_left fun _ => succeeds_pure _, Share.members,
    succeeds_mapM, List.forall_mem_map, Share.mem_reached, Share.succeeds_member]
  constructor
  · intro hgiven
    obtain ⟨selector, hgate, hs⟩ := hgiven
    exact ⟨⟨selector, hgate⟩, hs⟩
  · intro hgiven
    obtain ⟨⟨selector, hgate⟩, hs⟩ := hgiven
    exact ⟨selector, hgate, hs⟩

/-- A group is assembled from a gate and the members for the modules that the checks reach. -/
theorem PolicyGroup.ofRule_eq_ok [Pattern.Engine] (h : ∀ c ∈ rule.checks, ∃ m, c.module? = some m)
    {group : PolicyGroup} : PolicyGroup.ofRule source config rule = .ok group ↔
      ∃ selector members, rule.gate = .ok selector ∧
        Share.members source
          ((Share.reached rule.checks Module.byName).map (Share.entry rule.checks)) = .ok members ∧
        group = assemble config rule selector members := by
  rw [PolicyGroup.ofRule_eq h]
  simp only [bind_eq_ok, pure_eq_ok]
  constructor
  · rintro ⟨selector, hgate, members, hmembers, rfl⟩
    exact ⟨selector, members, hgate, hmembers, rfl⟩
  · rintro ⟨selector, members, hgate, hmembers, rfl⟩
    exact ⟨selector, hgate, members, hmembers, rfl⟩

/-- But for its settings a member shows nothing else than its module. -/
theorem Share.map_of_members [Pattern.Engine] {checks : List Criterion} {modules : List Module}
    {members : List (String × Member)} {σ : Type} {g : String × Member → σ} {g' : Module → σ}
    (hg : ∀ m settings, g (m.memberName, ⟨m.reference, settings, m.contextResources⟩) = g' m)
    (h : Share.members source (modules.map (entry checks)) = .ok members) :
    members.map g = modules.map g' := by
  unfold Share.members at h
  rw [List.mapM_map] at h
  refine map_of_mapM_eq_ok (fun m entry hentry => ?_) h
  obtain ⟨member, hmember, hnamed⟩ := bind_eq_ok.1 hentry
  obtain ⟨settings, -, hmade⟩ := bind_eq_ok.1 hmember
  rw [← pure_eq_ok.1 hnamed, ← pure_eq_ok.1 hmade]
  exact hg m settings

/-- A group calls its members by the names of the modules that the checks reach. -/
theorem PolicyGroup.keys_of_ofRule [Pattern.Engine] (h : ∀ c ∈ rule.checks, ∃ m, c.module? = some m)
    {group : PolicyGroup} (hgroup : PolicyGroup.ofRule source config rule = .ok group) :
    group.members.map Prod.fst =
        (Share.reached rule.checks Module.byName).map Module.memberName ∧
      group.expression = memberExpression (group.members.map Prod.fst) := by
  obtain ⟨selector, members, -, hmembers, rfl⟩ := (PolicyGroup.ofRule_eq_ok h).1 hgroup
  have hkeys : members.map Prod.fst =
      (Share.reached rule.checks Module.byName).map Module.memberName :=
    Share.map_of_members (fun _ _ => rfl) hmembers
  exact ⟨hkeys, congrArg memberExpression hkeys.symm⟩

theorem Rule.checksOf_eq_checks (h : ∀ c ∈ rule.checks, c.module? = some m) :
    rule.checksOf m = rule.checks :=
  List.filter_eq_self.2 fun c hc => decide_eq_true (h c hc)

theorem Criterion.isBundle_eq_false {c : Criterion} (h : c.module? = some m) :
    c.topic?.any Topic.isBundle = false := by
  obtain ⟨topic, htopic, hm⟩ := Option.bind_eq_some_iff.1 h
  rw [htopic, Option.any_some]
  cases topic <;> first | rfl | cases hm

theorem Criterion.routeKey_eq {c : Criterion} (h : c.module? = some m) :
    c.routeKey = m.reference := by
  rw [routeKey, h]
  rfl

theorem Rule.needsGroup_congr {other : Rule} (h : other.checks = rule.checks) :
    other.needsGroup = rule.needsGroup := by
  unfold needsGroup
  rw [h]

/-- Modules tell checks apart as their route keys do. -/
theorem Rule.needsGroup_eq_false_iff (h : ∀ c ∈ rule.checks, ∃ m, c.module? = some m) :
    rule.needsGroup = false ↔ ∃ m, ∀ c ∈ rule.checks, c.module? = some m := by
  -- Bundles have no module, so only the keys can ask for a group.
  have hbundle : (rule.checks.any fun c => c.topic?.any Topic.isBundle) = false := by
    rw [List.any_eq_false]
    intro c hc
    obtain ⟨m, hm⟩ := h c hc
    rw [Criterion.isBundle_eq_false hm]
    exact Bool.false_ne_true
  unfold Rule.needsGroup
  rw [hbundle, Bool.false_or]
  revert h
  cases rule.checks with
  | nil => simpa using ⟨Module.cel⟩
  | cons c cs =>
    intro h
    rw [List.forall_mem_cons] at h
    obtain ⟨⟨m, hm⟩, hcs⟩ := h
    simp only [List.map_cons, List.any_eq_false, List.forall_mem_map, List.forall_mem_cons, hm,
      Option.some.injEq, exists_eq_left', Criterion.routeKey_eq hm]
    apply forall₂_congr
    intro d hd
    obtain ⟨k, hk⟩ := hcs d hd
    rw [Criterion.routeKey_eq hk, hk]
    constructor
    · intro heq
      have : k.reference = m.reference := by simpa using heq
      rw [Module.reference_injective this]
    · intro heq
      simp [Option.some.inj heq]

theorem Rule.exists_ne_of_needsGroup (h : ∀ c ∈ rule.checks, ∃ m, c.module? = some m)
    (hneeds : rule.needsGroup = true) : ∃ m k, rule.Reaches m ∧ rule.Reaches k ∧ m ≠ k := by
  by_contra hnone
  have hsame (m k : Module) (hm : rule.Reaches m) (hk : rule.Reaches k) : m = k := by
    by_contra hne
    exact hnone ⟨m, k, hm, hk, hne⟩
  have hsingle : rule.needsGroup = false := by
    rw [Rule.needsGroup_eq_false_iff h]
    by_cases hnil : rule.checks = []
    · exact ⟨.cel, by simp [hnil]⟩
    · obtain ⟨c, hc⟩ := List.exists_mem_of_ne_nil _ hnil
      obtain ⟨m, hm⟩ := h c hc
      refine ⟨m, fun d hd => ?_⟩
      obtain ⟨k, hk⟩ := h d hd
      rw [hk, hsame m k ⟨c, hc, hm⟩ ⟨d, hd, hk⟩]
  rw [hsingle] at hneeds
  cases hneeds

/-- A rule needs a group as soon as its checks reach two modules. -/
theorem Rule.needsGroup_iff_card (h : ∀ c ∈ rule.checks, ∃ m, c.module? = some m) :
    rule.needsGroup = true ↔ 2 ≤ rule.modules.card := by
  rw [Nat.succ_le_iff, Finset.one_lt_card]
  simp only [Rule.mem_modules]
  constructor
  · intro hneeds
    obtain ⟨m, k, hm, hk, hne⟩ := Rule.exists_ne_of_needsGroup h hneeds
    exact ⟨m, hm, k, hk, hne⟩
  · rintro ⟨m, ⟨c, hc, hcm⟩, k, ⟨d, hd, hdk⟩, hne⟩
    by_contra hsingle
    obtain ⟨j, hj⟩ := (Rule.needsGroup_eq_false_iff h).1 (Bool.not_eq_true _ ▸ hsingle)
    rw [hj c hc] at hcm
    rw [hj d hd] at hdk
    exact hne (Option.some.inj (hcm.symm.trans hdk))

/-- A module that the checks share is the only one that they reach. -/
theorem Rule.modules_of_commonModule (h : commonModule rule.checks = .ok m) :
    rule.modules = {m} := by
  obtain ⟨hne, hall⟩ := commonModule_eq_ok.1 h
  obtain ⟨c, hc⟩ := List.exists_mem_of_ne_nil _ hne
  rw [Finset.eq_singleton_iff_unique_mem]
  simp only [Rule.mem_modules]
  refine ⟨⟨c, hc, hall c hc⟩, ?_⟩
  rintro k ⟨d, hd, hdk⟩
  rw [hall d hd] at hdk
  exact (Option.some.inj hdk).symm

/-- The checks share a module exactly when they reach one and no other. -/
theorem succeeds_commonModule_iff_card (h : ∀ c ∈ rule.checks, ∃ m, c.module? = some m) :
    Succeeds (commonModule rule.checks) ↔ rule.modules.card = 1 := by
  constructor
  · rintro ⟨m, hm⟩
    rw [Rule.modules_of_commonModule hm, Finset.card_singleton]
  · intro hcard
    obtain ⟨m, hm⟩ := Finset.card_eq_one.1 hcard
    obtain ⟨c, hc, -⟩ := Rule.mem_modules.1 (hm ▸ Finset.mem_singleton_self m)
    refine ⟨m, commonModule_eq_ok.2 ⟨List.ne_nil_of_mem hc, fun d hd => ?_⟩⟩
    obtain ⟨k, hk⟩ := h d hd
    have hmem : k ∈ rule.modules := Rule.mem_modules.2 ⟨d, hd, hk⟩
    rw [hm, Finset.mem_singleton] at hmem
    rw [hk, hmem]

variable [Pattern.Engine]

theorem Policy.succeeds_ofRule (h : ∀ c ∈ rule.checks, ∃ m, c.module? = some m) :
    Succeeds (Policy.ofRule source config rule) ↔
      Succeeds rule.gate ∧
        ∀ m, rule.Reaches m → Succeeds (m.settings source (rule.checksOf m)) := by
  unfold Policy.ofRule
  split
  · rw [succeeds_map, PolicyGroup.succeeds_ofRule h]
  · next hsingle =>
    rw [Bool.not_eq_true, Rule.needsGroup_eq_false_iff h] at hsingle
    obtain ⟨m, hm⟩ := hsingle
    rw [succeeds_map, SinglePolicy.succeeds_ofRule]
    refine and_congr_right fun hgate => ⟨?_, fun hs => ⟨m, hm, ?_⟩⟩
    · intro hgiven j hreach
      obtain ⟨k, hk, hs⟩ := hgiven
      obtain ⟨c, hc, hj⟩ := hreach
      rw [hk c hc, Option.some.injEq] at hj
      rw [← hj, Rule.checksOf_eq_checks hk]
      exact hs
    -- The gate leaves a check, through which the common module is reached.
    · obtain ⟨selector, hselector⟩ := hgate
      obtain ⟨c, hc⟩ := List.exists_mem_of_ne_nil _ (Rule.gate_eq_ok.1 hselector).2.1
      rw [← Rule.checksOf_eq_checks hm]
      exact hs m ⟨c, hc, hm c hc⟩

theorem Policy.ofRule_eq_ok {policy : Policy} : Policy.ofRule source config rule = .ok policy ↔
    (rule.needsGroup = true ∧ ∃ group, PolicyGroup.ofRule source config rule = .ok group ∧
      .group group = policy) ∨
    (rule.needsGroup = false ∧ ∃ single, SinglePolicy.ofRule source config rule = .ok single ∧
      .single single = policy) := by
  unfold Policy.ofRule
  cases rule.needsGroup <;> simp [map_eq_ok]

/-- A policy of either kind takes its name and its mode from the rule and the configuration. -/
theorem Policy.name_mode_of_ofRule (h : ∀ c ∈ rule.checks, ∃ m, c.module? = some m)
    {policy : Policy} (hpolicy : Policy.ofRule source config rule = .ok policy) :
    policy.name = rule.policyName ∧ policy.mode = config.resolveMode rule.mode := by
  obtain ⟨-, group, hgroup, rfl⟩ | ⟨-, single, hsingle, rfl⟩ := Policy.ofRule_eq_ok.1 hpolicy
  · obtain ⟨selector, members, -, -, rfl⟩ := (PolicyGroup.ofRule_eq_ok h).1 hgroup
    exact ⟨rfl, rfl⟩
  · obtain ⟨selector, m, settings, -, -, -, rfl⟩ := SinglePolicy.ofRule_eq_ok.1 hsingle
    exact ⟨rfl, rfl⟩

def Rule.privilegedRoot : Rule where
  id := 1001
  criteria := [{ name := "runAsRoot", operator := "=", value := "true" },
    { name := "runAsPrivileged", operator := "=", value := "true" }]

end Admission
