import Admission.Proofs.Batch
import Admission.Proofs.Composition
import Admission.Proofs.Verdict

/-!
The shape of a converted policy. Main statement: the modules that the checks of a rule reach decide
whether it becomes a group, who its members are and which of them read the cluster; the names of its
criteria decide which objects the policy sees.
-/

namespace Admission

variable {source : Settings.ScanSource} {config : Config} {rule : Rule} {m : Module}

def Verdict.calls? (expression : String) : Option (List String) := do
  let names ← (cutAtPair '&' expression.toList).mapM called?
  return names.map String.ofList

/-- Cutting the expression of a group gives back the names that it was made of. -/
theorem Verdict.calls?_memberExpression {names : List String} (hne : names ≠ [])
    (hnames : ∀ name ∈ names, IsName name.toList) :
    calls? (memberExpression names) = some names := by
  have htexts : (names.map String.toList).map String.ofList = names := by
    rw [List.map_map]
    exact (List.map_congr_left fun name _ => String.ofList_toList).trans (List.map_id names)
  unfold calls?
  rw [mapM_called?_memberExpression hne hnames]
  exact congrArg some htexts

theorem Module.resource_eq_claims_iff : m.resource = .claims ↔ m = .storageClass := by
  cases m <;> decide

theorem Module.resource_eq_workloads_iff : m.resource = .workloads ↔ m ≠ .storageClass := by
  cases m <;> decide

theorem Module.contextResources_ne_nil_iff : m.contextResources ≠ [] ↔ m = .imageCve := by
  cases m <;> simp [Module.contextResources]

theorem Topic.module?_eq_storageClass_iff {topic : Topic} :
    topic.module? = some .storageClass ↔ topic = .storageClassName := by
  cases topic <;> decide

theorem Criterion.module?_eq_storageClass_iff {c : Criterion} :
    c.module? = some .storageClass ↔ c.name = "storageClassName" := by
  rw [Criterion.module?_eq_some_iff]
  simp only [Topic.module?_eq_storageClass_iff, exists_eq_right]
  rfl

namespace Rule

theorem mem_checks {c : Criterion} : c ∈ rule.checks ↔ c ∈ rule.criteria ∧ c.name ≠ "namespace" := by
  rw [checks, List.mem_filter, Bool.not_eq_true', ← Bool.not_eq_true, Criterion.isGate_iff]

theorem mem_claims_iff : (∃ m ∈ rule.modules, m.resource = .claims) ↔
    ∃ c ∈ rule.criteria, c.name = "storageClassName" := by
  simp only [Module.resource_eq_claims_iff, exists_eq_right, mem_modules, Reaches, mem_checks,
    Criterion.module?_eq_storageClass_iff]
  constructor
  · rintro ⟨c, ⟨hc, -⟩, hname⟩
    exact ⟨c, hc, hname⟩
  · rintro ⟨c, hc, hname⟩
    exact ⟨c, ⟨hc, by rw [hname]; decide⟩, hname⟩

theorem Known.mem_workloads_iff (h : rule.Known) :
    (∃ m ∈ rule.modules, m.resource = .workloads) ↔
      ∃ c ∈ rule.criteria, c.name ≠ "namespace" ∧ c.name ≠ "storageClassName" := by
  simp only [Module.resource_eq_workloads_iff, mem_modules, Reaches, mem_checks]
  constructor
  · rintro ⟨m, ⟨c, ⟨hc, hgate⟩, hm⟩, hne⟩
    refine ⟨c, hc, hgate, fun hname => hne ?_⟩
    rw [Criterion.module?_eq_storageClass_iff.2 hname] at hm
    exact (Option.some.inj hm).symm
  · rintro ⟨c, hc, hgate, hname⟩
    obtain ⟨m, hm⟩ := h.module? hc
    refine ⟨m, ⟨c, ⟨hc, hgate⟩, hm⟩, ?_⟩
    rintro rfl
    exact hname (Criterion.module?_eq_storageClass_iff.1 hm)

end Rule

/-- A policy with these rules is asked about the operation on the resource. -/
def MatchRule.Cover (rules : List MatchRule) (group resource : String) (operation : Operation) :
    Prop :=
  ∃ r ∈ rules, group ∈ r.apiGroups ∧ resource ∈ r.resources ∧ operation ∈ r.operations

theorem MatchRule.cover_claims {group resource : String} {operation : Operation} :
    Cover claims group resource operation ↔
      group = "" ∧ resource = "persistentvolumeclaims" ∧ operation = .create := by
  simp [Cover, claims, ofGroup]

theorem MatchRule.cover_workloads {group resource : String} {operation : Operation} :
    Cover workloads group resource operation ↔
      ((group = "" ∧ resource = "pods") ∨
        (group = "apps" ∧
          resource ∈ ["deployments", "replicasets", "daemonsets", "statefulsets"]) ∨
        (group = "batch" ∧ resource ∈ ["jobs", "cronjobs"])) ∧
      (operation = .create ∨ operation = .update) := by
  simp only [Cover, workloads, ofGroup, List.mem_cons, List.not_mem_nil, or_false, or_and_right,
    exists_or, exists_eq_left, and_assoc]

theorem MatchRule.ofResources_ne_nil {resources : List Resource} (h : resources ≠ []) :
    ofResources resources ≠ [] := by
  obtain ⟨r, hr⟩ := List.exists_mem_of_ne_nil _ h
  unfold ofResources
  cases r
  case claims =>
    rw [if_pos hr]
    exact List.append_ne_nil_of_left_ne_nil (List.cons_ne_nil _ _) _
  case workloads =>
    rw [if_pos hr]
    exact List.append_ne_nil_of_right_ne_nil _ (List.cons_ne_nil _ _)

/-- Only which kinds of objects there are counts. -/
theorem MatchRule.ofResources_eq {resources : List Resource} {P Q : Prop} [Decidable P]
    [Decidable Q] (hclaims : .claims ∈ resources ↔ P) (hworkloads : .workloads ∈ resources ↔ Q) :
    ofResources resources = (if P then claims else []) ++ if Q then workloads else [] := by
  unfold ofResources
  simp only [hclaims, hworkloads]

/-- The policy runs this module, and may read what the module reads. -/
structure SinglePolicy.Runs (policy : SinglePolicy) (m : Module) : Prop where
  module : policy.module = m.reference
  context : policy.contextResources ≠ [] ↔ policy.module = Module.imageCve.reference

/-- The group has one member for each of these modules, under its name and in the order of the
names, and calls them all. -/
structure PolicyGroup.Runs (group : PolicyGroup) (modules : Finset Module) : Prop where
  sorted : (group.members.map Prod.fst).Pairwise (· < ·)
  keys : ∀ name, name ∈ group.members.map Prod.fst ↔ ∃ m ∈ modules, name = m.memberName
  module : ∀ entry ∈ group.members, ∃ m ∈ modules,
    entry.1 = m.memberName ∧ entry.2.module = m.reference
  unique : ∀ m ∈ modules, ∃! entry, entry ∈ group.members ∧ entry.2.module = m.reference
  expression : group.expression =
    " && ".intercalate ((group.members.map Prod.fst).map fun name => name ++ "()")
  calls : Verdict.calls? group.expression = some (group.members.map Prod.fst)
  context : ∀ entry ∈ group.members,
    entry.2.contextResources ≠ [] ↔ entry.2.module = Module.imageCve.reference

theorem Module.contextResources_iff_reference :
    m.contextResources ≠ [] ↔ m.reference = Module.imageCve.reference := by
  rw [Module.contextResources_ne_nil_iff]
  exact ⟨congrArg Module.reference, Module.reference_injective⟩

theorem SinglePolicy.runs_assemble (config : Config) (rule : Rule) (m : Module)
    (selector : Option Selector) (settings : Tree) :
    (assemble config rule m selector settings).Runs m where
  module := rfl
  context := Module.contextResources_iff_reference

namespace PolicyGroup

variable [Pattern.Engine] {group : PolicyGroup}

/-- What an entry shows besides its settings, it shows of one module. -/
theorem exists_module_of_mem (h : ∀ c ∈ rule.checks, ∃ m, c.module? = some m)
    (hgroup : PolicyGroup.ofRule source config rule = .ok group) {entry : String × Member}
    (hmem : entry ∈ group.members) : ∃ m ∈ rule.modules,
      entry.1 = m.memberName ∧ entry.2.module = m.reference ∧
        entry.2.contextResources = m.contextResources := by
  obtain ⟨selector, members, -, hmembers, rfl⟩ := (ofRule_eq_ok h).1 hgroup
  have hshown : members.map (fun e => (e.1, e.2.module, e.2.contextResources)) =
      (Share.reached rule.checks Module.byName).map
        fun m => (m.memberName, m.reference, m.contextResources) :=
    Share.map_of_members (fun _ _ => rfl) hmembers
  have himage := List.mem_map_of_mem (f := fun e => (e.1, e.2.module, e.2.contextResources)) hmem
  change _ ∈ members.map _ at himage
  rw [hshown, List.mem_map] at himage
  obtain ⟨m, hm, heq⟩ := himage
  simp only [Prod.mk.injEq] at heq
  exact ⟨m, Share.mem_reached_iff.1 hm, heq.1.symm, heq.2.1.symm, heq.2.2.symm⟩

theorem existsUnique_member (h : ∀ c ∈ rule.checks, ∃ m, c.module? = some m)
    (hgroup : PolicyGroup.ofRule source config rule = .ok group) (hm : m ∈ rule.modules) :
    ∃! entry, entry ∈ group.members ∧ entry.2.module = m.reference := by
  obtain ⟨selector, members, -, hmembers, rfl⟩ := (ofRule_eq_ok h).1 hgroup
  have hreferences : members.map (fun entry => entry.2.module) =
      (Share.reached rule.checks Module.byName).map Module.reference :=
    Share.map_of_members (fun _ _ => rfl) hmembers
  have hnodup : (members.map fun entry => entry.2.module).Nodup := by
    rw [hreferences]
    exact (Share.nodup_reached rule.checks).map fun _ _ => Module.reference_injective
  have himage : m.reference ∈ members.map fun entry => entry.2.module := by
    rw [hreferences]
    exact List.mem_map_of_mem (Share.mem_reached_iff.2 hm)
  obtain ⟨entry, hmem, heq⟩ := List.mem_map.1 himage
  refine ⟨entry, ⟨hmem, heq⟩, fun other hother => ?_⟩
  exact List.inj_on_of_nodup_map hnodup hother.1 hmem (hother.2.trans heq.symm)

theorem keys_ne_nil (h : ∀ c ∈ rule.checks, ∃ m, c.module? = some m)
    (hgroup : PolicyGroup.ofRule source config rule = .ok group) :
    group.members.map Prod.fst ≠ [] := by
  obtain ⟨selector, members, hgate, -⟩ := (ofRule_eq_ok h).1 hgroup
  obtain ⟨m, hm⟩ := Rule.exists_reaches h (Rule.gate_eq_ok.1 hgate).2.1
  rw [(keys_of_ofRule h hgroup).1]
  exact List.ne_nil_of_mem (List.mem_map_of_mem (Share.mem_reached.2 hm))

theorem runs_of_ofRule (h : ∀ c ∈ rule.checks, ∃ m, c.module? = some m)
    (hgroup : PolicyGroup.ofRule source config rule = .ok group) : group.Runs rule.modules := by
  obtain ⟨hkeys, hexpression⟩ := keys_of_ofRule h hgroup
  have hnames : ∀ name ∈ group.members.map Prod.fst, Verdict.IsName name.toList := by
    rw [hkeys, List.forall_mem_map]
    exact fun m _ => Verdict.isName_memberName m
  constructor
  case sorted =>
    rw [hkeys, List.pairwise_map]
    exact Module.pairwise_byName.sublist List.filter_sublist
  case keys =>
    intro name
    rw [hkeys, List.mem_map]
    simp only [Share.mem_reached_iff, eq_comm]
  case module =>
    intro entry hmem
    obtain ⟨m, hm, hname, hreference, -⟩ := exists_module_of_mem h hgroup hmem
    exact ⟨m, hm, hname, hreference⟩
  case unique => exact fun m hm => existsUnique_member h hgroup hm
  case expression => exact hexpression
  case calls =>
    rw [hexpression]
    exact Verdict.calls?_memberExpression (keys_ne_nil h hgroup) hnames
  case context =>
    intro entry hmem
    obtain ⟨m, -, -, hreference, hcontext⟩ := exists_module_of_mem h hgroup hmem
    rw [hcontext, hreference]
    exact Module.contextResources_iff_reference

end PolicyGroup

/-- A policy sees the objects that its modules look at. -/
theorem Policy.rules_of_ofRule [Pattern.Engine] (h : ∀ c ∈ rule.checks, ∃ m, c.module? = some m)
    {policy : Policy} (hpolicy : Policy.ofRule source config rule = .ok policy) :
    ∃ resources, policy.rules = MatchRule.ofResources resources ∧
      ∀ r, r ∈ resources ↔ ∃ m ∈ rule.modules, m.resource = r := by
  obtain ⟨-, group, hgroup, rfl⟩ | ⟨-, single, hsingle, rfl⟩ := Policy.ofRule_eq_ok.1 hpolicy
  · obtain ⟨selector, members, -, -, rfl⟩ := (PolicyGroup.ofRule_eq_ok h).1 hgroup
    refine ⟨_, rfl, fun r => ?_⟩
    rw [List.mem_map]
    simp only [Share.mem_reached_iff]
  · obtain ⟨selector, m, settings, -, hm, -, rfl⟩ := SinglePolicy.ofRule_eq_ok.1 hsingle
    refine ⟨_, rfl, fun r => ?_⟩
    rw [Rule.modules_of_commonModule hm, List.mem_singleton]
    simp only [Finset.mem_singleton, exists_eq_left]
    exact eq_comm

/-- The names of the criteria tell which objects the policy of a rule sees. -/
theorem Rule.Known.rules_of_ofRule [Pattern.Engine] (h : rule.Known) {policy : Policy}
    (hpolicy : Policy.ofRule source config rule = .ok policy) :
    policy.rules =
      (if ∃ c ∈ rule.criteria, c.name = "storageClassName" then MatchRule.claims else []) ++
        if ∃ c ∈ rule.criteria, c.name ≠ "namespace" ∧ c.name ≠ "storageClassName" then
          MatchRule.workloads
        else [] := by
  obtain ⟨resources, hrules, hresources⟩ := Policy.rules_of_ofRule h.module?_of_mem_checks hpolicy
  rw [hrules]
  exact MatchRule.ofResources_eq ((hresources _).trans Rule.mem_claims_iff)
    ((hresources _).trans h.mem_workloads_iff)

theorem Policy.nodup_rules_of_ofRule [Pattern.Engine]
    (h : ∀ c ∈ rule.checks, ∃ m, c.module? = some m)
    {policy : Policy} (hpolicy : Policy.ofRule source config rule = .ok policy) :
    policy.rules.Nodup := by
  obtain ⟨resources, hrules, -⟩ := Policy.rules_of_ofRule h hpolicy
  rw [hrules]
  exact MatchRule.nodup_ofResources resources

/-- A policy sees something, since its gate leaves a check. -/
theorem Policy.rules_ne_nil_of_ofRule [Pattern.Engine]
    (h : ∀ c ∈ rule.checks, ∃ m, c.module? = some m)
    {policy : Policy} (hpolicy : Policy.ofRule source config rule = .ok policy) :
    policy.rules ≠ [] := by
  obtain ⟨resources, hrules, hresources⟩ := Policy.rules_of_ofRule h hpolicy
  obtain ⟨selector, hgate⟩ := ((Policy.succeeds_ofRule h).1 ⟨policy, hpolicy⟩).1
  obtain ⟨m, hm⟩ := Rule.exists_reaches h (Rule.gate_eq_ok.1 hgate).2.1
  have hmem : m.resource ∈ resources := (hresources _).2 ⟨m, Rule.mem_modules.2 hm, rfl⟩
  rw [hrules]
  exact MatchRule.ofResources_ne_nil (List.ne_nil_of_mem hmem)

/-- The modules that a converted rule reaches, once its bundles are written out, settle the kind of
its policy and what it runs; the names of its criteria settle what it sees. -/
theorem Converter.shape_of_convert [Pattern.Engine] {converter : Converter} {policy : Policy}
    (h : converter.convert rule = .ok (.converted policy)) :
    (policy.isGroup = true ↔ 2 ≤ rule.writtenOut.modules.card) ∧
    (∀ single, policy = .single single → ∃ m, rule.writtenOut.modules = {m} ∧ single.Runs m) ∧
    (∀ group, policy = .group group → group.Runs rule.writtenOut.modules) ∧
    policy.rules =
      (if ∃ c ∈ rule.written, c.name = "storageClassName" then
        [⟨[""], ["v1"], ["persistentvolumeclaims"], [.create]⟩]
      else []) ++
        (if ∃ c ∈ rule.written, c.name ≠ "namespace" ∧ c.name ≠ "storageClassName" then
          [⟨[""], ["v1"], ["pods"], [.create, .update]⟩,
            ⟨["apps"], ["v1"], ["deployments", "replicasets", "daemonsets", "statefulsets"],
              [.create, .update]⟩,
            ⟨["batch"], ["v1"], ["jobs", "cronjobs"], [.create, .update]⟩]
        else []) ∧
    policy.rules ≠ [] ∧ policy.rules.Nodup := by
  obtain ⟨-, -, -, -, hknown, hpolicy⟩ := Converter.convert_eq_converted_iff.1 h
  have hmod := hknown.module?_of_mem_checks
  refine ⟨?_, ?_, ?_, hknown.rules_of_ofRule hpolicy, Policy.rules_ne_nil_of_ofRule hmod hpolicy,
    Policy.nodup_rules_of_ofRule hmod hpolicy⟩
  · rw [← Rule.needsGroup_iff_card hmod]
    obtain ⟨hneeds, group, -, rfl⟩ | ⟨hneeds, single, -, rfl⟩ := Policy.ofRule_eq_ok.1 hpolicy
    · exact iff_of_true rfl hneeds
    · rw [hneeds]
      exact Iff.rfl
  · rintro single rfl
    obtain ⟨-, group, -, habsurd⟩ | ⟨-, made, hmade, heq⟩ := Policy.ofRule_eq_ok.1 hpolicy
    · cases habsurd
    · cases heq
      obtain ⟨selector, m, settings, -, hm, -, rfl⟩ := SinglePolicy.ofRule_eq_ok.1 hmade
      exact ⟨m, Rule.modules_of_commonModule hm, SinglePolicy.runs_assemble _ _ _ _ _⟩
  · rintro group rfl
    obtain ⟨-, made, hmade, heq⟩ | ⟨-, single, -, habsurd⟩ := Policy.ofRule_eq_ok.1 hpolicy
    · cases heq
      exact PolicyGroup.runs_of_ofRule hmod hmade
    · cases habsurd

def Rule.manyModules : Rule where
  id := 1002
  criteria := [{ name := "storageClassName", operator := "containsAny", value := "slow" },
    { name := "pspCompliance", operator := "=", value := "true" },
    { name := "namespace", operator := "notContainsAny", value := "dev, test" },
    { name := "cveHighCount", operator := ">=", value := "3" },
    { name := "runAsRoot", operator := "=", value := "true" }]

theorem Converter.shape_of_manyModules : ∃ group,
    Converter.plain.convert .manyModules = .ok (.converted (.group group)) ∧
      group.Runs Rule.manyModules.writtenOut.modules ∧
      group.rules = [
        ⟨[""], ["v1"], ["persistentvolumeclaims"], [.create]⟩,
        ⟨[""], ["v1"], ["pods"], [.create, .update]⟩,
        ⟨["apps"], ["v1"], ["deployments", "replicasets", "daemonsets", "statefulsets"],
          [.create, .update]⟩,
        ⟨["batch"], ["v1"], ["jobs", "cronjobs"], [.create, .update]⟩] := by
  have hkind : (Outcome.policy? (Converter.plain.convert .manyModules)).map Policy.isGroup =
      some true := by decide +kernel
  obtain ⟨policy, hpolicy, hgroup⟩ := Option.map_eq_some_iff.1 hkind
  have hconvert : Converter.plain.convert .manyModules = .ok (.converted policy) :=
    Outcome.policy?_eq_some.1 hpolicy
  obtain ⟨-, -, hruns, hrules, -⟩ := Converter.shape_of_convert hconvert
  cases policy with
  | single single => cases hgroup
  | group group =>
    refine ⟨group, hconvert, hruns group rfl, ?_⟩
    change (Policy.group group).rules = _
    rw [hrules, if_pos (by decide), if_pos (by decide)]
    rfl

end Admission
