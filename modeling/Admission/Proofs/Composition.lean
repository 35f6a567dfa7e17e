import Admission.Pattern
import Admission.Proofs.Synthesis

namespace Admission

namespace Rule

/-- The rule without the checks that go to other modules. -/
def restrict (rule : Rule) (m : Module) : Rule :=
  { rule with criteria := rule.criteria.filter fun c => c.isGate || c.module? = some m }

variable {rule : Rule} {m : Module}

theorem checks_restrict : (rule.restrict m).checks = rule.checksOf m := by
  unfold restrict checksOf checks
  rw [List.filter_filter, List.filter_filter]
  apply List.filter_congr
  intro c _
  cases c.isGate <;> simp

theorem gates_restrict : (rule.restrict m).gates = rule.gates := by
  unfold restrict gates
  rw [List.filter_filter]
  apply List.filter_congr
  intro c _
  cases c.isGate <;> simp

theorem selector_restrict : (rule.restrict m).selector = rule.selector := by
  unfold selector
  rw [gates_restrict]

/-- Both rules pass the same gate: something is left to enforce in either. -/
theorem gate_restrict (h : rule.Reaches m) : (rule.restrict m).gate = rule.gate := by
  have hpart : rule.checksOf m ≠ [] := reaches_iff.1 h
  have hall : rule.checks ≠ [] := by
    obtain ⟨c, hc, -⟩ := h
    exact List.ne_nil_of_mem hc
  unfold gate
  rw [gates_restrict, checks_restrict, selector_restrict, if_neg hpart, if_neg hall]

end Rule

variable {source : Settings.ScanSource} {config : Config} {rule : Rule} {m : Module}

theorem SinglePolicy.ofRule_restrict [Pattern.Engine] (h : rule.Reaches m) :
    SinglePolicy.ofRule source config (rule.restrict m) = (do
      let selector ← rule.gate
      let settings ← m.settingsFor source (rule.checksOf m)
      return assemble config rule m selector settings) := by
  have hcommon : commonModule (rule.restrict m).checks = .ok m := by
    rw [Rule.checks_restrict, commonModule_eq_ok]
    exact ⟨Rule.reaches_iff.1 h, fun c hc => by simpa using (List.mem_filter.1 hc).2⟩
  rw [SinglePolicy.ofRule_eq hcommon, Rule.gate_restrict h, Rule.checks_restrict]
  rfl

namespace MatchRule

theorem mem_ofResources {r : MatchRule} {resources : List Resource} :
    r ∈ ofResources resources ↔ ∃ resource ∈ resources, r ∈ ofResources [resource] := by
  have hclaims : ofResources [.claims] = claims := rfl
  have hworkloads : ofResources [.workloads] = workloads := rfl
  have hsplit : r ∈ ofResources resources ↔
      (.claims ∈ resources ∧ r ∈ claims) ∨ (.workloads ∈ resources ∧ r ∈ workloads) := by
    unfold ofResources
    rw [List.mem_append]
    split_ifs <;> simp_all
  rw [hsplit]
  constructor
  · intro hgiven
    rcases hgiven with ⟨h, hr⟩ | ⟨h, hr⟩
    · exact ⟨.claims, h, hr⟩
    · exact ⟨.workloads, h, hr⟩
  · intro hgiven
    obtain ⟨_ | _, h, hr⟩ := hgiven
    · exact .inl ⟨h, hr⟩
    · exact .inr ⟨h, hr⟩

theorem nodup_ofResources (resources : List Resource) : (ofResources resources).Nodup := by
  unfold ofResources
  split_ifs <;> decide

theorem head?_ofResources {resources : List Resource} {r : MatchRule} (hr : r ∈ claims)
    (h : r ∈ ofResources resources) : (ofResources resources).head? = some r := by
  rw [claims, List.mem_singleton] at hr
  subst hr
  revert h
  unfold ofResources
  split_ifs <;> decide

end MatchRule

def SinglePolicy.member (single : SinglePolicy) : Member where
  module := single.module
  settings := single.settings
  contextResources := single.contextResources

/-- A share makes the member that the single policy of its module runs. -/
theorem Share.member_entry [Pattern.Engine] (h : rule.Reaches m) {selector : Option Selector}
    (hgate : rule.gate = .ok selector) :
    (Share.entry rule.checks m).2.member source =
      (SinglePolicy.ofRule source config (rule.restrict m)).map SinglePolicy.member := by
  rw [SinglePolicy.ofRule_restrict h, hgate, ok_bind]
  unfold Share.member Share.entry Rule.checksOf
  dsimp only
  cases m.settingsFor source (rule.checks.filter fun c => c.module? = some m) <;> rfl

namespace PolicyGroup

/-- The group runs what the parts run, each under the name of its module, and agrees with every part
in everything else. -/
structure ComposedOf (group : PolicyGroup) (part : Module → SinglePolicy → Prop) : Prop where
  keys_nodup : (group.members.map Prod.fst).Nodup
  mem_members : ∀ entry, entry ∈ group.members ↔
    ∃ m single, part m single ∧ entry = (m.memberName, single.member)
  name : ∀ m single, part m single → group.name = single.name
  server : ∀ m single, part m single → group.server = single.server
  mode : ∀ m single, part m single → group.mode = single.mode
  backgroundAudit : ∀ m single, part m single → group.backgroundAudit = single.backgroundAudit
  selector : ∀ m single, part m single → group.selector = single.selector
  rules_nodup : group.rules.Nodup
  mem_rules : ∀ r, r ∈ group.rules ↔ ∃ m single, part m single ∧ r ∈ single.rules
  claims_first : ∀ r ∈ MatchRule.claims, r ∈ group.rules → group.rules.head? = some r

/-- The rule with the checks of the module only has this policy. -/
def Part [Pattern.Engine] (source : Settings.ScanSource) (config : Config) (rule : Rule)
    (m : Module) (single : SinglePolicy) : Prop :=
  rule.Reaches m ∧ SinglePolicy.ofRule source config (rule.restrict m) = .ok single

theorem succeeds_part [Pattern.Engine] (h : rule.Reaches m) :
    Succeeds (SinglePolicy.ofRule source config (rule.restrict m)) ↔
      Succeeds rule.gate ∧ Succeeds (m.settings source (rule.checksOf m)) := by
  rw [SinglePolicy.ofRule_restrict h, succeeds_bind]
  simp only [succeeds_bind_left fun _ => succeeds_pure _, Module.settingsFor, succeeds_mapError]
  exact exists_and_right

theorem succeeds_iff_parts [Pattern.Engine] (hne : rule.checks ≠ [])
    (hmod : ∀ c ∈ rule.checks, ∃ m, c.module? = some m) :
    Succeeds (PolicyGroup.ofRule source config rule) ↔
      ∀ m, rule.Reaches m →
        Succeeds (SinglePolicy.ofRule source config (rule.restrict m)) := by
  rw [PolicyGroup.succeeds_ofRule hmod]
  constructor
  · rintro ⟨hgate, hs⟩ m hm
    exact (succeeds_part hm).2 ⟨hgate, hs m hm⟩
  · intro h
    -- Some module is reached, and its part has the same gate.
    obtain ⟨m, hm⟩ := Rule.exists_reaches hmod hne
    refine ⟨((succeeds_part hm).1 (h m hm)).1, fun k hk => ?_⟩
    exact ((succeeds_part hk).1 (h k hk)).2

/-- The members that the parts run, in the order of their names. -/
def partMembers [Pattern.Engine] (source : Settings.ScanSource) (config : Config) (rule : Rule) :
    Except Failure (List (String × Member)) :=
  (Share.reached rule.checks Module.byName).mapM fun m => do
    let single ← SinglePolicy.ofRule source config (rule.restrict m)
    return (m.memberName, single.member)

/-- Behind an open gate the group has the members of the parts. -/
theorem ofRule_eq_of_gate [Pattern.Engine] (hmod : ∀ c ∈ rule.checks, ∃ m, c.module? = some m)
    {selector : Option Selector} (hgate : rule.gate = .ok selector) :
    PolicyGroup.ofRule source config rule = (do
      let members ← partMembers source config rule
      return assemble config rule selector members) := by
  have hmembers : Share.members source
      ((Share.reached rule.checks Module.byName).map (Share.entry rule.checks)) =
        partMembers source config rule := by
    unfold Share.members partMembers
    rw [List.mapM_map]
    apply mapM_congr_left
    intro m hm
    change ((Share.entry rule.checks m).2.member source >>= fun member =>
      pure (m.memberName, member)) = _
    rw [Share.member_entry (Share.mem_reached.1 hm) hgate]
    cases SinglePolicy.ofRule source config (rule.restrict m) <;> rfl
  rw [PolicyGroup.ofRule_eq hmod, hgate, ok_bind, hmembers]

variable {members : List (String × Member)}

theorem nodup_keys_of_partMembers [Pattern.Engine]
    (h : partMembers source config rule = .ok members) :
    (members.map Prod.fst).Nodup := by
  have hkeys : members.map Prod.fst =
      (Share.reached rule.checks Module.byName).map Module.memberName := by
    refine map_of_mapM_eq_ok (fun m entry hentry => ?_) h
    obtain ⟨single, -, heq⟩ := bind_eq_ok.1 hentry
    rw [← pure_eq_ok.1 heq]
  rw [hkeys]
  exact Module.nodup_map_memberName.sublist (List.filter_sublist.map _)

theorem mem_of_partMembers [Pattern.Engine] (h : partMembers source config rule = .ok members)
    (entry : String × Member) : entry ∈ members ↔
      ∃ m single, Part source config rule m single ∧ entry = (m.memberName, single.member) := by
  rw [mem_of_mapM_eq_ok h]
  simp only [bind_eq_ok, pure_eq_ok, Share.mem_reached]
  constructor
  · intro hgiven
    obtain ⟨m, hm, single, hs, rfl⟩ := hgiven
    exact ⟨m, single, ⟨hm, hs⟩, rfl⟩
  · intro hgiven
    obtain ⟨m, single, ⟨hm, hs⟩, rfl⟩ := hgiven
    exact ⟨m, hm, single, hs, rfl⟩

theorem exists_part_of_partMembers [Pattern.Engine]
    (h : partMembers source config rule = .ok members)
    (hm : rule.Reaches m) : ∃ single, Part source config rule m single := by
  have hentry := succeeds_mapM.1 ⟨members, h⟩ m (Share.mem_reached.2 hm)
  obtain ⟨single, hs, -⟩ := succeeds_bind.1 hentry
  exact ⟨single, hm, hs⟩

/-- Every part is assembled from the rule and the gate of the group. -/
theorem Part.eq_assemble [Pattern.Engine] {single : SinglePolicy}
    (hp : Part source config rule m single)
    {selector : Option Selector} (hgate : rule.gate = .ok selector) :
    ∃ settings, single = SinglePolicy.assemble config rule m selector settings := by
  obtain ⟨hm, hs⟩ := hp
  rw [SinglePolicy.ofRule_restrict hm, hgate, ok_bind] at hs
  obtain ⟨settings, -, heq⟩ := bind_eq_ok.1 hs
  exact ⟨settings, (pure_eq_ok.1 heq).symm⟩

theorem mem_rules_assemble [Pattern.Engine] {selector : Option Selector}
    (hgate : rule.gate = .ok selector)
    (h : partMembers source config rule = .ok members) (r : MatchRule) :
    r ∈ (assemble config rule selector members).rules ↔
      ∃ m single, Part source config rule m single ∧ r ∈ single.rules := by
  change r ∈ MatchRule.ofResources _ ↔ _
  rw [MatchRule.mem_ofResources]
  simp only [List.mem_map, exists_exists_and_eq_and, Share.mem_reached]
  constructor
  · intro hgiven
    obtain ⟨m, hm, hr⟩ := hgiven
    obtain ⟨single, hp⟩ := exists_part_of_partMembers h hm
    obtain ⟨settings, rfl⟩ := hp.eq_assemble hgate
    exact ⟨m, _, hp, hr⟩
  · intro hgiven
    obtain ⟨m, single, hp, hr⟩ := hgiven
    obtain ⟨settings, rfl⟩ := hp.eq_assemble hgate
    exact ⟨m, hp.1, hr⟩

theorem composedOf_assemble [Pattern.Engine] {selector : Option Selector}
    (hgate : rule.gate = .ok selector) (h : partMembers source config rule = .ok members) :
    (assemble config rule selector members).ComposedOf (Part source config rule) := by
  constructor
  case keys_nodup => exact nodup_keys_of_partMembers h
  case mem_members => exact mem_of_partMembers h
  case rules_nodup => exact MatchRule.nodup_ofResources _
  case mem_rules => exact mem_rules_assemble hgate h
  case claims_first => exact fun r hr => MatchRule.head?_ofResources hr
  -- The group and the part have the other fields from the same places.
  all_goals
    intro m single hp
    obtain ⟨settings, rfl⟩ := hp.eq_assemble hgate
    rfl

/-- The failing part whose name comes first decides the failure of the group. -/
theorem ofRule_eq_error [Pattern.Engine] (hmod : ∀ c ∈ rule.checks, ∃ m, c.module? = some m)
    (hm : rule.Reaches m) {failure : Failure}
    (hfail : SinglePolicy.ofRule source config (rule.restrict m) = .error failure)
    (hfirst : ∀ k, rule.Reaches k → k.memberName < m.memberName →
      Succeeds (SinglePolicy.ofRule source config (rule.restrict k))) :
    PolicyGroup.ofRule source config rule = .error failure := by
  cases hgate : rule.gate with
  | error e =>
    -- A gate that fails does so for the group and for every part alike.
    rw [SinglePolicy.ofRule_restrict hm, hgate, error_bind] at hfail
    rw [PolicyGroup.ofRule_eq hmod, hgate, error_bind, Except.error.inj hfail]
  | ok selector =>
    -- The modules are taken in the order of their names, so those before `m` come first.
    obtain ⟨front, back, hsplit⟩ := List.append_of_mem (Share.mem_reached.2 hm)
    have hsorted := Module.pairwise_byName.sublist
      (List.filter_sublist (p := fun m => rule.checks.any fun c => c.module? = some m))
    change (Share.reached rule.checks Module.byName).Pairwise _ at hsorted
    rw [hsplit, List.pairwise_append] at hsorted
    rw [ofRule_eq_of_gate hmod hgate, partMembers, hsplit,
      mapM_append_cons_eq_error (e := failure), error_bind]
    · intro k hk
      have hreached : rule.Reaches k := by
        rw [Rule.Reaches, ← Share.mem_reached, hsplit]
        exact List.mem_append_left _ hk
      rw [succeeds_bind_left fun _ => succeeds_pure _]
      exact hfirst k hreached (hsorted.2.2 k hk m List.mem_cons_self)
    · rw [hfail]
      rfl

/-- A group is made exactly when all its parts are, and then composed of them; else the first part
that fails, in the order of the names, tells why. -/
theorem ofRule_composition [Pattern.Engine] (source : Settings.ScanSource) (config : Config)
    (rule : Rule) (hne : rule.checks ≠ []) (hmod : ∀ c ∈ rule.checks, ∃ m, c.module? = some m) :
    (Succeeds (PolicyGroup.ofRule source config rule) ↔
      ∀ m, rule.Reaches m →
        Succeeds (SinglePolicy.ofRule source config (rule.restrict m))) ∧
    (∀ group, PolicyGroup.ofRule source config rule = .ok group →
      group.ComposedOf (Part source config rule)) ∧
    ∀ m failure, rule.Reaches m →
      SinglePolicy.ofRule source config (rule.restrict m) = .error failure →
      (∀ k, rule.Reaches k → k.memberName < m.memberName →
        Succeeds (SinglePolicy.ofRule source config (rule.restrict k))) →
      PolicyGroup.ofRule source config rule = .error failure := by
  refine ⟨succeeds_iff_parts hne hmod, fun group hgroup => ?_, fun m failure hm => ?_⟩
  · obtain ⟨selector, hgate⟩ := ((PolicyGroup.succeeds_ofRule hmod).1 ⟨group, hgroup⟩).1
    rw [ofRule_eq_of_gate hmod hgate] at hgroup
    obtain ⟨members, hmembers, heq⟩ := bind_eq_ok.1 hgroup
    rw [← pure_eq_ok.1 heq]
    exact composedOf_assemble hgate hmembers
  · exact ofRule_eq_error hmod hm

theorem ofRule_composition_privilegedRoot :
    ∃ group, PolicyGroup.ofRule ⟨"sbomscanner", "amd64"⟩ {} .privilegedRoot = .ok group ∧
      group.ComposedOf (Part ⟨"sbomscanner", "amd64"⟩ {} .privilegedRoot) := by
  have hmod : ∀ c ∈ Rule.privilegedRoot.checks, c.module?.isSome := by decide
  obtain ⟨-, hcomposed, -⟩ := ofRule_composition ⟨"sbomscanner", "amd64"⟩ {} .privilegedRoot
    (by decide) fun c hc => Option.isSome_iff_exists.1 (hmod c hc)
  obtain ⟨group, hgroup⟩ :
      Succeeds (PolicyGroup.ofRule ⟨"sbomscanner", "amd64"⟩ {} .privilegedRoot) := ⟨_, rfl⟩
  exact ⟨group, hgroup, hcomposed group hgroup⟩

end PolicyGroup
end Admission
