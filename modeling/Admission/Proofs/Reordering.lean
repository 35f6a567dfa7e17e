import Admission.Proofs.Merging

/-!
What the order of the criteria of a rule means. Main statement: where no two criteria share a name,
save those on the user and the groups, a rule with the same criteria in another order is converted
if the rule is, and into the same policy but for the order of the conditions on users and groups.
-/

namespace Admission

theorem eq_of_perm_of_length_le_one {α : Type} {xs ys : List α} (h : xs.Perm ys)
    (hlength : ys.length ≤ 1) : xs = ys := by
  match ys, hlength with
  | [], _ => exact List.perm_nil.1 h
  | [y], _ => exact List.perm_singleton.1 h

theorem length_le_one_of_nodup_map {α β : Type} {f : α → β} {xs : List α} (h : (xs.map f).Nodup)
    (hsame : ∀ x ∈ xs, ∀ y ∈ xs, f x = f y) : xs.length ≤ 1 := by
  match xs with
  | [] => simp
  | [x] => simp
  | x :: y :: rest => simp [hsame x (by simp) y (by simp)] at h

def Criterion.isIdentity (c : Criterion) : Bool := c.name == "user" || c.name == "userGroups"

def Rule.identities (rule : Rule) : List Criterion := rule.criteria.filter Criterion.isIdentity

/-- The settings with these validations instead of its own, if they are those of the module that has
validations. -/
def Tree.withValidations (items : List Tree) (module : String) (settings : Tree) : Tree :=
  if module = Module.cel.reference then Tree.object [("validations", .list items)] else settings

def Member.withValidations (items : List Tree) (member : Member) : Member :=
  { member with settings := member.settings.withValidations items member.module }

def Policy.withValidations (items : List Tree) : Policy → Policy
  | .single p => .single { p with settings := p.settings.withValidations items p.module }
  | .group p => .group { p with members := p.members.map fun m => (m.1, m.2.withValidations items) }

theorem Criterion.isIdentity_iff {c : Criterion} :
    c.isIdentity = true ↔ c.module? = some .cel ∧ c.isGate = false := by
  have hgate : c.isGate = false ↔ c.name ≠ "namespace" := by
    rw [← not_iff_not, Bool.not_eq_false, Criterion.isGate_iff, not_not]
  rw [hgate, Criterion.module?_eq_some_iff]
  simp only [isIdentity, Bool.or_eq_true, beq_iff_eq]
  constructor
  · rintro (h | h)
    · exact ⟨⟨.user, h, rfl⟩, by rw [h]; decide⟩
    · exact ⟨⟨.userGroups, h, rfl⟩, by rw [h]; decide⟩
  · rintro ⟨⟨topic, h, hm⟩, hne⟩
    cases topic <;> cases hm
    · exact absurd h hne
    · exact .inl h
    · exact .inr h

theorem Rule.checksOf_cel (rule : Rule) : rule.checksOf .cel = rule.identities := by
  unfold checksOf checks identities
  rw [List.filter_filter]
  apply List.filter_congr
  intro c _
  rw [Bool.eq_iff_iff, Criterion.isIdentity_iff, Bool.and_eq_true, decide_eq_true_iff,
    Bool.not_eq_true']

/-- Bundles have no criterion on the user or the groups. -/
theorem Rule.identities_writtenOut (rule : Rule) : rule.writtenOut.identities = rule.identities := by
  have hwritten (c : Criterion) :
      c.written.filter Criterion.isIdentity = [c].filter Criterion.isIdentity := by
    unfold Criterion.written
    split
    · next h => simp [Criterion.isIdentity, h, Topic.bundled, Criterion.ofBundled, Topic.name]
    · rfl
  unfold identities writtenOut written
  rw [List.filter_flatMap]
  simp only [hwritten, ← List.filter_flatMap]
  simp

namespace Settings

theorem HostNamespaces.eq_of_parts {s t : HostNamespaces}
    (h : ∀ path ∈ Module.hostNamespaces.slots, s.toTree.part? path = t.toTree.part? path) :
    s = t := by
  simp only [Module.slots, List.forall_mem_cons, part?_toTree, Option.some.injEq,
    Tree.bool.injEq] at h
  obtain ⟨hipc, hnetwork, hpid, -⟩ := h
  cases s
  cases t
  simp_all

theorem TrustedRepos.eq_of_parts {s t : TrustedRepos}
    (h : ∀ path ∈ Module.trustedRepos.slots, s.toTree.part? path = t.toTree.part? path) :
    s = t := by
  simp only [Module.slots, List.forall_mem_cons, part?_toTree,
    (Option.map_injective Tree.texts_injective).eq_iff] at h
  obtain ⟨hallow, hreject, hallow', hreject', -⟩ := h
  obtain ⟨⟨a, b⟩, c, d⟩ := s
  obtain ⟨⟨a', b'⟩, c', d'⟩ := t
  simp_all

theorem ImageScan.eq_of_parts {s t : ImageScan} (hsource : s.source = t.source)
    (h : ∀ path ∈ Module.imageCve.slots, s.toTree.part? path = t.toTree.part? path) :
    s = t := by
  have hbool : Function.Injective Tree.bool := fun a b heq => Tree.bool.inj heq
  have hint : Function.Injective Tree.int := fun a b heq => Tree.int.inj heq
  simp only [Module.slots, List.forall_mem_cons, part?_toTree,
    (Option.map_injective hbool).eq_iff, (Option.map_injective hint).eq_iff] at h
  obtain ⟨hignored, hhigh, hmedium, -⟩ := h
  cases s
  cases t
  simp_all

end Settings

namespace Module

variable {source : Settings.ScanSource} {m : Module} {criteria other : List Criterion}
  {settings settings' : Tree} {c d : Criterion}

/-- Merged settings are told apart by their places. -/
theorem settings_ext [Pattern.Engine] (hm : m.merges = true)
    (h : m.settings source criteria = .ok settings) (h' : m.settings source other = .ok settings')
    (hparts : ∀ path ∈ m.slots, settings.part? path = settings'.part? path) :
    settings = settings' := by
  cases m <;> cases hm <;> obtain ⟨made, hmade, rfl⟩ := map_eq_ok.1 h <;>
    obtain ⟨made', hmade', rfl⟩ := map_eq_ok.1 h'
  case hostNamespaces => rw [Settings.HostNamespaces.eq_of_parts hparts]
  case trustedRepos => rw [Settings.TrustedRepos.eq_of_parts hparts]
  case imageCve =>
    have hsource := Settings.ImageScan.source_of_foldlM hmade
    have hsource' := Settings.ImageScan.source_of_foldlM hmade'
    rw [Settings.ImageScan.eq_of_parts (hsource.trans hsource'.symm) hparts]

/-- In a module that merges, what stands at one place has one name. -/
theorem name_eq_of_slot_eq (hm : m.merges = true) (hc : c.module? = some m) (hd : d.module? = some m)
    (h : c.slot = d.slot) : c.name = d.name := by
  obtain ⟨topic, hname, ht⟩ := Criterion.module?_eq_some_iff.1 hc
  obtain ⟨topic', hname', ht'⟩ := Criterion.module?_eq_some_iff.1 hd
  have htopic := Criterion.topic?_eq_some_iff.2 hname
  have htopic' := Criterion.topic?_eq_some_iff.2 hname'
  simp only [Criterion.slot, htopic, htopic'] at h
  have hsame : topic = topic' := by
    cases m <;> cases hm <;> cases topic <;> cases ht <;> cases topic' <;> cases ht' <;>
      first | rfl | simp at h
  rw [hname, hname', hsame]

theorem lastAt_of_perm (hm : m.merges = true) (hperm : other.Perm criteria)
    (hgo : ∀ c ∈ criteria, c.module? = some m) (hnames : (criteria.map Criterion.name).Nodup)
    (path : List String) : Criterion.lastAt path other = Criterion.lastAt path criteria := by
  unfold Criterion.lastAt
  have hlength : (criteria.filter fun c => c.slot = path).length ≤ 1 := by
    refine length_le_one_of_nodup_map (hnames.sublist (List.filter_sublist.map _)) ?_
    intro c hc d hd
    rw [List.mem_filter, decide_eq_true_iff] at hc hd
    exact name_eq_of_slot_eq hm (hgo c hc.1) (hgo d hd.1) (hc.2.trans hd.2.symm)
  rw [eq_of_perm_of_length_le_one (hperm.filter _) hlength]

/-- A module that has no entry for each criterion has the same settings for them in any order, if no
two have one name. -/
theorem settings_of_perm [Pattern.Engine] (hcel : m ≠ .cel) (hperm : other.Perm criteria)
    (hgo : ∀ c ∈ criteria, c.module? = some m) (hnames : (criteria.map Criterion.name).Nodup)
    (h : m.settings source criteria = .ok settings) : m.settings source other = .ok settings := by
  cases hm : m.merges with
  | true =>
    have hall := (succeeds_settings_iff_alone hm).1 ⟨settings, h⟩
    obtain ⟨settings', h'⟩ := (succeeds_settings_iff_alone hm).2
      fun c hc => hall c (hperm.subset hc)
    rw [h', settings_ext hm h' h fun path hpath => ?_]
    obtain ⟨bare, hbare, hpart⟩ := part?_settings hm h hpath
    obtain ⟨bare', hbare', hpart'⟩ := part?_settings hm h' hpath
    cases hbare.symm.trans hbare'
    rw [hpart, hpart', lastAt_of_perm hm hperm hgo hnames]
  | false =>
    cases hone : m.takesOne with
    | true =>
      have hlength : criteria.length ≤ 1 := by
        match criteria, h with
        | [], _ => simp
        | [c], _ => simp
        | c :: d :: rest, h =>
          rw [settings_cons_cons source hone] at h
          cases h
      rw [eq_of_perm_of_length_le_one hperm hlength, h]
    | false =>
      cases m <;> cases hm <;> cases hone <;>
        first | exact absurd rfl hcel | exact switch_settings h hperm.subset

end Module

namespace Rule

variable {rule : Rule} {criteria : List Criterion}

def withCriteria (rule : Rule) (criteria : List Criterion) : Rule := { rule with criteria }

theorem checks_perm (hperm : criteria.Perm rule.criteria) :
    (rule.withCriteria criteria).checks.Perm rule.checks := hperm.filter _

theorem reached_of_perm (hperm : criteria.Perm rule.criteria) :
    Share.reached (rule.withCriteria criteria).checks Module.byName =
      Share.reached rule.checks Module.byName := by
  unfold Share.reached
  apply List.filter_congr
  intro m _
  exact (checks_perm hperm).any_eq

/-- A gate is single, so there is no order to it. -/
theorem gate_of_perm (hperm : criteria.Perm rule.criteria) {selector : Option Selector}
    (h : rule.gate = .ok selector) : (rule.withCriteria criteria).gate = .ok selector := by
  obtain ⟨hlength, hne, hselector⟩ := Rule.gate_eq_ok.1 h
  have hgates : (rule.withCriteria criteria).gates = rule.gates :=
    eq_of_perm_of_length_le_one (hperm.filter _) hlength
  rw [Rule.gate_eq_ok, hgates]
  refine ⟨hlength, fun hnil => hne ?_, ?_⟩
  · have hempty := checks_perm hperm
    rw [hnil] at hempty
    exact hempty.symm.eq_nil
  · unfold Rule.selector at hselector ⊢
    rw [hgates]
    exact hselector

theorem needsGroup_of_perm (hmod : ∀ c ∈ rule.checks, ∃ m, c.module? = some m)
    (hperm : criteria.Perm rule.criteria) :
    (rule.withCriteria criteria).needsGroup = rule.needsGroup := by
  have hchecks := checks_perm hperm
  have hmod' : ∀ c ∈ (rule.withCriteria criteria).checks, ∃ m, c.module? = some m :=
    fun c hc => hmod c (hchecks.subset hc)
  have hfalse : (rule.withCriteria criteria).needsGroup = false ↔ rule.needsGroup = false := by
    rw [needsGroup_eq_false_iff hmod, needsGroup_eq_false_iff hmod']
    simp only [hchecks.mem_iff]
  cases hneeds : rule.needsGroup with
  | false => exact hfalse.2 hneeds
  | true =>
    rw [← Bool.not_eq_false, hfalse, hneeds]
    exact Bool.false_ne_true.symm

/-- No two criteria share a name, save those on the user and the groups. -/
def NamesDiffer (rule : Rule) : Prop :=
  ((rule.criteria.filter fun c => !c.isIdentity).map Criterion.name).Nodup

theorem NamesDiffer.checksOf (h : rule.NamesDiffer) {m : Module} (hm : m ≠ .cel) :
    ((rule.checksOf m).map Criterion.name).Nodup := by
  refine h.sublist (List.Sublist.map _ ?_)
  have hothers : rule.checksOf m = (rule.criteria.filter fun c => !c.isIdentity).filter fun c =>
      decide (c.module? = some m) && !c.isGate := by
    unfold Rule.checksOf checks
    rw [List.filter_filter, List.filter_filter]
    apply List.filter_congr
    intro c _
    rw [Bool.eq_iff_iff]
    simp only [Bool.and_eq_true, decide_eq_true_iff, Bool.not_eq_true']
    refine ⟨fun hc => ⟨hc, ?_⟩, fun hc => hc.1⟩
    rw [← Bool.not_eq_true, Criterion.isIdentity_iff, hc.1]
    exact fun hcel => hm (Option.some.inj hcel.1)
  rw [hothers]
  exact List.filter_sublist

theorem NamesDiffer.of_perm (h : rule.NamesDiffer) (hperm : criteria.Perm rule.criteria) :
    (rule.withCriteria criteria).NamesDiffer := (((hperm.filter _).map _).nodup_iff).2 h

/-- What a module shows for its checks in another order. -/
theorem settings_of_perm [Pattern.Engine] {source : Settings.ScanSource}
    (hperm : criteria.Perm rule.criteria) (hnames : rule.NamesDiffer) {m : Module} {settings : Tree}
    (h : m.settingsFor source (rule.checksOf m) = .ok settings) :
    m.settingsFor source ((rule.withCriteria criteria).checksOf m) =
      .ok (settings.withValidations
        ((rule.withCriteria criteria).identities.map Criterion.validation) m.reference) := by
  have hchecks : ((rule.withCriteria criteria).checksOf m).Perm (rule.checksOf m) :=
    (checks_perm hperm).filter _
  have hmade := mapError_eq_ok.1 h
  refine mapError_eq_ok.2 ?_
  unfold Tree.withValidations
  by_cases hcel : m = .cel
  · subst hcel
    obtain ⟨hne, hall, -⟩ := Module.settings_cel_eq_ok.1 hmade
    rw [if_pos rfl, Module.settings_cel_eq_ok, checksOf_cel (rule.withCriteria criteria)]
    rw [checksOf_cel (rule.withCriteria criteria)] at hchecks
    refine ⟨fun hnil => hne ?_, fun c hc => hall c (hchecks.subset hc), rfl⟩
    rw [hnil] at hchecks
    exact hchecks.symm.eq_nil
  · rw [if_neg fun heq => hcel (Module.reference_injective heq)]
    refine Module.settings_of_perm hcel hchecks (fun c hc => ?_) (hnames.checksOf hcel) hmade
    exact of_decide_eq_true (List.mem_filter.1 hc).2

end Rule

section

variable [Pattern.Engine] {source : Settings.ScanSource} {config : Config} {rule : Rule}
  {criteria : List Criterion}

theorem Share.member_of_perm (hperm : criteria.Perm rule.criteria) (hnames : rule.NamesDiffer)
    {m : Module} {member : Member}
    (h : Share.member source (Share.entry rule.checks m).2 = .ok member) :
    Share.member source (Share.entry (rule.withCriteria criteria).checks m).2 =
      .ok (member.withValidations
        ((rule.withCriteria criteria).identities.map Criterion.validation)) := by
  obtain ⟨settings, hsettings, hmade⟩ := bind_eq_ok.1 h
  have hother := Rule.settings_of_perm hperm hnames hsettings
  rw [← pure_eq_ok.1 hmade]
  exact bind_eq_ok.2 ⟨_, hother, rfl⟩

theorem Policy.ofRule_of_perm (hmod : ∀ c ∈ rule.checks, ∃ m, c.module? = some m)
    (hperm : criteria.Perm rule.criteria) (hnames : rule.NamesDiffer) {policy : Policy}
    (h : Policy.ofRule source config rule = .ok policy) :
    Policy.ofRule source config (rule.withCriteria criteria) =
      .ok (policy.withValidations
        ((rule.withCriteria criteria).identities.map Criterion.validation)) := by
  have hchecks := Rule.checks_perm hperm
  have hmod' : ∀ c ∈ (rule.withCriteria criteria).checks, ∃ m, c.module? = some m :=
    fun c hc => hmod c (hchecks.subset hc)
  rw [Policy.ofRule_eq_ok, Rule.needsGroup_of_perm hmod hperm]
  let items := (rule.withCriteria criteria).identities.map Criterion.validation
  obtain ⟨hneeds, group, hgroup, rfl⟩ | ⟨hneeds, single, hsingle, rfl⟩ := Policy.ofRule_eq_ok.1 h
  · obtain ⟨selector, members, hgate, hmembers, rfl⟩ := (PolicyGroup.ofRule_eq_ok hmod).1 hgroup
    have hothers : Share.members source
        ((Share.reached (rule.withCriteria criteria).checks Module.byName).map
          (Share.entry (rule.withCriteria criteria).checks)) =
        .ok (members.map fun m => (m.1, m.2.withValidations items)) := by
      unfold Share.members at hmembers ⊢
      rw [List.mapM_map] at hmembers
      rw [Rule.reached_of_perm hperm, List.mapM_map]
      refine mapM_eq_ok_map (fun m _ entry hentry => ?_) hmembers
      obtain ⟨member, hmember, hnamed⟩ := bind_eq_ok.1 hentry
      rw [← pure_eq_ok.1 hnamed]
      exact bind_eq_ok.2 ⟨_, Share.member_of_perm hperm hnames hmember, rfl⟩
    refine .inl ⟨hneeds, _, (PolicyGroup.ofRule_eq_ok hmod').2
      ⟨selector, _, Rule.gate_of_perm hperm hgate, hothers, rfl⟩, ?_⟩
    unfold PolicyGroup.assemble
    rw [Rule.reached_of_perm hperm]
    rfl
  · obtain ⟨selector, m, settings, hgate, hm, hsettings, rfl⟩ := SinglePolicy.ofRule_eq_ok.1 hsingle
    obtain ⟨-, hall⟩ := commonModule_eq_ok.1 hm
    have hgate' := Rule.gate_of_perm hperm hgate
    have hall' : ∀ c ∈ (rule.withCriteria criteria).checks, c.module? = some m :=
      fun c hc => hall c (hchecks.subset hc)
    have hm' : commonModule (rule.withCriteria criteria).checks = .ok m :=
      commonModule_eq_ok.2 ⟨(Rule.gate_eq_ok.1 hgate').2.1, hall'⟩
    rw [← Rule.checksOf_eq_checks hall] at hsettings
    have hsettings' := Rule.settings_of_perm hperm hnames hsettings
    rw [Rule.checksOf_eq_checks hall'] at hsettings'
    refine .inr ⟨hneeds, _, SinglePolicy.ofRule_eq_ok.2
      ⟨selector, m, _, hgate', hm', hsettings', rfl⟩, rfl⟩

end

namespace Converter

variable [Pattern.Engine] {converter : Converter} {rule : Rule} {criteria : List Criterion}

theorem convert_of_perm (hperm : criteria.Perm rule.criteria)
    (hnames : rule.writtenOut.NamesDiffer) {policy : Policy}
    (h : converter.convert rule = .ok (.converted policy)) :
    converter.convert (rule.withCriteria criteria) = .ok (.converted (policy.withValidations
      ((rule.withCriteria criteria).identities.map Criterion.validation))) := by
  obtain ⟨hbundles, hid, hkind, henabled, hknown, hpolicy⟩ := convert_eq_converted_iff.1 h
  have hwritten : (criteria.flatMap Criterion.written).Perm rule.writtenOut.criteria :=
    hperm.flatMap_right _
  have hother := Policy.ofRule_of_perm hknown.module?_of_mem_checks hwritten hnames hpolicy
  rw [convert_eq_converted_iff, ← Rule.identities_writtenOut]
  refine ⟨fun c hc => hbundles c (hperm.subset hc), hid, hkind, henabled, ?_, hother⟩
  exact fun c hc => hknown c (hwritten.subset hc)

/-- The order of the criteria decides nothing but the order of the conditions on the user and the
groups, as long as all others have names of their own once the bundles are written out. -/
theorem convert_perm (converter : Converter) (hperm : criteria.Perm rule.criteria)
    (hplain : rule.hasCustom = false) (hnames : ∀ out, rule.expand = .ok out → out.NamesDiffer) :
    (Succeeds (converter.convert (rule.withCriteria criteria)) ↔ Succeeds (converter.convert rule)) ∧
    ∀ policy, converter.convert rule = .ok (.converted policy) →
      policy = policy.withValidations (rule.identities.map Criterion.validation) ∧
      converter.convert (rule.withCriteria criteria) = .ok (.converted (policy.withValidations
        ((rule.withCriteria criteria).identities.map Criterion.validation))) := by
  have hdiffer {policy : Policy} (h : converter.convert rule = .ok (.converted policy)) :
      rule.writtenOut.NamesDiffer :=
    hnames _ (Rule.expand_eq_ok.2 ⟨(convert_eq_converted_iff.1 h).1, rfl⟩)
  constructor
  · constructor
    · rintro ⟨outcome, houtcome⟩
      cases outcome with
      | diverted artifact =>
        have hplain' : (rule.withCriteria criteria).hasCustom = false := by
          rw [← hplain]
          exact hperm.any_eq
        exact absurd houtcome (converter.convert_ne_diverted hplain' artifact)
      | converted policy =>
        -- The rule is itself a reordering, of the one that is converted here.
        have hbundles := (convert_eq_converted_iff.1 houtcome).1
        have hwritten := hnames _
          (Rule.expand_eq_ok.2 ⟨fun c hc => hbundles c (hperm.symm.subset hc), rfl⟩)
        have hdiffer' : (rule.withCriteria criteria).writtenOut.NamesDiffer :=
          hwritten.of_perm (hperm.flatMap_right _)
        exact ⟨_, convert_of_perm hperm.symm hdiffer' houtcome⟩
    · rintro ⟨outcome, houtcome⟩
      cases outcome with
      | diverted artifact => exact absurd houtcome (converter.convert_ne_diverted hplain artifact)
      | converted policy => exact ⟨_, convert_of_perm hperm (hdiffer houtcome) houtcome⟩
  · intro policy h
    refine ⟨?_, convert_of_perm hperm (hdiffer h) h⟩
    have hself := convert_of_perm (List.Perm.refl rule.criteria) (hdiffer h) h
    exact Outcome.converted.inj (Except.ok.inj (h.symm.trans hself))

end Converter

/-- Users and groups, some of them twice, with a list of images and a bundle. -/
def Rule.usersAndImages : Rule where
  id := 1001
  criteria := [{ name := "user", operator := "containsAny", value := "alice, b*" },
    { name := "image", operator := "containsAny", value := "nginx" },
    { name := "userGroups", operator := "containsAll", value := "dev, ops" },
    { name := "pspCompliance", operator := "=", value := "true" },
    { name := "user", operator := "!regex", value := "^svc-.*" }]

theorem Converter.convert_perm_reversed :
    let other := Rule.usersAndImages.withCriteria Rule.usersAndImages.criteria.reverse
    ∃ policy, plain.convert .usersAndImages = .ok (.converted policy) ∧
      plain.convert other = .ok (.converted
        (policy.withValidations (other.identities.map Criterion.validation))) := by
  intro other
  have hkind : (Outcome.policy? (plain.convert .usersAndImages)).isSome = true := by
    decide +kernel
  obtain ⟨policy, hpolicy⟩ := Option.isSome_iff_exists.1 hkind
  have hconvert := Outcome.policy?_eq_some.1 hpolicy
  have hnames : ∀ out, Rule.usersAndImages.expand = .ok out → out.NamesDiffer := by
    intro out hout
    obtain ⟨-, rfl⟩ := Rule.expand_eq_ok.1 hout
    unfold Rule.NamesDiffer
    decide
  have hperm := List.reverse_perm Rule.usersAndImages.criteria
  exact ⟨policy, hconvert, ((plain.convert_perm hperm (by decide) hnames).2 policy hconvert).2⟩

end Admission
