import Admission.Pattern
import Admission.Proofs.Bridging

/-!
What flows where. Main statement: rules with the same criteria are converted alike, whatever the
rest of them and the configurations say, but for five things that a policy takes from there: its
name, its policy server, its mode, its background audit and the message of a group. Where the
configurations say different things about image scans, that is so for criteria that have no image
scanned.
-/

namespace Admission

namespace Policy

def withName (name : String) : Policy → Policy
  | .single policy => .single { policy with name }
  | .group policy => .group { policy with name }

def withMessage (message : String) : Policy → Policy
  | .single policy => .single policy
  | .group policy => .group { policy with message }

/-- The policy with what it takes from a configuration, and from a rule besides the criteria. -/
def relabelled (config : Config) (rule : Rule) : Policy → Policy
  | .single policy => .single { policy with
      name := rule.policyName
      server := config.policyServer
      mode := config.resolveMode rule.mode
      backgroundAudit := config.backgroundAudit }
  | .group policy => .group { policy with
      name := rule.policyName
      server := config.policyServer
      mode := config.resolveMode rule.mode
      backgroundAudit := config.backgroundAudit
      message := rule.violationMessage }

theorem relabelled_of_comment (config : Config) (rule : Rule) (comment : String)
    (policy : Policy) : policy.relabelled config { rule with comment } =
      (policy.relabelled config rule).withMessage
        { rule with comment : Rule }.violationMessage := by
  cases policy <;> rfl

theorem relabelled_of_id (config : Config) (rule : Rule) (id : UInt32) (policy : Policy) :
    policy.relabelled config { rule with id } =
      ((policy.relabelled config rule).withName { rule with id : Rule }.policyName).withMessage
        { rule with id : Rule }.violationMessage := by
  cases policy <;> rfl

end Policy

def Outcome.mapPolicy (f : Policy → Policy) : Outcome → Outcome
  | .converted policy => .converted (f policy)
  | .diverted artifact => .diverted artifact

/-- The source of image scans matters to no other module. -/
theorem Module.settingsFor_congr [Pattern.Engine] {source source' : Settings.ScanSource}
    {m : Module} (h : source' = source ∨ m ≠ .imageCve) (criteria : List Criterion) :
    m.settingsFor source' criteria = m.settingsFor source criteria := by
  obtain rfl | hm := h
  · rfl
  · unfold settingsFor
    cases m with
    | imageCve => exact absurd rfl hm
    | _ => rfl

/-- Bundles have no image scanned, so that a rule with bundles does so by another criterion. -/
theorem Rule.module?_ne_of_mem_written {rule : Rule}
    (h : ∀ c ∈ rule.criteria, c.module? ≠ some .imageCve) :
    ∀ c ∈ rule.written, c.module? ≠ some .imageCve := by
  intro c hc
  obtain ⟨d, hd, hwritten⟩ := List.mem_flatMap.1 hc
  have hbundled :
      ∀ e ∈ Topic.bundled.map Criterion.ofBundled, e.module? ≠ some .imageCve := by decide
  unfold Criterion.written at hwritten
  split at hwritten
  · exact hbundled c hwritten
  · rw [List.mem_singleton.1 hwritten]
    exact h d hd

section

variable {source source' : Settings.ScanSource} {rule other : Rule}

theorem Rule.gate_congr (h : other.criteria = rule.criteria) : other.gate = rule.gate := by
  unfold gate selector gates checks
  rw [h]

theorem Rule.checks_congr (h : other.criteria = rule.criteria) : other.checks = rule.checks := by
  unfold checks
  rw [h]

/-- A module that a check of the rule goes to is told of the same source, if it is told at all. -/
theorem Rule.source_of_mem_checks
    (hsource : source' = source ∨ ∀ c ∈ rule.criteria, c.module? ≠ some .imageCve)
    {c : Criterion} (hc : c ∈ rule.checks) {m : Module} (hm : c.module? = some m) :
    source' = source ∨ m ≠ .imageCve := by
  refine hsource.imp_right fun hnone hscan => ?_
  rw [hscan] at hm
  exact hnone c (List.mem_of_mem_filter hc) hm

variable [Pattern.Engine]

theorem SinglePolicy.ofRule_relabelled (hcriteria : other.criteria = rule.criteria)
    (hsource : source' = source ∨ ∀ c ∈ rule.criteria, c.module? ≠ some .imageCve)
    (config config' : Config) :
    (SinglePolicy.ofRule source' config' other).map Policy.single =
      ((SinglePolicy.ofRule source config rule).map Policy.single).map
        (Policy.relabelled config' other) := by
  unfold SinglePolicy.ofRule
  rw [Rule.gate_congr hcriteria, Rule.checks_congr hcriteria]
  cases rule.gate with
  | error failure => rfl
  | ok selector =>
    cases hcommon : commonModule rule.checks with
    | error failure => rfl
    | ok m =>
      obtain ⟨hne, hall⟩ := commonModule_eq_ok.1 hcommon
      obtain ⟨c, hc⟩ := List.exists_mem_of_ne_nil _ hne
      have hm := Rule.source_of_mem_checks hsource hc (hall c hc)
      simp only [ok_bind, Module.settingsFor_congr hm]
      cases m.settingsFor source rule.checks <;> rfl

theorem PolicyGroup.ofRule_relabelled (hcriteria : other.criteria = rule.criteria)
    (hsource : source' = source ∨ ∀ c ∈ rule.criteria, c.module? ≠ some .imageCve)
    (hmod : ∀ c ∈ rule.checks, ∃ m, c.module? = some m) (config config' : Config) :
    (PolicyGroup.ofRule source' config' other).map Policy.group =
      ((PolicyGroup.ofRule source config rule).map Policy.group).map
        (Policy.relabelled config' other) := by
  have hmod' : ∀ c ∈ other.checks, ∃ m, c.module? = some m := by
    rw [Rule.checks_congr hcriteria]
    exact hmod
  have hmembers : Share.members source'
      ((Share.reached rule.checks Module.byName).map (Share.entry rule.checks)) =
      Share.members source
        ((Share.reached rule.checks Module.byName).map (Share.entry rule.checks)) := by
    apply mapM_congr_left
    intro share hshare
    obtain ⟨m, hreached, rfl⟩ := List.mem_map.1 hshare
    obtain ⟨c, hc, hm⟩ := Share.mem_reached.1 hreached
    have hsettings := Module.settingsFor_congr (Rule.source_of_mem_checks hsource hc hm)
    simp only [Share.entry, Share.member, hsettings]
  rw [PolicyGroup.ofRule_eq hmod', PolicyGroup.ofRule_eq hmod, Rule.gate_congr hcriteria,
    Rule.checks_congr hcriteria, hmembers]
  have hassemble (selector : Option Selector) (members : List (String × Member)) :
      Policy.group (PolicyGroup.assemble config' other selector members) =
        (Policy.group (PolicyGroup.assemble config rule selector members)).relabelled
          config' other := by
    unfold PolicyGroup.assemble
    rw [Rule.checks_congr hcriteria]
    rfl
  cases rule.gate with
  | error failure => rfl
  | ok selector =>
    simp only [ok_bind]
    cases Share.members source
      ((Share.reached rule.checks Module.byName).map (Share.entry rule.checks)) with
    | error failure => rfl
    | ok members => exact congrArg Except.ok (hassemble selector members)

/-- Rules with the same criteria have the same policy, but for what it takes from elsewhere. -/
theorem Policy.ofRule_relabelled (hcriteria : other.criteria = rule.criteria)
    (hsource : source' = source ∨ ∀ c ∈ rule.criteria, c.module? ≠ some .imageCve)
    (hmod : ∀ c ∈ rule.checks, ∃ m, c.module? = some m) (config config' : Config) :
    Policy.ofRule source' config' other =
      (Policy.ofRule source config rule).map (relabelled config' other) := by
  unfold Policy.ofRule
  rw [Rule.needsGroup_congr (Rule.checks_congr hcriteria)]
  split
  · exact PolicyGroup.ofRule_relabelled hcriteria hsource hmod config config'
  · exact SinglePolicy.ofRule_relabelled hcriteria hsource config config'

end

/-- Nothing but its criteria can have the rule refused, and none of them is left to a bridge. -/
structure Rule.Enforced (rule : Rule) : Prop where
  id : 1000 ≤ rule.id
  kind : rule.kind = .deny
  enabled : rule.disabled = false
  plain : rule.hasCustom = false

theorem Rule.Enforced.validate_writtenOut {rule : Rule} (h : rule.Enforced) :
    rule.writtenOut.validate = rule.written.forM Criterion.validate := by
  have hid : ¬ rule.id < firstOwnId := UInt32.not_lt.2 h.id
  have hkind : ¬ rule.kind ≠ .deny := not_not.2 h.kind
  unfold validate writtenOut
  rw [if_neg hid, if_neg hkind, h.enabled]
  rfl

namespace Converter

variable [Pattern.Engine] {first second : Converter} {rule other : Rule}

/-- The way of a rule that only its criteria can have refused. -/
theorem convert_of_enforced (converter : Converter) (h : rule.Enforced) :
    converter.convert rule = (do
      let criteria ← expandAll rule.criteria
      criteria.forM Criterion.validate
      (Policy.ofRule converter.config.scanSource converter.config rule.writtenOut).map
        .converted) := by
  rw [converter.convert_of_plain h.plain]
  unfold Rule.expand
  cases hexpand : expandAll rule.criteria with
  | error failure => rfl
  | ok criteria =>
    obtain ⟨-, rfl⟩ := expandAll_eq_ok.1 hexpand
    exact congrArg
      (· >>= fun _ => (Policy.ofRule converter.config.scanSource converter.config _).map _)
      h.validate_writtenOut

theorem convert_relabelled (hrule : rule.Enforced) (hother : other.Enforced)
    (hcriteria : other.criteria = rule.criteria)
    (hsource : second.config.scanSource = first.config.scanSource ∨
      ∀ c ∈ rule.criteria, c.module? ≠ some .imageCve) :
    second.convert other =
      (first.convert rule).map (Outcome.mapPolicy (Policy.relabelled second.config other)) := by
  rw [second.convert_of_enforced hother, first.convert_of_enforced hrule, hcriteria]
  cases hexpand : expandAll rule.criteria with
  | error failure => rfl
  | ok criteria =>
    simp only [ok_bind]
    cases hvalid : criteria.forM Criterion.validate with
    | error failure => rfl
    | ok _ =>
      obtain ⟨-, rfl⟩ := expandAll_eq_ok.1 hexpand
      have hknown : rule.writtenOut.Known := by
        refine Rule.known_iff.2 ⟨?_, forM_eq_ok.1 hvalid⟩
        rw [Rule.hasCustom_writtenOut]
        exact hrule.plain
      have hwritten : other.writtenOut.criteria = rule.writtenOut.criteria := by
        change other.criteria.flatMap _ = rule.criteria.flatMap _
        rw [hcriteria]
      have hpolicy := Policy.ofRule_relabelled hwritten
        (hsource.imp_right Rule.module?_ne_of_mem_written) hknown.module?_of_mem_checks
        first.config second.config
      simp only [ok_bind, hpolicy]
      cases Policy.ofRule first.config.scanSource first.config rule.writtenOut <;> rfl

/-- A policy takes its labels from its own rule and configuration. -/
theorem convert_relabelled_self (converter : Converter) (hrule : rule.Enforced) :
    converter.convert rule = (converter.convert rule).map
      (Outcome.mapPolicy (Policy.relabelled converter.config rule)) :=
  convert_relabelled hrule hrule rfl (.inl rfl)

theorem enforced_of_convert {converter : Converter} {policy : Policy}
    (h : converter.convert rule = .ok (.converted policy)) : rule.Enforced := by
  obtain ⟨-, hid, hkind, henabled, hknown, -⟩ := convert_eq_converted_iff.1 h
  refine ⟨hid, hkind, henabled, ?_⟩
  rw [← Rule.hasCustom_writtenOut]
  exact (Rule.known_iff.1 hknown).1

theorem relabelled_of_convert {converter : Converter} {policy : Policy}
    (h : converter.convert rule = .ok (.converted policy)) :
    policy.relabelled converter.config rule = policy := by
  have hself := converter.convert_relabelled_self (enforced_of_convert h)
  rw [h] at hself
  exact (Outcome.converted.inj (Except.ok.inj hself)).symm

/-- What another rule changes in the labels, it changes in the policy. -/
theorem convert_eq_map (converter : Converter) (hrule : rule.Enforced) (hother : other.Enforced)
    (hcriteria : other.criteria = rule.criteria) {f : Policy → Policy}
    (hf : ∀ policy : Policy, policy.relabelled converter.config other =
      f (policy.relabelled converter.config rule)) :
    converter.convert other = (converter.convert rule).map (Outcome.mapPolicy f) := by
  have hsame : converter.config.scanSource = converter.config.scanSource := rfl
  rw [convert_relabelled hrule hother hcriteria (.inl hsame)]
  conv_rhs => rw [converter.convert_relabelled_self hrule]
  cases converter.convert rule with
  | error failure => rfl
  | ok outcome =>
    cases outcome with
    | converted policy =>
      exact congrArg (fun policy => Except.ok (Outcome.converted policy)) (hf policy)
    | diverted artifact => rfl

/-- Two rules that only their criteria can have refused, and that have the same criteria, are
converted alike under any two configurations that say the same about image scans, or any at all if
no criterion has an image scanned. Both fail, in the same way, or the policies are the same but for
what they take from the rest of the rule and from the configuration. From the id a policy takes its
name and the message of a group, from the comment only that message. -/
theorem convert_flow (hrule : rule.Enforced) (hother : other.Enforced)
    (hcriteria : other.criteria = rule.criteria)
    (hscan : (second.config.reportNamespace = first.config.reportNamespace ∧
        second.config.platform = first.config.platform) ∨
      ∀ c ∈ rule.criteria, c.module? ≠ some .imageCve) :
    second.convert other =
        (first.convert rule).map (Outcome.mapPolicy (Policy.relabelled second.config other)) ∧
      (∀ id, 1000 ≤ id → first.convert { rule with id } =
        (first.convert rule).map (Outcome.mapPolicy fun policy =>
          (policy.withName { rule with id : Rule }.policyName).withMessage
            { rule with id : Rule }.violationMessage)) ∧
      ∀ comment, first.convert { rule with comment } =
        (first.convert rule).map (Outcome.mapPolicy
          (Policy.withMessage { rule with comment : Rule }.violationMessage)) := by
  have hsource : second.config.scanSource = first.config.scanSource ∨
      ∀ c ∈ rule.criteria, c.module? ≠ some .imageCve := by
    refine hscan.imp_left fun hsame => ?_
    unfold Config.scanSource
    rw [hsame.1, hsame.2]
  have hpair := convert_relabelled hrule hother hcriteria hsource
  refine ⟨hpair, fun id hid => ?_, fun comment => ?_⟩
  · have hrenumbered : Rule.Enforced { rule with id } :=
      ⟨hid, hrule.kind, hrule.enabled, hrule.plain⟩
    exact first.convert_eq_map hrule hrenumbered rfl
      (Policy.relabelled_of_id first.config rule id)
  · have hcommented : Rule.Enforced { rule with comment } :=
      ⟨hrule.id, hrule.kind, hrule.enabled, hrule.plain⟩
    exact first.convert_eq_map hrule hcommented rfl
      (Policy.relabelled_of_comment first.config rule comment)

end Converter

def Converter.monitoring : Converter where
  config := {
    policyServer := "reserved", mode := some .monitor, backgroundAudit := false
    reportNamespace := "scans", platform := "arm64", output := "out.yaml", showSummary := true }
  valid := by decide
  bridge := .counting

theorem Converter.convert_flow_privilegedRoot :
    let other : Rule :=
      { Rule.privilegedRoot with id := 2001, mode := some "protect", comment := "twice" }
    ∃ policy, plain.convert .privilegedRoot = .ok (.converted policy) ∧
      monitoring.convert other =
        .ok (.converted (policy.relabelled monitoring.config other)) ∧
      plain.convert { Rule.privilegedRoot with id := 2001 } =
        .ok (.converted ((policy.withName "neuvector-rule-2001-conversion").withMessage
          "violate NeuVector rule (id=2001), comment ")) := by
  intro other
  have hkind : (Outcome.policy? (plain.convert .privilegedRoot)).isSome = true := by
    decide +kernel
  obtain ⟨policy, hpolicy⟩ := Option.isSome_iff_exists.1 hkind
  have hconvert := Outcome.policy?_eq_some.1 hpolicy
  have hrule : Rule.privilegedRoot.Enforced := ⟨by decide, rfl, rfl, by decide⟩
  have hother : other.Enforced := ⟨by decide, rfl, rfl, by decide⟩
  obtain ⟨hflow, hid, -⟩ :=
    @convert_flow _ plain monitoring _ _ hrule hother rfl (.inr (by decide))
  have hrenumbered := hid 2001 (by decide)
  rw [hconvert] at hflow hrenumbered
  exact ⟨policy, hconvert, hflow, hrenumbered⟩

end Admission
