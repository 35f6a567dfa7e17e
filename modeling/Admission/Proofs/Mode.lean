import Admission.CommandLine.Reader
import Admission.Config.Reader
import Admission.Proofs.Identity

/-!
The modes of policies. Main statement: all policies of a batch have one of the two modes exactly when
the configuration sets one, or no rule that becomes a policy has a text of its own that is neither.
Arguments and configuration files give no other text; that of a rule is only asked to be not empty.
-/

namespace Admission

namespace PolicyMode

variable {mode : PolicyMode} {s : String}

def IsText (s : String) : Prop := ∃ mode : PolicyMode, mode.text = s

theorem isText_text (mode : PolicyMode) : IsText mode.text := ⟨mode, rfl⟩

theorem isText_iff : IsText s ↔ s = "protect" ∨ s = "monitor" := by
  constructor
  · rintro ⟨mode, rfl⟩
    cases mode with
    | protect => exact .inl rfl
    | monitor => exact .inr rfl
  · rintro (rfl | rfl)
    · exact isText_text protect
    · exact isText_text monitor

instance : DecidablePred IsText := fun _ => decidable_of_iff _ isText_iff.symm

/-- Reading a text as a mode undoes writing the mode. -/
theorem ofText_eq_ok : ofText s = .ok mode ↔ s = mode.text := by
  constructor
  · intro h
    unfold ofText at h
    split at h
    · next hs =>
      cases h
      exact hs
    · split at h
      · next hs =>
        cases h
        exact hs
      · cases h
  · rintro rfl
    cases mode <;> rfl

end PolicyMode

theorem CommandLine.readMode_eq_ok {s : String} {mode : PolicyMode} :
    readMode s = .ok mode ↔ s = mode.text :=
  mapError_eq_ok.trans PolicyMode.ofText_eq_ok

namespace Config

theorem mode?.named_eq_some {s : String} {mode : PolicyMode} :
    mode?.named s = some (some mode) ↔ s = mode.text := by
  unfold mode?.named
  rw [← PolicyMode.ofText_eq_ok]
  cases PolicyMode.ofText s <;> simp [Except.toOption]

/-- A node that gives a mode is a scalar that is the text of the mode or tagged with it. -/
theorem text_of_mode? {root node : Yaml.Node} {mode : PolicyMode}
    (h : mode? root node = some (some mode)) :
    ∃ tag style s, scalar? root node = some (tag, style, s) ∧
      (s = mode.text ∨ Yaml.localTag? tag = some mode.text) := by
  unfold mode? at h
  cases hscalar : scalar? root node with
  | none =>
    rw [hscalar] at h
    cases h
  | some scalar =>
    obtain ⟨tag, style, s⟩ := scalar
    refine ⟨tag, style, s, rfl, ?_⟩
    rw [hscalar] at h
    cases tag with
    | none =>
      dsimp only at h
      split at h
      · cases h
      · exact .inl (mode?.named_eq_some.1 h)
    | some t =>
      dsimp only at h
      split at h
      -- A null, by its tag.
      · split at h <;> cases h
      · cases hlocal : Yaml.localTag? (some t) with
        | none =>
          rw [hlocal] at h
          exact .inl (mode?.named_eq_some.1 h)
        | some name =>
          rw [hlocal] at h
          dsimp only at h
          split at h
          · exact .inr (congrArg some (mode?.named_eq_some.1 h))
          · cases h

/-- The configured mode goes before the one of the rule, which counts if it is not empty. -/
theorem resolveMode_eq (config : Config) (ruleMode : Option String) :
    config.resolveMode ruleMode =
      ((config.mode.map PolicyMode.text).or (ruleMode.filter (· ≠ ""))).getD "protect" := by
  unfold resolveMode
  cases config.mode with
  | some mode => rfl
  | none =>
    cases ruleMode with
    | none => rfl
    | some s =>
      rw [Option.filter_some]
      by_cases hs : s = "" <;> simp [hs, PolicyMode.text]

theorem isText_resolveMode_iff {config : Config} {ruleMode : Option String} :
    PolicyMode.IsText (config.resolveMode ruleMode) ↔
      config.mode.isSome ∨ ∀ s, ruleMode = some s → s ≠ "" → PolicyMode.IsText s := by
  have hdefault : PolicyMode.IsText "protect" := PolicyMode.isText_text .protect
  rw [resolveMode_eq]
  cases config.mode with
  | some mode => exact iff_of_true (PolicyMode.isText_text mode) (.inl rfl)
  | none =>
    cases ruleMode with
    | none => exact iff_of_true hdefault (.inr nofun)
    | some s =>
      rw [Option.filter_some]
      by_cases hs : s = "" <;> simp [hs, hdefault]

end Config

namespace Export

theorem modeOf_ne_empty (mode : Option String) : modeOf mode ≠ some "" := by
  simp [modeOf, Option.filter_eq_some_iff]

/-- A rule keeps its mode when it gets its id. -/
theorem mode_mem_assignIds {next : UInt32} {rules : List ExportedRule} {rule : Rule}
    (h : rule ∈ assignIds next rules) : ∃ exported ∈ rules, rule.mode = exported.mode := by
  induction rules generalizing next with
  | nil => cases h
  | cons exported rules ih =>
    have hrest (next : UInt32) (hrule : rule ∈ assignIds next rules) :
        ∃ other ∈ exported :: rules, rule.mode = other.mode := by
      obtain ⟨other, hother, hmode⟩ := ih hrule
      exact ⟨other, List.mem_cons_of_mem _ hother, hmode⟩
    rw [assignIds] at h
    split at h <;>
    · obtain rfl | hrule := List.mem_cons.1 h
      · exact ⟨exported, List.mem_cons_self, rfl⟩
      · exact hrest _ hrule

/-- No rule of a stream has an empty mode. -/
theorem mode_ne_empty_of_exportedFrom {position : Nat} {documents : List Document}
    {rules : List ExportedRule} (h : exportedFrom position documents = .ok rules) :
    ∀ rule ∈ rules, rule.mode ≠ some "" := by
  induction documents generalizing position rules with
  | nil =>
    cases h
    exact List.forall_mem_nil _
  | cons document documents ih =>
    cases document with
    | void => exact ih h
    | broken => cases h
    | resource given =>
      obtain ⟨later, hlater, hrules⟩ := bind_eq_ok.1 h
      rw [← pure_eq_ok.1 hrules, List.forall_mem_append, List.forall_mem_map]
      exact ⟨fun rule _ => modeOf_ne_empty rule.mode, ih hlater⟩

theorem Dialect.mode_ne_empty_of_exported {dialect : Dialect} {s : String}
    {rules : List ExportedRule} (h : dialect.exported s = .ok rules) :
    ∀ rule ∈ rules, rule.mode ≠ some "" := by
  cases dialect with
  | interface =>
    rw [Dialect.exported] at h
    split at h
    · cases h
      exact List.forall_mem_map.2 fun rule _ => modeOf_ne_empty rule.mode
    · cases h
  | resources => exact mode_ne_empty_of_exportedFrom h

/-- No rule of a file has an empty mode. -/
theorem Dialect.mode_ne_empty_of_read {dialect : Dialect} {s : String} {rules : List Rule}
    (h : dialect.read s = .ok rules) : ∀ rule ∈ rules, rule.mode ≠ some "" := by
  intro rule hrule
  rw [Dialect.read_eq] at h
  obtain ⟨exported, hexported, rfl⟩ := map_eq_ok.1 h
  obtain ⟨origin, horigin, hmode⟩ := mode_mem_assignIds hrule
  rw [hmode]
  exact Dialect.mode_ne_empty_of_exported hexported origin horigin

end Export

namespace Converter

variable [Pattern.Engine] {converter : Converter}

theorem isText_mode_policies_iff {rules : List Rule} :
    (∀ policy ∈ (converter.convertAll rules).policies, PolicyMode.IsText policy.mode) ↔
      converter.config.mode.isSome ∨ ∀ rule ∈ rules, ∀ policy,
        converter.convert rule = .ok (.converted policy) →
        ∀ s, rule.mode = some s → s ≠ "" → PolicyMode.IsText s := by
  simp only [mem_policies_convertAll]
  constructor
  · intro hall
    by_cases hmode : converter.config.mode.isSome
    · exact .inl hmode
    · refine .inr fun rule hrule policy hconvert => ?_
      have htext := hall policy ⟨rule, hrule, hconvert⟩
      rw [(name_mode_of_convert hconvert).2] at htext
      exact (Config.isText_resolveMode_iff.1 htext).resolve_left hmode
  · rintro hgiven policy ⟨rule, hrule, hconvert⟩
    rw [(name_mode_of_convert hconvert).2, Config.isText_resolveMode_iff]
    exact hgiven.imp_right fun hrules => hrules rule hrule policy hconvert

/-- Loaded rules have no empty mode, so the condition need not speak of one. -/
theorem isText_mode_policies_iff_of_read {dialect : Export.Dialect} {text : String}
    {rules : List Rule} (h : dialect.read text = .ok rules) :
    (∀ policy ∈ (converter.convertAll rules).policies, PolicyMode.IsText policy.mode) ↔
      converter.config.mode.isSome ∨ ∀ rule ∈ rules, ∀ policy,
        converter.convert rule = .ok (.converted policy) →
        ∀ s, rule.mode = some s → PolicyMode.IsText s := by
  rw [isText_mode_policies_iff]
  refine or_congr_right ⟨fun hrules rule hrule policy hconvert s hs => ?_,
    fun hrules rule hrule policy hconvert s hs _ => hrules rule hrule policy hconvert s hs⟩
  have hne : s ≠ "" := by
    rintro rfl
    exact Export.Dialect.mode_ne_empty_of_read h rule hrule hs
  exact hrules rule hrule policy hconvert s hs hne

/-- All policies of a batch have one of the two modes exactly when one is configured, or each rule
that becomes a policy has one of them, an empty one or none; each policy has the configured mode, else
the text of its rule, else the default. For the rules of a file there is no empty mode to consider. An
argument or a node of a configuration file gives a mode only by its text. -/
theorem modes_of_convertAll (converter : Converter) (rules : List Rule) :
    ((∀ policy ∈ (converter.convertAll rules).policies, PolicyMode.IsText policy.mode) ↔
      converter.config.mode.isSome ∨ ∀ rule ∈ rules, ∀ policy,
        converter.convert rule = .ok (.converted policy) →
        ∀ s, rule.mode = some s → s ≠ "" → PolicyMode.IsText s) ∧
    (∀ policy ∈ (converter.convertAll rules).policies, ∃ rule ∈ rules,
      converter.convert rule = .ok (.converted policy) ∧
      policy.mode = ((converter.config.mode.map PolicyMode.text).or
        (rule.mode.filter (· ≠ ""))).getD "protect") ∧
    (∀ (dialect : Export.Dialect) (text : String), dialect.read text = .ok rules →
      ((∀ policy ∈ (converter.convertAll rules).policies, PolicyMode.IsText policy.mode) ↔
        converter.config.mode.isSome ∨ ∀ rule ∈ rules, ∀ policy,
          converter.convert rule = .ok (.converted policy) →
          ∀ s, rule.mode = some s → PolicyMode.IsText s)) ∧
    (∀ s mode, CommandLine.readMode s = .ok mode ↔ s = mode.text) ∧
    ∀ root node mode, Config.mode? root node = some (some mode) →
      ∃ tag style s, Config.scalar? root node = some (tag, style, s) ∧
        (s = mode.text ∨ Yaml.localTag? tag = some mode.text) := by
  refine ⟨isText_mode_policies_iff, ?_, ?_, ?_, ?_⟩
  · intro policy hpolicy
    obtain ⟨rule, hrule, hconvert⟩ := mem_policies_convertAll.1 hpolicy
    exact ⟨rule, hrule, hconvert, by rw [(name_mode_of_convert hconvert).2, Config.resolveMode_eq]⟩
  · exact fun dialect text hread => isText_mode_policies_iff_of_read hread
  · exact fun s mode => CommandLine.readMode_eq_ok
  · exact fun root node mode => Config.text_of_mode?

end Converter

def Export.underMode (mode : String) : String :=
  "\x7b\"rules\":[\x7b\"id\":1001,\"rule_mode\":\"" ++ mode ++ "\",\"criteria\":" ++
  "[\x7b\"name\":\"runAsRoot\",\"op\":\"=\",\"value\":\"true\"\x7d]\x7d]\x7d"

theorem Converter.modes_of_convertAll_monitor : ∃ rules,
    Export.Dialect.interface.read (Export.underMode "monitor") = .ok rules ∧
      (plain.convertAll rules).policies.map Policy.mode = ["monitor"] ∧
      (∀ policy ∈ (plain.convertAll rules).policies, PolicyMode.IsText policy.mode) ∧
      ∃ tag style s, Config.scalar? (.scalar none none .plain "protect")
        (.scalar none none .plain "protect") = some (tag, style, s) ∧
        (s = "protect" ∨ Yaml.localTag? tag = some "protect") := by
  have hread : (Export.Dialect.interface.read (Export.underMode "monitor")).toOption.map
      (fun rules => (rules.map Rule.mode, (plain.convertAll rules).policies.map Policy.mode)) =
        some ([some "monitor"], ["monitor"]) := by decide +kernel
  have hnode : Config.mode? (.scalar none none .plain "protect")
      (.scalar none none .plain "protect") = some (some .protect) := by decide
  obtain ⟨rules, hread, hmodes⟩ := toOption_map_eq_some.1 hread
  rw [Prod.mk.injEq] at hmodes
  obtain ⟨-, -, hloaded, -, hfile⟩ := modes_of_convertAll plain rules
  refine ⟨rules, hread, hmodes.2, (hloaded _ _ hread).2 (.inr ?_), hfile _ _ _ hnode⟩
  intro rule hrule policy _ s hs
  have hmode : rule.mode ∈ [some "monitor"] := by
    rw [← hmodes.1]
    exact List.mem_map_of_mem hrule
  rw [List.mem_singleton, hs] at hmode
  cases hmode
  exact PolicyMode.isText_text .monitor

/-- A mode that no argument and no configuration file gives comes through a rule. -/
theorem Converter.audit_mode_kept : ∃ rules,
    Export.Dialect.interface.read (Export.underMode "audit") = .ok rules ∧
      (plain.convertAll rules).policies.map Policy.mode = ["audit"] ∧
      ¬ ∀ policy ∈ (plain.convertAll rules).policies, PolicyMode.IsText policy.mode := by
  have hread : (Export.Dialect.interface.read (Export.underMode "audit")).toOption.map
      (fun rules => (plain.convertAll rules).policies.map Policy.mode) = some ["audit"] := by
    decide +kernel
  obtain ⟨rules, hread, hmodes⟩ := toOption_map_eq_some.1 hread
  refine ⟨rules, hread, hmodes, fun hall => ?_⟩
  have haudit : "audit" ∈ (plain.convertAll rules).policies.map Policy.mode := by
    rw [hmodes]
    exact List.mem_singleton_self _
  obtain ⟨policy, hpolicy, hmode⟩ := List.mem_map.1 haudit
  have htext := hall policy hpolicy
  rw [hmode] at htext
  revert htext
  decide

end Admission
