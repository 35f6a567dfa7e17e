import Admission.Program.Plan
import Admission.Proofs.Arguments
import Admission.Proofs.Composition
import Admission.Proofs.Flow
import Admission.Proofs.Record

/-!
Where the settings of a conversion come from. Main statement: each setting that shows in the
policies is the one of the arguments, else of the environment, else of the configuration file, else
its default, whichever of these say something about other settings; the mode of a rule stands
between the file and the default.
-/

namespace Admission

/-- What one source says about the settings of a conversion. -/
structure Layer where
  policyServer : Option String := none
  mode : Option PolicyMode := none
  backgroundAudit : Option Bool := none
  reportNamespace : Option String := none
  platform : Option String := none
  output : Option String := none
  showSummary : Bool := false

namespace Layer

open CommandLine in
def ofItems (items : List Item) : Layer where
  policyServer := given .policyServer items
  mode := (given .mode items).bind fun s => (PolicyMode.ofText s).toOption
  backgroundAudit := (given .backgroundAudit items).bind fun s => (readFlag s).toOption
  reportNamespace := given .reportNamespace items
  platform := given .platform items
  output := given .output items
  showSummary := decide (.flag .showSummary ∈ items)

def valueOf (root : Yaml.Node) (entries : List (Yaml.Node × Yaml.Node)) (key : String) :
    Option Yaml.Node :=
  (entries.find? fun e => Config.text? root e.1 == some key).map Prod.snd

open Config in
def ofEntries (root : Yaml.Node) (entries : List (Yaml.Node × Yaml.Node)) : Layer where
  policyServer := (valueOf root entries "policy_server").bind (text? root)
  mode := ((valueOf root entries "mode").bind (mode? root)).getD none
  backgroundAudit := (valueOf root entries "background_audit").bind (flag? root)
  reportNamespace := (valueOf root entries "vul_report_namespace").bind (text? root)
  platform := (valueOf root entries "platform").bind (text? root)
  output := (valueOf root entries "output").bind (text? root)
  showSummary := ((valueOf root entries "show_summary").bind (flag? root)).getD false

def ofDocument : Yaml.Document → Layer
  | .node (.mapping tag anchor entries) => ofEntries (.mapping tag anchor entries) entries
  | _ => {}

def ofReading : Reading → Layer
  | .text s => ((Yaml.single? s).map ofDocument).getD {}
  | .unreadable | .absent => {}

/-- The configuration in which everything else has its default. -/
def config (layer : Layer) : Config where
  policyServer := layer.policyServer.getD "default"
  mode := layer.mode
  backgroundAudit := layer.backgroundAudit.getD true
  reportNamespace := layer.reportNamespace.getD "sbomscanner"
  platform := layer.platform.getD "amd64"
  output := layer.output.getD "policies.yaml"
  showSummary := layer.showSummary

end Layer

namespace Config

open Yaml

variable {root : Node} {entries : List (Node × Node)} {named : List (String × Node)} {key : String}

theorem valueOf_of_named
    (h : entries.mapM (fun e => (text? root e.1).map fun s => (s, e.2)) = some named) :
    Layer.valueOf root entries key = (named.find? fun e => e.1 == key).map Prod.snd := by
  unfold Layer.valueOf
  induction Tree.mapM_eq_some.1 h with
  | nil => rfl
  | @cons entry e _ _ hentry hrest ih =>
    obtain ⟨s, hs, rfl⟩ := Option.map_eq_some_iff.1 hentry
    rw [List.find?_cons, List.find?_cons, hs, Option.some_beq_some]
    cases s == key with
    | true => rfl
    | false => exact ih (Tree.mapM_eq_some.2 hrest)

/-- A setting has the value under its key, or its default. -/
theorem setting?_eq_some {α : Type} {default value : α} {read : Node → Option α}
    (h : setting? named key default read = some value) :
    value = (((named.find? fun e => e.1 == key).map Prod.snd).bind read).getD default := by
  obtain ⟨found, hentry, h⟩ := Option.bind_eq_some_iff.1 h
  have hfound : found = (named.find? fun e => e.1 == key).map Prod.snd := by
    rw [← List.head?_filter]
    unfold entry? at hentry
    split at hentry
    · next hnil =>
      cases hentry
      rw [hnil]
      rfl
    · next e hone =>
      cases hentry
      rw [hone]
      rfl
    · cases hentry
  rw [← hfound]
  cases found with
  | none => exact (Option.some.inj h).symm
  | some node =>
    have hread : read node = some value := h
    rw [Option.bind_some, hread, Option.getD_some]

theorem eq_of_ofEntries? {config : Config} (h : ofEntries? root entries = some config) :
    config = (Layer.ofEntries root entries).config := by
  obtain ⟨named, hnamed, h⟩ := Option.bind_eq_some_iff.1 h
  simp only [bind, pure, Option.bind_eq_some_iff, Option.some.injEq] at h
  obtain ⟨_, hserver, _, hmode, _, haudit, _, hnamespace, _, hplatform, _, houtput, _, hsummary,
    rfl⟩ := h
  rw [setting?_eq_some hserver, setting?_eq_some hmode, setting?_eq_some haudit,
    setting?_eq_some hnamespace, setting?_eq_some hplatform, setting?_eq_some houtput,
    setting?_eq_some hsummary]
  simp only [← valueOf_of_named hnamed]
  rfl

theorem eq_of_ofDocument? {document : Document} {config : Config}
    (h : ofDocument? document = some config) : config = (Layer.ofDocument document).config := by
  unfold ofDocument? at h
  split at h
  · cases h
    rfl
  · cases h
  · split at h
    · exact eq_of_ofEntries? h
    · cases h
      rfl
    · cases h

/-- The configuration of a file is what the file says, and the defaults. -/
theorem eq_of_fileConfig {arguments : ConvertArguments} {file : Reading} {config : Config}
    (h : arguments.fileConfig file = .ok config) : config = (Layer.ofReading file).config := by
  unfold ConvertArguments.fileConfig at h
  split at h
  · cases h
    rfl
  · cases h
  · next s =>
    have htext := mapError_eq_ok.1 h
    unfold ofText at htext
    split at htext
    · cases htext
    · next found hfound =>
      split at htext
      · cases htext
      · cases htext
        obtain ⟨document, hdocument, hread⟩ := Option.bind_eq_some_iff.1 hfound
        have hlayer : Layer.ofReading (.text s) = Layer.ofDocument document := by
          dsimp only [Layer.ofReading]
          rw [hdocument, Option.map_some, Option.getD_some]
        rw [hlayer]
        exact eq_of_ofDocument? hread

end Config

open CommandLine in
/-- Each setting is the one of the items, else of the environment, else of the file, else its
default. -/
theorem ConvertArguments.override_config {server : Option String} {items : List Item}
    {arguments : ConvertArguments} (h : GivenBy server items arguments) (file : Layer) :
    let flags := Layer.ofItems items
    arguments.override file.config = {
      policyServer := ((flags.policyServer.or server).or file.policyServer).getD "default"
      mode := flags.mode.or file.mode
      backgroundAudit := (flags.backgroundAudit.or file.backgroundAudit).getD true
      reportNamespace := (flags.reportNamespace.or file.reportNamespace).getD "sbomscanner"
      platform := (flags.platform.or file.platform).getD "amd64"
      output := (flags.output.or file.output).getD "policies.yaml"
      showSummary := flags.showSummary || file.showSummary } := by
  intro flags
  have hmode : arguments.mode = flags.mode := by
    change _ = (given .mode items).bind _
    rw [← h.mode]
    cases arguments.mode with
    | none => rfl
    | some mode => cases mode <;> rfl
  have haudit : arguments.backgroundAudit = flags.backgroundAudit := by
    change _ = (given .backgroundAudit items).bind _
    rw [← h.backgroundAudit]
    cases arguments.backgroundAudit with
    | none => rfl
    | some b => cases b <;> rfl
  have hsummary : arguments.showSummary = flags.showSummary := by
    change _ = decide _
    rw [Bool.eq_iff_iff, h.showSummary, decide_eq_true_iff]
  unfold ConvertArguments.override
  rw [hmode, haudit, hsummary, h.policyServer, h.reportNamespace, h.platform, h.output]
  simp only [Option.getD_or]
  rfl

namespace Settings.ImageScan

/-- No criterion changes where the reports are. -/
theorem source_of_add {settings out : ImageScan} {c : Criterion} (h : settings.add c = .ok out) :
    out.source = settings.source := by
  unfold add at h
  split at h
  · obtain ⟨_, -, hout⟩ := bind_eq_ok.1 h
    cases hout
    rfl
  · obtain ⟨_, -, hlimit⟩ := bind_eq_ok.1 h
    obtain ⟨_, -, hout⟩ := bind_eq_ok.1 hlimit
    cases hout
    rfl
  · obtain ⟨_, -, hlimit⟩ := bind_eq_ok.1 h
    obtain ⟨_, -, hout⟩ := bind_eq_ok.1 hlimit
    cases hout
    rfl
  · cases h

theorem source_of_foldlM {settings out : ImageScan} {criteria : List Criterion}
    (h : criteria.foldlM add settings = .ok out) : out.source = settings.source := by
  have hstep (s : ImageScan) (c : Criterion) (_ : c ∈ criteria) (t : ImageScan)
      (hs : s.source = settings.source) (hadd : add s c = .ok t) : t.source = settings.source :=
    (source_of_add hadd).trans hs
  exact foldlM_keeps (P := fun s => s.source = settings.source) hstep rfl h

theorem get?_toTree (settings : ImageScan) :
    settings.toTree.get? "vulnerabilityReportNamespace" =
        some (.text settings.source.reportNamespace) ∧
      (settings.toTree.get? "platform").bind (Tree.get? "arch") =
        some (.text settings.source.platform) := by
  obtain ⟨source, ignored, high, medium⟩ := settings
  cases ignored <;> cases high <;> cases medium <;> exact ⟨rfl, rfl⟩

end Settings.ImageScan

theorem Module.get?_settingsFor_imageCve [Pattern.Engine] {source : Settings.ScanSource}
    {criteria : List Criterion}
    {settings : Tree} (h : Module.imageCve.settingsFor source criteria = .ok settings) :
    settings.get? "vulnerabilityReportNamespace" = some (.text source.reportNamespace) ∧
      (settings.get? "platform").bind (Tree.get? "arch") = some (.text source.platform) := by
  obtain ⟨scan, hscan, rfl⟩ := map_eq_ok.1 (mapError_eq_ok.1 h)
  have hsource : scan.source = source := Settings.ImageScan.source_of_foldlM hscan
  rw [← hsource]
  exact scan.get?_toTree

namespace Policy

def server : Policy → String
  | single p => p.server
  | group p => p.server

def backgroundAudit : Policy → Bool
  | single p => p.backgroundAudit
  | group p => p.backgroundAudit

/-- What the policy runs: a module, or the members of a group. -/
def parts : Policy → List Member
  | single p => [p.member]
  | group p => p.members.map Prod.snd

variable [Pattern.Engine] {source : Settings.ScanSource} {config : Config} {rule : Rule}
  {policy : Policy}

/-- A policy runs the modules that the checks of its rule reach, each for its own checks. -/
theorem parts_of_ofRule (hmod : ∀ c ∈ rule.checks, ∃ m, c.module? = some m)
    (h : Policy.ofRule source config rule = .ok policy) :
    (Share.reached rule.checks Module.byName).mapM
      (fun m => Share.member source ⟨m, rule.checksOf m⟩) = .ok policy.parts := by
  obtain ⟨-, group, hgroup, rfl⟩ | ⟨-, single, hsingle, rfl⟩ := Policy.ofRule_eq_ok.1 h
  · obtain ⟨selector, members, -, hmembers, rfl⟩ := (PolicyGroup.ofRule_eq_ok hmod).1 hgroup
    unfold Share.members at hmembers
    rw [List.mapM_map] at hmembers
    refine mapM_eq_ok_map (fun m _ entry hentry => ?_) hmembers
    obtain ⟨member, hmember, hnamed⟩ := bind_eq_ok.1 hentry
    rw [← pure_eq_ok.1 hnamed]
    exact hmember
  · obtain ⟨selector, m, settings, -, hm, hsettings, rfl⟩ := SinglePolicy.ofRule_eq_ok.1 hsingle
    have hreached : Share.reached rule.checks Module.byName = [m] := by
      have hcard := @Share.length_reached rule
      rw [Rule.modules_of_commonModule hm, Finset.card_singleton] at hcard
      obtain ⟨k, hk⟩ := List.length_eq_one_iff.1 hcard
      have hmem : m ∈ Share.reached rule.checks Module.byName := by
        rw [Share.mem_reached_iff, Rule.modules_of_commonModule hm]
        exact Finset.mem_singleton_self m
      rw [hk, List.mem_singleton] at hmem
      rw [hk, hmem]
    have hmember : Share.member source ⟨m, rule.checksOf m⟩ =
        .ok ⟨m.reference, settings, m.contextResources⟩ := by
      unfold Share.member
      rw [Rule.checksOf_eq_checks (commonModule_eq_ok.1 hm).2, hsettings]
      rfl
    rw [hreached, mapM_eq_ok]
    exact .cons hmember .nil

/-- Whatever a policy runs is a module that is reached, with its settings for its own checks. -/
theorem mem_parts_iff (hmod : ∀ c ∈ rule.checks, ∃ m, c.module? = some m)
    (h : Policy.ofRule source config rule = .ok policy) {part : Member} :
    part ∈ policy.parts ↔ ∃ m, rule.Reaches m ∧
      m.settingsFor source (rule.checksOf m) = .ok part.settings ∧
      part = ⟨m.reference, part.settings, m.contextResources⟩ := by
  rw [mem_of_mapM_eq_ok (parts_of_ofRule hmod h)]
  simp only [Share.mem_reached]
  apply exists_congr
  intro m
  apply and_congr_right
  intro _
  unfold Share.member
  rw [bind_eq_ok]
  constructor
  · intro hgiven
    obtain ⟨settings, hsettings, hmade⟩ := hgiven
    rw [← pure_eq_ok.1 hmade]
    exact ⟨hsettings, rfl⟩
  · intro hgiven
    obtain ⟨hsettings, hpart⟩ := hgiven
    exact ⟨_, hsettings, pure_eq_ok.2 hpart.symm⟩

/-- Each check of a rule has its module in the policy, which is handed all checks of its own. -/
theorem exists_part {m : Module} (hmod : ∀ c ∈ rule.checks, ∃ m, c.module? = some m)
    (h : Policy.ofRule source config rule = .ok policy) (hreach : rule.Reaches m) :
    ∃ part ∈ policy.parts, part.module = m.reference ∧
      m.settings source (rule.checksOf m) = .ok part.settings := by
  have hgroup := (Policy.succeeds_ofRule hmod).1 ⟨policy, h⟩
  obtain ⟨settings, hsettings⟩ := hgroup.2 m hreach
  refine ⟨⟨m.reference, settings, m.contextResources⟩, ?_, rfl, hsettings⟩
  exact (mem_parts_iff hmod h).2 ⟨m, hreach, mapError_eq_ok.2 hsettings, rfl⟩

theorem settingsFor_of_mem_parts (hmod : ∀ c ∈ rule.checks, ∃ m, c.module? = some m)
    (h : Policy.ofRule source config rule = .ok policy) {part : Member}
    (hpart : part ∈ policy.parts) :
    ∃ (m : Module) (criteria : List Criterion), part.module = m.reference ∧
      m.settingsFor source criteria = .ok part.settings := by
  obtain ⟨m, -, hsettings, hmade⟩ := (mem_parts_iff hmod h).1 hpart
  exact ⟨m, _, congrArg Member.module hmade, hsettings⟩

end Policy

namespace Converter

variable [Pattern.Engine] {converter : Converter} {rule : Rule} {policy : Policy}

theorem server_audit_of_convert (h : converter.convert rule = .ok (.converted policy)) :
    policy.server = converter.config.policyServer ∧
      policy.backgroundAudit = converter.config.backgroundAudit := by
  rw [← relabelled_of_convert h]
  cases policy <;> exact ⟨rfl, rfl⟩

/-- Every part that has images scanned is told where the reports are. -/
theorem scans_of_convert (h : converter.convert rule = .ok (.converted policy)) {part : Member}
    (hpart : part ∈ policy.parts) (hscan : part.module = Module.imageCve.reference) :
    part.settings.get? "vulnerabilityReportNamespace" =
        some (.text converter.config.reportNamespace) ∧
      (part.settings.get? "platform").bind (Tree.get? "arch") =
        some (.text converter.config.platform) := by
  obtain ⟨-, -, -, -, hknown, hpolicy⟩ := convert_eq_converted_iff.1 h
  obtain ⟨m, criteria, hmodule, hsettings⟩ :=
    Policy.settingsFor_of_mem_parts hknown.module?_of_mem_checks hpolicy hpart
  cases Module.reference_injective (hmodule.symm.trans hscan)
  exact Module.get?_settingsFor_imageCve hsettings

end Converter

namespace ConvertArguments

variable {arguments : ConvertArguments} {configFile ruleFile : Reading}

/-- These are the converter and the rules that the arguments lead to, with what was read of the
configuration file and of the rule file. -/
structure Loads (arguments : ConvertArguments) (configFile ruleFile : Reading)
    (converter : Converter) (rules : List Rule) : Prop where
  config : arguments.config configFile = .ok ⟨converter.config, converter.valid⟩
  bridge : converter.bridge = Bridge.none
  rules : arguments.rules ruleFile = .ok rules

theorem config_eq_ok {config : { config : Config // config.Valid }} :
    arguments.config configFile = .ok config ↔
      ∃ base, arguments.fileConfig configFile = .ok base ∧ arguments.override base = config.1 := by
  unfold ConvertArguments.config
  rw [bind_eq_ok]
  refine exists_congr fun base => and_congr_right fun _ => ?_
  dsimp only
  split
  · rw [pure_eq_ok, Subtype.ext_iff]
  · next fault hfault =>
    refine iff_of_false nofun fun heq => ?_
    rw [heq, Config.validate_eq_ok_iff.2 config.2] at hfault
    cases hfault

theorem Loads.exists_override {converter : Converter} {rules : List Rule}
    (h : arguments.Loads configFile ruleFile converter rules) :
    ∃ base, arguments.fileConfig configFile = .ok base ∧
      converter.config = arguments.override base := by
  obtain ⟨base, hbase, hoverride⟩ := config_eq_ok.1 h.config
  exact ⟨base, hbase, hoverride.symm⟩

/-- A plan can be made exactly for what the arguments lead to. -/
theorem make_eq_ok [Pattern.Engine] {plan : Plan} :
    Plan.make arguments configFile ruleFile = .ok plan ↔
      ∃ converter rules, arguments.Loads configFile ruleFile converter rules ∧
        plan = Plan.ofRules converter rules := by
  unfold Plan.make
  simp only [bind_eq_ok, pure_eq_ok]
  constructor
  · rintro ⟨config, hconfig, rules, hrules, rfl⟩
    exact ⟨⟨config.1, config.2, Bridge.none⟩, rules, ⟨hconfig, rfl, hrules⟩, rfl⟩
  · rintro ⟨⟨config, valid, bridge⟩, rules, ⟨hconfig, hbridge, hrules⟩, rfl⟩
    cases hbridge
    exact ⟨_, hconfig, rules, hrules, rfl⟩

end ConvertArguments

open CommandLine in
/-- Every policy of a conversion that can be planned is the policy of a rule in the rule file, and has
its policy server, its mode, its background audit and the source of its image scans from the
arguments, else the environment, else the configuration file, else the rule, else the defaults, as far
as these say anything about it. The items are what the words of the command line give, and its only
reading; the two files are whatever was read at their paths. The policy server and the platform are
not blank. The table of rules is shown as soon as the arguments or the file ask for it. -/
theorem precedence_of_make [Pattern.Engine] {server : Option String} {words : List String}
    {arguments : ConvertArguments} {configFile ruleFile : Reading} {plan : Plan}
    (hread : CommandLine.read server words = .ok (.convert arguments))
    (hmake : Plan.make arguments configFile ruleFile = .ok plan) :
    ∃ (rest : List String) (items : List Item) (rules : List Rule) (converter : Converter),
      words = "convert" :: rest ∧
      (∀ other, Spells none rest other ↔ other = items) ∧
      given .input items = some arguments.input ∧
      arguments.configPath = (given .configPath items).getD "kwconvert.yaml" ∧
      arguments.rules ruleFile = .ok rules ∧
      plan = Plan.ofRules converter rules ∧
      let flags := Layer.ofItems items
      let file := Layer.ofReading configFile
      let policyServer := ((flags.policyServer.or server).or file.policyServer).getD "default"
      let platform := (flags.platform.or file.platform).getD "amd64"
      (∀ policy ∈ plan.result.policies, ∃ rule ∈ rules,
        converter.convert rule = .ok (.converted policy) ∧
        policy.server = policyServer ∧
        policy.mode = (((flags.mode.or file.mode).map PolicyMode.text).or
          (rule.mode.filter (· ≠ ""))).getD "protect" ∧
        policy.backgroundAudit = (flags.backgroundAudit.or file.backgroundAudit).getD true ∧
        ∀ part ∈ policy.parts, part.module = Module.imageCve.reference →
          part.settings.get? "vulnerabilityReportNamespace" =
            some (.text ((flags.reportNamespace.or file.reportNamespace).getD "sbomscanner")) ∧
          (part.settings.get? "platform").bind (Tree.get? "arch") = some (.text platform)) ∧
      Text.trim policyServer ≠ "" ∧ Text.trim platform ≠ "" ∧
      (plan.summary.isSome = true ↔ flags.showSummary = true ∨ file.showSummary = true) := by
  obtain ⟨rest, items, hwords, hspells, hgiven⟩ := givenBy_of_read hread
  obtain ⟨converter, rules, hloads, rfl⟩ := ConvertArguments.make_eq_ok.1 hmake
  obtain ⟨config, hconfig, hoverride⟩ := hloads.exists_override
  cases Config.eq_of_fileConfig hconfig
  rw [ConvertArguments.override_config hgiven] at hoverride
  refine ⟨rest, items, rules, converter, hwords, hspells, hgiven.input, hgiven.configPath,
    hloads.rules, rfl, ?_⟩
  intro flags file policyServer platform
  have hserver : converter.config.policyServer = policyServer :=
    congrArg Config.policyServer hoverride
  have hplatform : converter.config.platform = platform := congrArg Config.platform hoverride
  refine ⟨fun policy hpolicy => ?_, hserver ▸ converter.valid.1, hplatform ▸ converter.valid.2, ?_⟩
  · change policy ∈ (converter.convertAll rules).policies at hpolicy
    rw [Converter.mem_policies_convertAll] at hpolicy
    obtain ⟨rule, hrule, hconvert⟩ := hpolicy
    obtain ⟨hpolicyServer, haudit⟩ := Converter.server_audit_of_convert hconvert
    obtain ⟨-, hmode⟩ := Converter.name_mode_of_convert hconvert
    refine ⟨rule, hrule, hconvert, hpolicyServer.trans hserver, ?_, ?_, fun part hpart hscan => ?_⟩
    · rw [hmode, Config.resolveMode_eq, hoverride]
    · rw [haudit, hoverride]
    · have hscans := Converter.scans_of_convert hconvert hpart hscan
      rw [hoverride] at hscans
      exact hscans
  · unfold Plan.ofRules
    rw [hoverride]
    cases flags.showSummary <;> cases file.showSummary <;> simp

def Reading.layered : Reading := .text "platform: arm64\nbackground_audit: false"

def Reading.scanned : Reading :=
  .text ("\x7b\"rules\":[\x7b\"id\":1001,\"rule_mode\":\"protect\",\"criteria\":" ++
    "[\x7b\"name\":\"cveHighCount\",\"op\":\">=\",\"value\":\"1\"\x7d]\x7d]\x7d")

def ConvertArguments.layered : ConvertArguments where
  input := "/srv/rules.json"
  configPath := "/etc/kwconvert.yaml"
  policyServer := some "edge"
  mode := some .monitor
  showSummary := true

open CommandLine in
theorem precedence_of_layered : ∃ plan,
    CommandLine.read (some "edge") ["convert", "-m", "monitor", "/srv/rules.json",
        "--show-summary", "-c", "/etc/kwconvert.yaml"] = .ok (.convert .layered) ∧
      Plan.make .layered .layered .scanned = .ok plan ∧
      plan.result.policies.length = 1 ∧ plan.summary.isSome = true ∧
      ∀ policy ∈ plan.result.policies,
        policy.server = "edge" ∧ policy.mode = "monitor" ∧ policy.backgroundAudit = false ∧
        ∀ part ∈ policy.parts, part.module = Module.imageCve.reference →
          part.settings.get? "vulnerabilityReportNamespace" = some (.text "sbomscanner") ∧
          (part.settings.get? "platform").bind (Tree.get? "arch") = some (.text "arm64") := by
  have hread : CommandLine.read (some "edge") ["convert", "-m", "monitor", "/srv/rules.json",
      "--show-summary", "-c", "/etc/kwconvert.yaml"] = .ok (.convert .layered) := by
    decide +kernel
  have hlength : (Plan.make .layered .layered .scanned).toOption.map
      (fun plan => plan.result.policies.length) = some 1 := by decide +kernel
  obtain ⟨plan, hmake, hone⟩ := toOption_map_eq_some.1 hlength
  obtain ⟨rest, items, rules, converter, hwords, hspells, -, -, -, -, hpolicies, -, -, hsummary⟩ :=
    precedence_of_make hread hmake
  cases hwords
  have hmode : Opens (Word.ofString "-m") [] (some .mode) := .letters (.slot rfl (.awaiting .mode))
  have hflag : Opens (Word.ofString "--show-summary") [.flag .showSummary] none :=
    .named rfl (.flag .showSummary)
  have hconfig : Opens (Word.ofString "-c") [] (some .configPath) :=
    .letters (.slot rfl (.awaiting .configPath))
  cases (hspells _).1 (.argument hmode (.value rfl (.input rfl (.argument hflag
    (.argument hconfig (.value rfl .nil))))))
  let file := Layer.ofReading .layered
  have hfile : (file.backgroundAudit, file.reportNamespace, file.platform) =
      (some false, none, some "arm64") := by decide +kernel
  simp only [Prod.mk.injEq] at hfile
  obtain ⟨haudit, hnamespace, hplatform⟩ := hfile
  refine ⟨plan, hread, hmake, hone, hsummary.2 (.inl rfl), fun policy hpolicy => ?_⟩
  obtain ⟨rule, -, -, hpolicyServer, hpolicyMode, hpolicyAudit, hscans⟩ := hpolicies policy hpolicy
  refine ⟨hpolicyServer, hpolicyMode, ?_, fun part hpart hscan => ?_⟩
  · exact hpolicyAudit.trans (congrArg (Option.getD · true) haudit)
  · obtain ⟨hfound, harch⟩ := hscans part hpart hscan
    change _ = some (Tree.text (file.reportNamespace.getD "sbomscanner")) at hfound
    change _ = some (Tree.text (file.platform.getD "amd64")) at harch
    rw [hnamespace] at hfound
    rw [hplatform] at harch
    exact ⟨hfound, harch⟩

end Admission
