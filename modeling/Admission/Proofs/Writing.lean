import Admission.Program.Run
import Admission.Proofs.Layers
import Admission.Proofs.Malformed

/-!
What a run leaves of the files. Main statement: it writes one file at most, the one that the output
setting names. Whatever can go wrong before, from the configuration down to any part of a rule file,
leaves every file as it was.
-/

namespace Admission

namespace ConvertArguments

variable {arguments : ConvertArguments} {configFile ruleFile : Reading} {converter : Converter}
  {rules : List Rule}

theorem Loads.unique {converter' : Converter} {rules' : List Rule}
    (h : arguments.Loads configFile ruleFile converter rules)
    (h' : arguments.Loads configFile ruleFile converter' rules') :
    converter' = converter ∧ rules' = rules := by
  obtain ⟨config, valid, bridge⟩ := converter
  obtain ⟨config', valid', bridge'⟩ := converter'
  cases h.config.symm.trans h'.config
  cases h.rules.symm.trans h'.rules
  cases h.bridge
  cases h'.bridge
  exact ⟨rfl, rfl⟩

/-- What keeps a conversion from writing a file: something about the configuration, something about
the rule file, no rule that becomes a policy, or a wish to see the policies printed. -/
inductive Obstacle [Pattern.Engine] (arguments : ConvertArguments) (configFile ruleFile : Reading) :
    Prop
  | unreadableConfig (h : configFile = .unreadable)
  | invalidConfig {s : String} (h : configFile = .text s) (hbad : ¬ Succeeds (Config.ofText s))
  | policyServer {s : String} (h : arguments.policyServer = some s) (hblank : Text.trim s = "")
  | platform {s : String} (h : arguments.platform = some s) (hblank : Text.trim s = "")
  | noRules (h : ∀ s, ruleFile ≠ .text s)
  | malformedRules {s : String} (h : ruleFile = .text s)
    (hbad : (Export.Dialect.ofPath arguments.input).Malformed s)
  | noPolicy {converter : Converter} {rules : List Rule}
    (h : arguments.Loads configFile ruleFile converter rules)
    (hnone : ∀ rule ∈ rules, ∀ policy, converter.convert rule ≠ .ok (.converted policy))
  | printed {converter : Converter} {rules : List Rule}
    (h : arguments.Loads configFile ruleFile converter rules)
    (hprinted : converter.config.output = "-")

/-- The settings of the configuration file are valid before the arguments come to it. -/
theorem valid_of_fileConfig {reading : Reading} {base : Config}
    (h : arguments.fileConfig reading = .ok base) : base.Valid := by
  unfold fileConfig at h
  split at h
  · cases h
    decide
  · cases h
  · have htext := mapError_eq_ok.1 h
    unfold Config.ofText at htext
    split at htext
    · cases htext
    · split at htext
      · cases htext
      · next hvalid =>
        cases htext
        exact Config.validate_eq_ok_iff.1 hvalid

variable [Pattern.Engine]

theorem loads_of_not_obstacle (h : ¬ arguments.Obstacle configFile ruleFile) :
    ∃ converter rules, arguments.Loads configFile ruleFile converter rules := by
  obtain ⟨base, hbase⟩ : Succeeds (arguments.fileConfig configFile) := by
    cases configFile with
    | text s =>
      rw [fileConfig, succeeds_mapError]
      exact not_not.1 fun hbad => h (.invalidConfig rfl hbad)
    | unreadable => exact absurd (.unreadableConfig rfl) h
    | absent => exact succeeds_ok _
  have hvalid : (arguments.override base).Valid := by
    obtain ⟨hserver, hplatform⟩ := valid_of_fileConfig hbase
    constructor
    · cases hgiven : arguments.policyServer with
      | none => simpa [override, hgiven] using hserver
      | some s =>
        exact fun hblank => h (.policyServer hgiven (by simpa [override, hgiven] using hblank))
    · cases hgiven : arguments.platform with
      | none => simpa [override, hgiven] using hplatform
      | some s =>
        exact fun hblank => h (.platform hgiven (by simpa [override, hgiven] using hblank))
  obtain ⟨s, rfl⟩ : ∃ s, ruleFile = .text s := by
    by_contra hnone
    exact h (.noRules (not_exists.1 hnone))
  obtain ⟨rules, hrules⟩ : Succeeds (arguments.rules (.text s)) := by
    rw [ConvertArguments.rules, succeeds_mapError, Export.Dialect.succeeds_read_iff]
    exact fun hbad => h (.malformedRules rfl hbad)
  refine ⟨⟨arguments.override base, hvalid, Bridge.none⟩, rules, ⟨?_, rfl, hrules⟩⟩
  exact config_eq_ok.2 ⟨base, hbase, rfl⟩

/-- No plan that meets an obstacle goes to a file. -/
theorem Obstacle.destination_ne (h : arguments.Obstacle configFile ruleFile)
    (hloads : arguments.Loads configFile ruleFile converter rules) (path : String) :
    (Plan.ofRules converter rules).destination ≠ .file path := by
  obtain ⟨base, hbase, hoverride⟩ := hloads.exists_override
  have hrules := hloads.rules
  obtain ⟨hserver, hplatform⟩ := converter.valid
  cases h with
  | unreadableConfig h =>
    rw [h] at hbase
    cases hbase
  | invalidConfig h hbad =>
    rw [h] at hbase
    exact absurd (succeeds_mapError.1 ⟨base, hbase⟩) hbad
  | policyServer h hblank =>
    rw [hoverride, override, h] at hserver
    exact absurd hblank hserver
  | platform h hblank =>
    rw [hoverride, override, h] at hplatform
    exact absurd hblank hplatform
  | noRules h =>
    unfold ConvertArguments.rules at hrules
    split at hrules
    · next s => exact absurd rfl (h s)
    · cases hrules
    · cases hrules
  | malformedRules h hbad =>
    rw [h] at hrules
    exact absurd hbad (Export.Dialect.succeeds_read_iff.1 (succeeds_mapError.1 ⟨rules, hrules⟩))
  | noPolicy h hnone =>
    obtain ⟨hconverter, hsame⟩ := hloads.unique h
    rw [hconverter, hsame] at hnone
    have hempty : (converter.convertAll rules).policies = [] := by
      rw [List.eq_nil_iff_forall_not_mem]
      intro policy hpolicy
      obtain ⟨rule, hrule, hconvert⟩ := Converter.mem_policies_convertAll.1 hpolicy
      exact hnone rule hrule policy hconvert
    simp [Plan.ofRules, Destination.ofOutput, hempty]
  | printed h hprinted =>
    obtain ⟨hconverter, -⟩ := hloads.unique h
    rw [hconverter] at hprinted
    unfold Plan.ofRules Destination.ofOutput
    dsimp only
    rw [hprinted, printedPath, if_pos rfl]
    split <;> exact nofun

/-- Without an obstacle there are policies, which go to the file that the output setting names. -/
theorem Loads.destination_eq (hloads : arguments.Loads configFile ruleFile converter rules)
    (h : ¬ arguments.Obstacle configFile ruleFile) :
    (Plan.ofRules converter rules).destination = .file converter.config.output := by
  have hne : (converter.convertAll rules).policies.isEmpty = false := by
    rw [List.isEmpty_eq_false_iff]
    intro hempty
    refine h (.noPolicy hloads fun rule hrule policy hconvert => ?_)
    have hmem := Converter.mem_policies_convertAll.2 ⟨rule, hrule, hconvert⟩
    rw [hempty] at hmem
    cases hmem
  unfold Plan.ofRules Destination.ofOutput
  dsimp only
  have hfile : converter.config.output ≠ printedPath := fun hprinted => h (.printed hloads hprinted)
  rw [hne, if_neg Bool.false_ne_true, if_neg hfile]

end ConvertArguments

open FileSystem

section

variable [Pattern.Engine] {σ : Type} [FileSystem σ] {files : σ} {server : Option String}
  {words : List String} {arguments : ConvertArguments} {plan : Plan}

def ConvertArguments.outcome (arguments : ConvertArguments) (files : σ) :
    Except ConversionFault Plan × σ :=
  Id.run ((arguments.perform (.passing σ)).run files)

theorem run_of_convert (h : CommandLine.read server words = .ok (.convert arguments)) :
    run server files words =
      ⟨.ofPlan (arguments.outcome files).1, (arguments.outcome files).2⟩ := by
  unfold run Program.perform
  rw [h]
  rfl

theorem files_of_read_ne
    (h : ∀ arguments, CommandLine.read server words ≠ .ok (.convert arguments)) :
    (run server files words).files = files := by
  unfold run Program.perform
  cases hread : CommandLine.read server words with
  | error stop => rfl
  | ok request =>
    cases request with
    | convert arguments => exact absurd hread (h arguments)
    | support _ => rfl
    | version => rfl

namespace ConvertArguments

/-- Both files are read before the plan is made, and one file at most is written after that. -/
theorem outcome_eq (arguments : ConvertArguments) (files : σ) :
    arguments.outcome files =
      match Plan.make arguments (read files arguments.configPath) (read files arguments.input) with
      | .error fault => (.error fault, files)
      | .ok plan =>
        match plan.destination with
        | .nowhere | .printed => (.ok plan, files)
        | .file path =>
          (if (write files path plan.text).1 then .ok plan else .error .unwritableOutput,
            (write files path plan.text).2) := by
  unfold outcome perform
  simp only [bind, StateT.bind, StateT.run, FileAccess.passing, Id.run]
  cases Plan.make arguments (read files arguments.configPath) (read files arguments.input) with
  | error fault => rfl
  | ok plan =>
    dsimp only
    cases plan.destination with
    | nowhere => rfl
    | printed => rfl
    | file path =>
      simp only [StateT.bind]
      cases write files path plan.text with
      | mk done out => cases done <;> rfl

theorem outcome_of_error {fault : ConversionFault}
    (h : Plan.make arguments (read files arguments.configPath) (read files arguments.input) =
      .error fault) :
    arguments.outcome files = (.error fault, files) := by
  rw [outcome_eq, h]

/-- A plan that does not go to a file leaves the files as they are. -/
theorem outcome_of_unwritten
    (h : Plan.make arguments (read files arguments.configPath) (read files arguments.input) =
      .ok plan) (hnot : ∀ path, plan.destination ≠ .file path) :
    arguments.outcome files = (.ok plan, files) := by
  rw [outcome_eq, h]
  dsimp only
  cases hplan : plan.destination with
  | nowhere => rfl
  | printed => rfl
  | file path => exact absurd hplan (hnot path)

/-- A plan that goes to a file is written there, once. -/
theorem outcome_of_file {path : String}
    (h : Plan.make arguments (read files arguments.configPath) (read files arguments.input) =
      .ok plan) (hfile : plan.destination = .file path) :
    arguments.outcome files =
      (if (write files path plan.text).1 then .ok plan else .error .unwritableOutput,
        (write files path plan.text).2) := by
  rw [outcome_eq, h]
  dsimp only
  rw [hfile]

end ConvertArguments

/-- A conversion that succeeds carries out the plan for what is read at the two paths. -/
theorem Conversion.make_of_run {conversion : Conversion σ}
    (h : Conversion.run arguments files = .ok conversion) :
    Plan.make arguments (read files arguments.configPath) (read files arguments.input) =
      .ok conversion.plan := by
  change (arguments.outcome files).1.map (fun plan => mk plan (arguments.outcome files).2) = _ at h
  obtain ⟨plan, hplan, rfl⟩ := map_eq_ok.1 h
  cases hmake : Plan.make arguments (read files arguments.configPath)
      (read files arguments.input) with
  | error fault =>
    rw [ConvertArguments.outcome_of_error hmake] at hplan
    cases hplan
  | ok made =>
    by_cases hfile : ∃ path, made.destination = .file path
    · obtain ⟨path, hfile⟩ := hfile
      rw [ConvertArguments.outcome_of_file hmake hfile] at hplan
      dsimp only at hplan
      split at hplan
      · exact hplan
      · cases hplan
    · rw [ConvertArguments.outcome_of_unwritten hmake (not_exists.1 hfile)] at hplan
      exact hplan

theorem files_of_obstacle
    (h : arguments.Obstacle (read files arguments.configPath) (read files arguments.input)) :
    (arguments.outcome files).2 = files := by
  cases hmake : Plan.make arguments (read files arguments.configPath)
      (read files arguments.input) with
  | error fault => rw [ConvertArguments.outcome_of_error hmake]
  | ok plan =>
    obtain ⟨converter, rules, hloads, rfl⟩ := ConvertArguments.make_eq_ok.1 hmake
    rw [ConvertArguments.outcome_of_unwritten hmake (h.destination_ne hloads)]

/-- Without an obstacle all that a conversion does to the files is to write the policies of all rules
that have one, in the order of the rules, to the file that the output setting names. -/
theorem outcome_of_not_obstacle
    (h : ¬ arguments.Obstacle (read files arguments.configPath) (read files arguments.input)) :
    ∃ converter rules, arguments.Loads (read files arguments.configPath)
        (read files arguments.input) converter rules ∧
      let out := write files converter.config.output
        (policyText (rules.filterMap fun rule => Outcome.policy? (converter.convert rule)))
      arguments.outcome files =
        (if out.1 then .ok (Plan.ofRules converter rules) else .error .unwritableOutput, out.2) := by
  obtain ⟨converter, rules, hloads⟩ := ConvertArguments.loads_of_not_obstacle h
  refine ⟨converter, rules, hloads, ?_⟩
  have hmake := ConvertArguments.make_eq_ok.2 ⟨converter, rules, hloads, rfl⟩
  rw [← Converter.policies_convertAll]
  exact ConvertArguments.outcome_of_file hmake (hloads.destination_eq h)

end

/-- A run changes nothing if it is not asked for a conversion or meets an obstacle. Else all that it
does to the files is to write, to the one that the output setting names, the policies of all rules that
have one, in the order of the rules. Every other file is as before. The run ends well just when the
file holds them in the end, and fails when the write is said to have failed. -/
theorem files_of_run [Pattern.Engine] {σ : Type} [FileSystem σ] [LawfulFileSystem σ]
    (server : Option String) (files : σ) (words : List String) :
    ((∀ arguments, CommandLine.read server words ≠ .ok (.convert arguments)) →
      (run server files words).files = files) ∧
    ∀ arguments, CommandLine.read server words = .ok (.convert arguments) →
      let configFile := read files arguments.configPath
      let ruleFile := read files arguments.input
      (arguments.Obstacle configFile ruleFile → (run server files words).files = files) ∧
      (¬ arguments.Obstacle configFile ruleFile → ∃ converter rules,
        arguments.Loads configFile ruleFile converter rules ∧
        let output := converter.config.output
        let text := policyText
          (rules.filterMap fun rule => Outcome.policy? (converter.convert rule))
        (run server files words).files = (write files output text).2 ∧
        (∀ file, file? files output ≠ some file →
          content? (run server files words).files file = content? files file) ∧
        (((run server files words).exitCode = 0 ∧ ∃ file, file? files output = some file ∧
            content? (run server files words).files file = some (ofText text)) ∨
          ((run server files words).exitCode = 1 ∧ (write files output text).1 = false))) := by
  refine ⟨files_of_read_ne, fun arguments hread => ⟨fun hobstacle => ?_, fun hclear => ?_⟩⟩
  · rw [run_of_convert hread]
    exact files_of_obstacle hobstacle
  · obtain ⟨converter, rules, hloads, houtcome⟩ := outcome_of_not_obstacle hclear
    refine ⟨converter, rules, hloads, ?_⟩
    intro output text
    rw [run_of_convert hread, houtcome]
    refine ⟨rfl, fun file hfile => ?_, ?_⟩
    · exact LawfulFileSystem.content?_write_of_ne files output text file hfile
    · cases hdone : (write files output text).1 with
      | true =>
        refine .inl ⟨?_, LawfulFileSystem.content?_write files output text hdone⟩
        rw [if_pos rfl]
        rfl
      | false =>
        refine .inr ⟨?_, rfl⟩
        rw [if_neg Bool.false_ne_true]
        rfl

def Files.withRules (rules : String) : Files where
  entries := [("policies.yaml", .text "earlier"), ("rules.json", .text rules)]

def oneRule : String :=
  "\x7b\"rules\":[\x7b\"id\":1001,\"criteria\":" ++
    "[\x7b\"name\":\"runAsRoot\",\"op\":\"=\",\"value\":\"true\"\x7d]\x7d]\x7d"

def badSecondRule : String :=
  "\x7b\"rules\":[\x7b\"id\":1001,\"criteria\":" ++
    "[\x7b\"name\":\"runAsRoot\",\"op\":\"=\",\"value\":\"true\"\x7d]\x7d," ++
    "\x7b\"id\":\"1002\"\x7d]\x7d"

theorem files_of_run_withRules :
    (run none (Files.withRules oneRule) ["convert", "rules.json"]).exitCode = 0 ∧
      (∃ text, (run none (Files.withRules oneRule) ["convert", "rules.json"]).files.find?
        "policies.yaml" = some (.text text)) ∧
      (run none (Files.withRules oneRule) ["convert", "rules.json"]).files.find? "rules.json" =
        some (.text oneRule) ∧
      (run none (Files.withRules badSecondRule) ["convert", "rules.json"]).files =
        .withRules badSecondRule := by
  have hread : CommandLine.read none ["convert", "rules.json"] =
      .ok (.convert { input := "rules.json" }) := by decide +kernel
  have hexit : (run none (Files.withRules oneRule) ["convert", "rules.json"]).exitCode = 0 := by
    decide +kernel
  have hname : (Files.withRules oneRule).name? "policies.yaml" = some "policies.yaml" := by
    decide +kernel
  have hbad : Export.Dialect.Malformed .interface badSecondRule :=
    Export.readInterface_malformed.1 (by decide +kernel)
  obtain ⟨hblocked, hclear⟩ := (files_of_run none (Files.withRules oneRule) _).2 _ hread
  have hchanged : (run none (Files.withRules oneRule) ["convert", "rules.json"]).files ≠
      .withRules oneRule := by decide +kernel
  obtain ⟨converter, rules, hloads, -, hothers, hwritten⟩ :=
    hclear fun hobstacle => hchanged (hblocked hobstacle)
  have houtput : converter.config.output = "policies.yaml" := by
    obtain ⟨base, hbase, hoverride⟩ := hloads.exists_override
    cases hbase
    exact congrArg Config.output hoverride
  rw [houtput] at hothers hwritten
  have hother : (Files.withRules oneRule).name? "policies.yaml" ≠ some "rules.json" := by
    rw [hname]
    decide
  refine ⟨hexit, ?_, hothers "rules.json" hother, ?_⟩
  · obtain ⟨-, file, hfile, hcontent⟩ | ⟨hfails, -⟩ := hwritten
    · cases hname.symm.trans hfile
      exact ⟨_, hcontent⟩
    · cases hexit.symm.trans hfails
  · exact ((files_of_run none (Files.withRules badSecondRule) _).2 _ hread).1
      (.malformedRules rfl hbad)

/-- Files on a device without any room: a file is emptied, and then nothing can be written to it. -/
structure FullDevice where
  files : Files

instance : FileSystem FullDevice where
  read device := device.files.read
  write device path _ := (false, ⟨(device.files.write? path "").getD device.files⟩)
  File := String
  Content := FileContent
  file? device := device.files.name?
  content? device := device.files.find?
  ofText := .text

instance : LawfulFileSystem FullDevice where
  content?_write _ _ _ h := absurd h Bool.false_ne_true
  content?_write_of_ne _ _ _ _ h := Files.find?_write?_of_ne h

/-- The namespace of the reports may be blank, and the policies are written; and where the write fails
the policies of an earlier run can be lost. -/
theorem blankNamespace_written_fullDevice_emptied :
    (CommandLine.read none ["convert", "rules.json", "--vul-report-namespace", " "] =
        .ok (.convert { input := "rules.json", reportNamespace := some " " }) ∧
      Text.trim " " = "" ∧
      (run none (Files.withRules oneRule)
        ["convert", "rules.json", "--vul-report-namespace", " "]).files ≠ .withRules oneRule) ∧
    (run none (FullDevice.mk (.withRules oneRule)) ["convert", "rules.json"]).exitCode = 1 ∧
      (Files.withRules oneRule).find? "policies.yaml" = some (.text "earlier") ∧
      (run none (FullDevice.mk (.withRules oneRule)) ["convert", "rules.json"]).files.files.find?
        "policies.yaml" = some (.text "") :=
  ⟨⟨by decide +kernel, by decide, by decide +kernel⟩, by decide +kernel, rfl, by decide +kernel⟩

end Admission
