import Admission.Conversion.Expansion
import Admission.Conversion.Synthesis

/-!
Converting rules. Bundles are written out first. A rule with a custom criterion then goes to a bridge,
which makes an artifact of its own kind; every other rule is checked and becomes a policy. In a batch
each rule stands for itself: a failure is noted and stops nothing.
-/

namespace Admission

structure Artifact where
  ruleId : UInt32
  kind : String
  fileName : String
  content : String
  deriving DecidableEq, Repr

/-- A way to convert rules with custom criteria. -/
structure Bridge where
  name : String
  convert : Rule → Except Failure Artifact

def Bridge.none : Bridge where
  name := "none"
  convert _ :=
    .error (.custom "custom criteria require a custom rule bridge, none is configured")

inductive Outcome
  | converted (policy : Policy)
  | diverted (artifact : Artifact)
  deriving Repr

structure Converter where
  config : Config
  valid : config.Valid
  bridge : Bridge := Bridge.none

namespace Converter

def ofConfig (config : Config) (bridge : Bridge := Bridge.none) : Except Failure Converter :=
  match h : config.validate with
  | .ok () => .ok { config, valid := Config.validate_eq_ok_iff.1 h, bridge }
  | .error fault => .error (.config fault)

end Converter

def Config.scanSource (config : Config) : Settings.ScanSource :=
  { reportNamespace := config.reportNamespace, platform := config.platform }

namespace Converter

def convert [Pattern.Engine] (converter : Converter) (rule : Rule) : Except Failure Outcome := do
  let rule ← rule.expand
  if rule.hasCustom then (converter.bridge.convert rule).map .diverted
  else
    rule.validate
    (Policy.ofRule converter.config.scanSource converter.config rule).map .converted

end Converter

structure SummaryEntry where
  id : UInt32
  isOk : Bool
  notes : String
  deriving DecidableEq, Repr

def SummaryEntry.status (entry : SummaryEntry) : String := if entry.isOk then "OK" else "Skipped"

structure BatchResult where
  policies : List Policy := []
  diverted : List Artifact := []
  /-- One entry for each rule. -/
  summary : List SummaryEntry := []

def SummaryEntry.ofOutcome (id : UInt32) : Except Failure Outcome → SummaryEntry
  | .ok (.converted _) => ⟨id, true, "rule converted successfully"⟩
  | .ok (.diverted artifact) =>
    ⟨id, true,
      artifact.kind ++ " artifact " ++ artifact.fileName ++
        " generated (no policy for custom rule)"⟩
  | .error failure => ⟨id, false, failure.message⟩

def BatchResult.skipped (result : BatchResult) : Nat :=
  result.summary.countP fun entry => !entry.isOk

/-- Files what became of one more rule behind what is there. -/
def BatchResult.file (result : BatchResult) (id : UInt32) (outcome : Except Failure Outcome) :
    BatchResult :=
  let entry := SummaryEntry.ofOutcome id outcome
  match outcome with
  | .ok (.converted policy) =>
    { result with
      policies := result.policies ++ [policy]
      summary := result.summary ++ [entry] }
  | .ok (.diverted artifact) =>
    { result with
      diverted := result.diverted ++ [artifact]
      summary := result.summary ++ [entry] }
  | .error _ => { result with summary := result.summary ++ [entry] }

def Converter.convertAll [Pattern.Engine] (converter : Converter) (rules : List Rule) :
    BatchResult :=
  rules.foldl (fun result rule => result.file rule.id (converter.convert rule)) {}

end Admission
