import Admission.CommandLine.Request
import Admission.Config.Reader
import Admission.Conversion.Converter
import Admission.Export.Reader
import Admission.Files
import Admission.Report.Table
import Admission.Yaml.Writer

/-!
Planning a conversion: from the arguments and what was read from the two input files to what is to be
printed and written. Each setting comes from the arguments, else from the configuration file, else it
has its default.
-/

namespace Admission

inductive ConversionFault
  | unreadableConfig (path : String)
  | invalidConfig (path : String) (failure : Failure)
  /-- The settings are not valid once those of the arguments are in place. -/
  | invalidSettings (fault : ConfigFault)
  | rules (path : String) (failure : Failure)
  | unwritableOutput
  deriving DecidableEq, Repr

namespace ConversionFault

def message : ConversionFault → String
  | unreadableConfig path => "failed to read config file " ++ path
  | invalidConfig path _ => "invalid config file " ++ path
  | invalidSettings fault => (Failure.config fault).message
  | rules path _ => "failed to parse NeuVector admission rules from " ++ path
  | unwritableOutput => "failed to write output YAML"

/-- The failure behind the fault. What the system says about files is not one. -/
def cause? : ConversionFault → Option Failure
  | invalidConfig _ failure => some failure
  | invalidSettings fault => some (.config fault)
  | rules _ failure => some failure
  | unreadableConfig _ | unwritableOutput => none

end ConversionFault

namespace ConvertArguments

def override (arguments : ConvertArguments) (config : Config) : Config where
  policyServer := arguments.policyServer.getD config.policyServer
  mode := arguments.mode.or config.mode
  backgroundAudit := arguments.backgroundAudit.getD config.backgroundAudit
  reportNamespace := arguments.reportNamespace.getD config.reportNamespace
  platform := arguments.platform.getD config.platform
  output := arguments.output.getD config.output
  showSummary := arguments.showSummary || config.showSummary

/-- The configuration that a file gives: the defaults if there is no such file. -/
def fileConfig (arguments : ConvertArguments) : Reading → Except ConversionFault Config
  | .absent => .ok {}
  | .unreadable => .error (.unreadableConfig arguments.configPath)
  | .text s => (Config.ofText s).mapError (.invalidConfig arguments.configPath)

def config (arguments : ConvertArguments) (file : Reading) :
    Except ConversionFault { config : Config // config.Valid } := do
  let config := arguments.override (← arguments.fileConfig file)
  match h : config.validate with
  | .ok () => return ⟨config, Config.validate_eq_ok_iff.1 h⟩
  | .error fault => throw (.invalidSettings fault)

def rules (arguments : ConvertArguments) (file : Reading) : Except ConversionFault (List Rule) :=
  match file with
  | .text s =>
    ((Export.Dialect.ofPath arguments.input).read s).mapError (.rules arguments.input)
  | .unreadable | .absent => .error (.rules arguments.input .io)

end ConvertArguments

inductive Destination
  /-- There are no policies. -/
  | nowhere
  | printed
  | file (path : String)
  deriving DecidableEq, Repr

structure Plan where
  result : BatchResult
  destination : Destination
  /-- The policies as a stream of documents. -/
  text : String
  /-- The table about the rules, if it is wanted. -/
  summary : Option String

def printedPath : String := "-"

def Destination.ofOutput (output : String) (policies : List Policy) : Destination :=
  if policies.isEmpty then nowhere else if output = printedPath then printed else file output

def policyText (policies : List Policy) : String := Yaml.stream (policies.map Policy.toTree)

namespace Plan

variable [Pattern.Engine]

def ofRules (converter : Converter) (rules : List Rule) : Plan :=
  let result := converter.convertAll rules
  { result
    destination := .ofOutput converter.config.output result.policies
    text := policyText result.policies
    summary :=
      if converter.config.showSummary then some (Report.summaryTable result.summary).render
      else none }

def printed (plan : Plan) : String :=
  (if plan.destination = .printed then plan.text else "") ++
    (plan.summary.map (· ++ "\n")).getD ""

/-- The plan for a conversion, from what was read of the configuration file and the rule file. -/
def make (arguments : ConvertArguments) (configFile ruleFile : Reading) :
    Except ConversionFault Plan := do
  let config ← arguments.config configFile
  let rules ← arguments.rules ruleFile
  return ofRules { config := config.1, valid := config.2 } rules

end Plan
end Admission
