import Admission.Conversion.Converter

namespace Admission

structure SupportEntry where
  name : String
  displayName : String
  isSupported : Bool
  shape : ValueShape
  /-- The references of the modules, in order and each once. -/
  modules : List String
  operators : List Operator
  deriving Repr

def ValueShape.name : ValueShape → String
  | .scalar => "scalar"
  | .list => "list"
  | .map => "map"

def insertText (s : String) : List String → List String
  | [] => [s]
  | other :: rest =>
    if s < other then s :: other :: rest
    else if s = other then other :: rest
    else other :: insertText s rest

namespace Topic

def references (topic : Topic) : List String :=
  let modules := if topic.isBundle then bundled.filterMap module? else topic.module?.toList
  modules.foldl (fun found m => insertText m.reference found) []

def support (topic : Topic) : SupportEntry where
  name := topic.name
  displayName := topic.displayName
  isSupported := !topic.isUnsupported
  shape := topic.shape
  modules := topic.references
  operators := topic.operators

def sorted : List Topic := all.mergeSort fun a b => a.name ≤ b.name

end Topic

def supportMatrix : List SupportEntry := Topic.sorted.map Topic.support

def optionText (s : Option String) : String :=
  match s with
  | some s => "Some(" ++ s ++ ")"
  | none => "None"

def boolText (b : Bool) : String := if b then "true" else "false"

def recordText (name : String) (fields : List (String × String)) : String :=
  name ++ " \x7b " ++ ", ".intercalate (fields.map fun f => f.1 ++ ": " ++ f.2) ++ " \x7d"

def ValueShape.logText : ValueShape → String
  | .scalar => "None"
  | .list => "List"
  | .map => "Map"

def Topic.logText (topic : Topic) : String :=
  recordText "CriterionMapping" [
    ("name", Text.quoted topic.name),
    ("module", optionText (topic.module?.map fun m => Text.quoted m.reference)),
    ("supported_ops",
      "[" ++ ", ".intercalate (topic.operators.map fun o => Text.quoted o.text) ++ "]"),
    ("value_shape", topic.shape.logText),
    ("one_to_many", boolText topic.isBundle),
    ("unsupported", boolText topic.isUnsupported),
    ("namespace_scoped", boolText topic.isGate)]

def PolicyMode.logText : PolicyMode → String
  | .protect => "Protect"
  | .monitor => "Monitor"

def Config.logText (config : Config) : String :=
  recordText "ConversionConfig" [
    ("policy_server", Text.quoted config.policyServer),
    ("mode", optionText (config.mode.map PolicyMode.logText)),
    ("background_audit", boolText config.backgroundAudit),
    ("vul_report_namespace", Text.quoted config.reportNamespace),
    ("platform", Text.quoted config.platform),
    ("output", Text.quoted config.output),
    ("show_summary", boolText config.showSummary)]

def Converter.logText (converter : Converter) : String :=
  recordText "RuleConverter" [
    ("config", converter.config.logText),
    ("registry", recordText "CriterionRegistry" [("criteria", toString Topic.all.length)]),
    ("bridge", Text.quoted converter.bridge.name)]

end Admission
