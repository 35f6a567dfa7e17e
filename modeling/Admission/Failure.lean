import Admission.Config
import Admission.Module
import Admission.Settings.Fault

/-!
Why a rule, an input or a configuration is refused. `message` is the text that people see; where the
reason comes from a reader of texts or files, its own wording is left open.
-/

namespace Admission

inductive GroupingFault
  | severalModules (first second : Module)
  | sharedMember (first second : Module) (name : String)
  | unsupportedCriterion (name : String)
  deriving DecidableEq, Repr

inductive InputFault
  | notJson
  /-- The document at this position of a stream, from zero. -/
  | notYaml (document : Nat)
  | other (text : String)
  deriving DecidableEq, Repr

inductive Failure
  /-- The rule is built into the source platform. -/
  | builtIn (id : UInt32)
  | unsupportedKind (name : String)
  | disabled
  | unsupportedCriterion (name : String)
  | unsupportedOperator (operator : String)
  | severalGates
  | nothingEnforceable
  | settings (fault : SettingsFault)
  | grouping (fault : GroupingFault)
  | custom (text : String)
  | config (fault : ConfigFault)
  | input (fault : InputFault)
  | io
  | serialization
  | yaml
  deriving DecidableEq, Repr

def unsupportedCriterionText (name : String) : String := "unsupported criteria: " ++ name

def GroupingFault.message : GroupingFault → String
  | severalModules first second =>
    "criteria map to more than one module: " ++ first.reference ++ " and " ++ second.reference
  | sharedMember first second name =>
    "modules " ++ first.reference ++ " and " ++ second.reference ++ " share the member name " ++ name
  | unsupportedCriterion name => unsupportedCriterionText name

def InputFault.message : InputFault → String
  | notJson => "failed to decode JSON rules: *"
  | notYaml document => "failed to decode YAML document " ++ toString document ++ ": *"
  | other text => text

namespace Failure

def message : Failure → String
  | builtIn _ => "neuvector environment only rule"
  | unsupportedKind name => "only \"deny\" rule supported, got " ++ name
  | disabled => "rule is disabled"
  | unsupportedCriterion name => unsupportedCriterionText name
  | unsupportedOperator operator => "unsupported operator: " ++ operator
  | severalGates => "rule skipped: contains multiple namespace selectors"
  | nothingEnforceable =>
    "rule skipped: contains only namespace selector without enforceable policy conditions"
  | settings fault => "failed to build policy settings: " ++ fault.message
  | grouping fault => "failed to group criteria by module: " ++ fault.message
  | custom text => "custom rule conversion failed: " ++ text
  | config fault => "configuration error: " ++ fault.message
  | input fault => "input error: " ++ fault.message
  | io => "io error: *"
  | serialization => "serialization error: *"
  | yaml => "yaml error: *"

/-- Whether the reason lies in one rule, so that other rules are not concerned. -/
def isRuleScoped : Failure → Bool
  | builtIn _ | unsupportedKind _ | disabled | unsupportedCriterion _ | unsupportedOperator _
  | severalGates | nothingEnforceable | settings _ | grouping _ | custom _ => true
  | config _ | input _ | io | serialization | yaml => false

end Failure
end Admission
