import Admission.Text.Blank

/-!
What a conversion can be told. The policy server and the platform may not be blank.
-/

namespace Admission

/-- What happens with a request that a policy rejects: it is refused, or only reported. -/
inductive PolicyMode
  | protect
  | monitor
  deriving DecidableEq, Repr

inductive ConfigFault
  | unknownMode (text : String)
  | blankPolicyServer
  | blankPlatform
  deriving DecidableEq, Repr

def ConfigFault.message : ConfigFault → String
  | unknownMode text =>
    "invalid mode: " ++ text ++ ". Allowed values are \"protect\" or \"monitor\""
  | blankPolicyServer => "policy server must not be empty"
  | blankPlatform => "platform must not be empty"

namespace PolicyMode

def text : PolicyMode → String
  | protect => "protect"
  | monitor => "monitor"

def ofText (s : String) : Except ConfigFault PolicyMode :=
  if s = "protect" then .ok protect
  else if s = "monitor" then .ok monitor
  else .error (.unknownMode s)

end PolicyMode

structure Config where
  policyServer : String := "default"
  mode : Option PolicyMode := none
  backgroundAudit : Bool := true
  reportNamespace : String := "sbomscanner"
  platform : String := "amd64"
  output : String := "policies.yaml"
  showSummary : Bool := false
  deriving DecidableEq, Inhabited, Repr

namespace Config

/-- Checks the policy server first, then the platform. -/
def validate (config : Config) : Except ConfigFault Unit :=
  if Text.trim config.policyServer = "" then .error .blankPolicyServer
  else if Text.trim config.platform = "" then .error .blankPlatform
  else .ok ()

def Valid (config : Config) : Prop :=
  Text.trim config.policyServer ≠ "" ∧ Text.trim config.platform ≠ ""

instance (config : Config) : Decidable config.Valid := by unfold Valid; infer_instance

theorem validate_eq_ok_iff {config : Config} : config.validate = .ok () ↔ config.Valid := by
  unfold validate Valid
  split
  · simp_all
  · split <;> simp_all

/-- The mode of a policy: the configured one, else a rule's own if it is not empty, else protect. -/
def resolveMode (config : Config) (ruleMode : Option String) : String :=
  match config.mode with
  | some mode => mode.text
  | none =>
    match ruleMode with
    | some mode => if mode = "" then PolicyMode.protect.text else mode
    | none => PolicyMode.protect.text

end Config
end Admission
