import Admission.Conversion.Gate
import Admission.Settings

/-!
Making policies from rules. A single policy hands all checks of a rule to one module. A group hands
to each module the checks that it can make, names its members after the modules, and rejects a
request when the conjunction of its members fails.
-/

namespace Admission

def policyApiVersion : String := "policies.kubewarden.io/v1"

def Rule.policyName (rule : Rule) : String :=
  "neuvector-rule-" ++ toString rule.id.toNat ++ "-conversion"

namespace MatchRule

def ofGroup (apiGroup : String) (resources : List String) (operations : List Operation) :
    MatchRule :=
  { apiGroups := [apiGroup], apiVersions := ["v1"], resources, operations }

def claims : List MatchRule := [ofGroup "" ["persistentvolumeclaims"] [.create]]

def workloads : List MatchRule := [
  ofGroup "" ["pods"] [.create, .update],
  ofGroup "apps" ["deployments", "replicasets", "daemonsets", "statefulsets"] [.create, .update],
  ofGroup "batch" ["jobs", "cronjobs"] [.create, .update]]

/-- What a policy sees whose modules look at these objects: volume claims first, each kind once. -/
def ofResources (resources : List Resource) : List MatchRule :=
  (if .claims ∈ resources then claims else []) ++
    if .workloads ∈ resources then workloads else []

end MatchRule

def commonModule : List Criterion → Except Failure Module
  | [] => .error .nothingEnforceable
  | c :: cs => do
    let first ← c.route
    cs.forM fun other => do
      let second ← other.route
      if first = second then pure () else throw (.grouping (.severalModules first second))
    return first

variable [Pattern.Engine]

def Module.settingsFor (source : Settings.ScanSource) (m : Module) (criteria : List Criterion) :
    Except Failure Tree :=
  (m.settings source criteria).mapError .settings

def SinglePolicy.ofRule (source : Settings.ScanSource) (config : Config) (rule : Rule) :
    Except Failure SinglePolicy := do
  let selector ← rule.gate
  let m ← commonModule rule.checks
  let settings ← m.settingsFor source rule.checks
  return {
    apiVersion := policyApiVersion
    kind := "ClusterAdmissionPolicy"
    name := rule.policyName
    server := config.policyServer
    module := m.reference
    mode := config.resolveMode rule.mode
    backgroundAudit := config.backgroundAudit
    rules := MatchRule.ofResources [m.resource]
    settings
    contextResources := m.contextResources
    selector }

structure Share where
  module : Module
  criteria : List Criterion

/-- Hands a criterion to the member with a name. The members stay in the order of their names. -/
def Share.insert (name : String) (m : Module) (c : Criterion) :
    List (String × Share) → Except Failure (List (String × Share))
  | [] => .ok [(name, ⟨m, [c]⟩)]
  | (other, share) :: shares =>
    if name < other then .ok ((name, ⟨m, [c]⟩) :: (other, share) :: shares)
    else if name = other then
      if share.module = m then .ok ((other, ⟨m, share.criteria ++ [c]⟩) :: shares)
      else .error (.grouping (.sharedMember share.module m name))
    else (insert name m c shares).map ((other, share) :: ·)

def Share.add (shares : List (String × Share)) (c : Criterion) :
    Except Failure (List (String × Share)) :=
  match c.module? with
  | none => .error (.grouping (.unsupportedCriterion c.name))
  | some m => insert m.memberName m c shares

def Share.ofChecks (checks : List Criterion) : Except Failure (List (String × Share)) :=
  checks.foldlM Share.add []

def Share.member (source : Settings.ScanSource) (share : Share) : Except Failure Member := do
  let settings ← share.module.settingsFor source share.criteria
  return {
    module := share.module.reference
    settings
    contextResources := share.module.contextResources }

def memberExpression (names : List String) : String :=
  " && ".intercalate (names.map (· ++ "()"))

/-- What is shown when the policy of a rule rejects a request. -/
def Rule.violationMessage (rule : Rule) : String :=
  "violate NeuVector rule (id=" ++ toString rule.id.toNat ++ "), comment " ++ rule.comment

def PolicyGroup.ofRule (source : Settings.ScanSource) (config : Config) (rule : Rule) :
    Except Failure PolicyGroup := do
  let selector ← rule.gate
  let shares ← Share.ofChecks rule.checks
  let members ← shares.mapM fun (name, share) => do
    let member ← share.member source
    return (name, member)
  return {
    apiVersion := policyApiVersion
    kind := "ClusterAdmissionPolicyGroup"
    name := rule.policyName
    server := config.policyServer
    mode := config.resolveMode rule.mode
    backgroundAudit := config.backgroundAudit
    rules := MatchRule.ofResources (shares.map fun s => s.2.module.resource)
    message := rule.violationMessage
    expression := memberExpression (shares.map Prod.fst)
    members
    selector }

def Policy.ofRule (source : Settings.ScanSource) (config : Config) (rule : Rule) :
    Except Failure Policy :=
  if rule.needsGroup then (PolicyGroup.ofRule source config rule).map .group
  else (SinglePolicy.ofRule source config rule).map .single

end Admission
