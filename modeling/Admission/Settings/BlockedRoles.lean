import Admission.Settings.Value

/-!
Settings for service accounts bound to roles of high risk. A category of risk stands for permissions;
those of several categories are joined, each once, where it comes up first.
-/

namespace Admission.Settings

structure BlockRule where
  apiGroups : List String
  resources : List String
  verbs : List String
  deriving DecidableEq, Repr

namespace BlockRule

def ofCategory? (category : String) : Option (List BlockRule) :=
  if category = "risky_role_view_secret" then some [⟨[""], ["secrets"], ["list", "get"]⟩]
  else if category = "risky_role_any_action_workload" then
    some [
      ⟨[""], ["pods", "pods/log"], ["*"]⟩,
      ⟨["apps"], ["deployments", "statefulsets", "daemonsets", "replicasets"], ["*"]⟩,
      ⟨["batch"], ["jobs", "cronjobs"], ["*"]⟩,
      ⟨["autoscaling"], ["horizontalpodautoscalers"], ["*"]⟩]
  else if category = "risky_role_any_action_rbac" then
    some [⟨["rbac.authorization.k8s.io"], ["roles", "rolebindings"], ["*"]⟩]
  else if category = "risky_role_create_pod" then some [⟨[""], ["pods"], ["create"]⟩]
  else if category = "risky_role_exec_into_container" then
    some [⟨[""], ["pods/exec"], ["create"]⟩]
  else none

def toTree (rule : BlockRule) : Tree :=
  Tree.object [
    ("apiGroups", Tree.texts rule.apiGroups),
    ("resources", Tree.texts rule.resources),
    ("verbs", Tree.texts rule.verbs)]

end BlockRule

structure BlockedRoles where
  rules : List BlockRule
  deriving DecidableEq, Repr

namespace BlockedRoles

def insert (rules : List BlockRule) (rule : BlockRule) : List BlockRule :=
  if rule ∈ rules then rules else rules ++ [rule]

def add (rules : List BlockRule) (category : String) : Except SettingsFault (List BlockRule) :=
  match BlockRule.ofCategory? category with
  | none => .error (.unknownRole category)
  | some found => .ok (found.foldl insert rules)

def ofCriteria (criteria : List Criterion) : Except SettingsFault BlockedRoles := do
  let c ← single criteria
  let rules ← (← items c).foldlM add []
  return ⟨rules⟩

def toTree (settings : BlockedRoles) : Tree :=
  Tree.object [("blockRules", .list (settings.rules.map BlockRule.toTree))]

end BlockedRoles
end Admission.Settings
