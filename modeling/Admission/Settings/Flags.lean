import Admission.Settings.Value

/-!
Settings that hold flags. For the namespaces that a pod may share with its host a criterion says that
sharing is denied, so the flag of its axis is the opposite of its literal; the last criterion on an axis
counts, and an axis without one is allowed. Other modules are switched on by being there. The one that
looks for secrets can only find them, so it stands for criteria with the value false alone.
-/

namespace Admission.Settings

structure HostNamespaces where
  allowIpc : Bool := true
  allowNetwork : Bool := true
  allowPid : Bool := true
  deriving DecidableEq, Repr

namespace HostNamespaces

def add (settings : HostNamespaces) (c : Criterion) : Except SettingsFault HostNamespaces := do
  let denied ← boolean c.value
  match c.topic? with
  | some .shareIpcWithHost => return { settings with allowIpc := !denied }
  | some .shareNetWithHost => return { settings with allowNetwork := !denied }
  | some .sharePidWithHost => return { settings with allowPid := !denied }
  | _ => throw (.foreignCriterion c.name)

def ofCriteria (criteria : List Criterion) : Except SettingsFault HostNamespaces :=
  criteria.foldlM add {}

def toTree (settings : HostNamespaces) : Tree :=
  Tree.object [
    ("allow_host_ipc", .bool settings.allowIpc),
    ("allow_host_network", .bool settings.allowNetwork),
    ("allow_host_pid", .bool settings.allowPid)]

end HostNamespaces

inductive Switch
  | privilegeEscalation
  | podPrivileged
  | runningAsUser
  | secretsScanner
  deriving DecidableEq, Repr

namespace Switch

def needsFalse : Switch → Bool
  | secretsScanner => true
  | _ => false

def check (switch : Switch) (c : Criterion) : Except SettingsFault Unit :=
  if switch.needsFalse ∧ Text.trim c.value ≠ "false" then .error (.onlyFalse c.name c.value)
  else .ok ()

def ofCriteria (switch : Switch) (criteria : List Criterion) : Except SettingsFault Switch := do
  criteria.forM switch.check
  return switch

def toTree : Switch → Tree
  | privilegeEscalation => Tree.object [("default_allow_privilege_escalation", .bool true)]
  | _ => Tree.object []

end Switch

end Admission.Settings
