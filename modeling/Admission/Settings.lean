import Admission.Settings.BlockedRoles
import Admission.Settings.Conditions
import Admission.Settings.Flags
import Admission.Settings.ImageScan
import Admission.Settings.Lists
import Admission.Settings.ResourceBounds
import Admission.Settings.TrustedRepos

namespace Admission

/-- The settings for a module. Every map comes with its keys in order. -/
def Module.settings [Pattern.Engine] (source : Settings.ScanSource) (m : Module)
    (criteria : List Criterion) :
    Except SettingsFault Tree :=
  open Settings in
  match m with
  | .hostNamespaces => (HostNamespaces.ofCriteria criteria).map HostNamespaces.toTree
  | .privilegeEscalation => (Switch.privilegeEscalation.ofCriteria criteria).map Switch.toTree
  | .podPrivileged => (Switch.podPrivileged.ofCriteria criteria).map Switch.toTree
  | .runningAsUser => (Switch.runningAsUser.ofCriteria criteria).map Switch.toTree
  | .trustedRepos => (TrustedRepos.ofCriteria criteria).map TrustedRepos.toTree
  | .secretsScanner => (Switch.secretsScanner.ofCriteria criteria).map Switch.toTree
  | .environmentVariables => (ValueList.ofCriteria criteria).map ValueList.toTree
  | .labels => (ValueList.ofCriteria criteria).map ValueList.toTree
  | .annotations => (ValueList.ofCriteria criteria).map ValueList.toTree
  | .cel => (Conditions.ofCriteria criteria).map Conditions.toTree
  | .imageCve => (ImageScan.ofCriteria source criteria).map ImageScan.toTree
  | .serviceAccount => (BlockedRoles.ofCriteria criteria).map BlockedRoles.toTree
  | .containerResources => (ResourceBounds.ofCriteria criteria).map ResourceBounds.toTree
  | .storageClass => (StorageClasses.ofCriteria criteria).map StorageClasses.toTree

end Admission
