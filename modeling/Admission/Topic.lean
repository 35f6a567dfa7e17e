import Admission.Module
import Admission.Operator

/-!
What a criterion can be about. A topic tells how its criteria are treated: most are checked by one
module; the namespace topic scopes a rule to namespaces instead; one topic stands for a bundle of
others; and some are known but cannot be enforced. `ofName?` reads exactly the names that `name`
gives.
-/

namespace Admission

inductive Topic
  | shareIpcWithHost
  | shareNetWithHost
  | sharePidWithHost
  | allowPrivEscalation
  | runAsRoot
  | runAsPrivileged
  | storageClassName
  | envVars
  | envVarSecrets
  | image
  | imageRegistry
  | namespaceName
  | labels
  | annotations
  | saBindRiskyRole
  | imageScanned
  | cveHighCount
  | cveMediumCount
  | user
  | userGroups
  | resourceLimit
  | pspCompliance
  | customPath
  | cveHighWithFixCount
  | cveNames
  | cveScore
  | imageCompliance
  | imageNoOS
  | imageSigned
  | imageVerifiers
  | modules
  | mountVolumes
  | hasPssViolation
  deriving DecidableEq, Repr

inductive ValueShape
  | scalar
  | list
  | map
  deriving DecidableEq, Repr

/-- How the criteria of a topic are treated. -/
inductive Role
  /-- A module checks them. -/
  | check (module : Module)
  /-- They scope the rule to namespaces; the module could check them too. -/
  | gate (module : Module)
  /-- They stand for several others. -/
  | bundle
  | unsupported
  deriving DecidableEq, Repr

namespace Topic

def all : List Topic :=
  [shareIpcWithHost, shareNetWithHost, sharePidWithHost, allowPrivEscalation, runAsRoot,
    runAsPrivileged, storageClassName, envVars, envVarSecrets, image, imageRegistry, namespaceName,
    labels, annotations, saBindRiskyRole, imageScanned, cveHighCount, cveMediumCount, user,
    userGroups, resourceLimit, pspCompliance, customPath, cveHighWithFixCount, cveNames, cveScore,
    imageCompliance, imageNoOS, imageSigned, imageVerifiers, modules, mountVolumes, hasPssViolation]

def name : Topic → String
  | shareIpcWithHost => "shareIpcWithHost"
  | shareNetWithHost => "shareNetWithHost"
  | sharePidWithHost => "sharePidWithHost"
  | allowPrivEscalation => "allowPrivEscalation"
  | runAsRoot => "runAsRoot"
  | runAsPrivileged => "runAsPrivileged"
  | storageClassName => "storageClassName"
  | envVars => "envVars"
  | envVarSecrets => "envVarSecrets"
  | image => "image"
  | imageRegistry => "imageRegistry"
  | namespaceName => "namespace"
  | labels => "labels"
  | annotations => "annotations"
  | saBindRiskyRole => "saBindRiskyRole"
  | imageScanned => "imageScanned"
  | cveHighCount => "cveHighCount"
  | cveMediumCount => "cveMediumCount"
  | user => "user"
  | userGroups => "userGroups"
  | resourceLimit => "resourceLimit"
  | pspCompliance => "pspCompliance"
  | customPath => "customPath"
  | cveHighWithFixCount => "cveHighWithFixCount"
  | cveNames => "cveNames"
  | cveScore => "cveScore"
  | imageCompliance => "imageCompliance"
  | imageNoOS => "imageNoOS"
  | imageSigned => "imageSigned"
  | imageVerifiers => "imageVerifiers"
  | modules => "modules"
  | mountVolumes => "mountVolumes"
  | hasPssViolation => "hasPssViolation"

def displayName : Topic → String
  | shareIpcWithHost => "Share host's IPC namespaces"
  | shareNetWithHost => "Share host's Network"
  | sharePidWithHost => "Share host's PID namespaces"
  | allowPrivEscalation => "Allow Privilege Escalation"
  | runAsRoot => "Run as root"
  | runAsPrivileged => "Run as privileged"
  | storageClassName => "StorageClass Name"
  | envVars => "Environment variables"
  | envVarSecrets => "Environment variables with secrets"
  | image => "Image"
  | imageRegistry => "Image registry"
  | namespaceName => "Namespace"
  | labels => "Labels"
  | annotations => "Annotations"
  | saBindRiskyRole => "Service Account Bound High Risk Role"
  | imageScanned => "Image scanned"
  | cveHighCount => "Count of high severity CVE"
  | cveMediumCount => "Count of medium severity CVE"
  | user => "User"
  | userGroups => "User groups"
  | resourceLimit => "Resource Limit Configuration (RLC)"
  | pspCompliance => "PSP Best Practice"
  | customPath => "Add customized criterion"
  | cveHighWithFixCount => "Count of high severity CVE with fix"
  | cveNames => "CVE names"
  | cveScore => "CVE score"
  | imageCompliance => "Image compliance violations"
  | imageNoOS => "Image without OS information"
  | imageSigned => "Image signed"
  | imageVerifiers => "Image Sigstore Verifiers"
  | modules => "Modules"
  | mountVolumes => "Mount Volumes"
  | hasPssViolation => "Violates PSA policy"

def role : Topic → Role
  | shareIpcWithHost | shareNetWithHost | sharePidWithHost => .check .hostNamespaces
  | allowPrivEscalation => .check .privilegeEscalation
  | runAsRoot => .check .runningAsUser
  | runAsPrivileged => .check .podPrivileged
  | storageClassName => .check .storageClass
  | envVars => .check .environmentVariables
  | envVarSecrets => .check .secretsScanner
  | image | imageRegistry => .check .trustedRepos
  | namespaceName => .gate .cel
  | labels => .check .labels
  | annotations => .check .annotations
  | saBindRiskyRole => .check .serviceAccount
  | imageScanned | cveHighCount | cveMediumCount => .check .imageCve
  | user | userGroups => .check .cel
  | resourceLimit => .check .containerResources
  | pspCompliance => .bundle
  | customPath | cveHighWithFixCount | cveNames | cveScore | imageCompliance | imageNoOS
  | imageSigned | imageVerifiers | modules | mountVolumes | hasPssViolation => .unsupported

def operators : Topic → List Operator
  | shareIpcWithHost | shareNetWithHost | sharePidWithHost | allowPrivEscalation | runAsRoot
  | runAsPrivileged | envVarSecrets | imageScanned | pspCompliance => [.equal]
  | storageClassName | image | imageRegistry | namespaceName => [.containsAny, .notContainsAny]
  | envVars | labels | annotations =>
    [.containsAll, .containsAny, .notContainsAny, .containsOtherThan]
  | saBindRiskyRole => [.containsAny]
  | cveHighCount | cveMediumCount => [.atLeast, .equal]
  | user => [.containsAny, .notContainsAny, .matching, .notMatching]
  | userGroups =>
    [.containsAny, .containsAll, .notContainsAny, .containsOtherThan, .matching, .notMatching]
  | resourceLimit => [.atMost, .above, .unspecified]
  | customPath | cveHighWithFixCount | cveNames | cveScore | imageCompliance | imageNoOS
  | imageSigned | imageVerifiers | modules | mountVolumes | hasPssViolation => []

def shape : Topic → ValueShape
  | storageClassName | envVars | image | imageRegistry | namespaceName | saBindRiskyRole | user
  | userGroups => .list
  | labels | annotations | resourceLimit => .map
  | _ => .scalar

def module? (topic : Topic) : Option Module :=
  match topic.role with
  | .check m => some m
  | .gate m => some m
  | .bundle => none
  | .unsupported => none

def isGate (topic : Topic) : Bool :=
  match topic.role with
  | .gate _ => true
  | _ => false

def isBundle (topic : Topic) : Bool := topic.role = .bundle

def isUnsupported (topic : Topic) : Bool := topic.role = .unsupported

/-- Whether an operator, given by its text, is one of the topic's. -/
def accepts (topic : Topic) (operator : String) : Bool :=
  topic.operators.any fun o => o.text == operator

def ofName? (s : String) : Option Topic := all.find? fun topic => topic.name == s

theorem ofName?_name (topic : Topic) : ofName? topic.name = some topic := by
  cases topic <;> decide

theorem name_of_ofName? {s : String} {topic : Topic} (h : ofName? s = some topic) :
    topic.name = s := by
  simpa using List.find?_some h

theorem ofName?_eq_some_iff {s : String} {topic : Topic} :
    ofName? s = some topic ↔ s = topic.name :=
  ⟨fun h => (name_of_ofName? h).symm, fun h => h ▸ ofName?_name topic⟩

theorem name_injective {a b : Topic} (h : a.name = b.name) : a = b := by
  have := ofName?_name a
  rw [h, ofName?_name] at this
  exact (Option.some.inj this).symm

/-- The topics that the bundle stands for, in its order. -/
def bundled : List Topic :=
  [shareIpcWithHost, shareNetWithHost, sharePidWithHost, runAsPrivileged, runAsRoot,
    allowPrivEscalation]

end Topic
end Admission
