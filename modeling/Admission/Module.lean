/-!
The policy modules that can enforce a rule: where each is kept, which objects it looks at, and which
resources of the cluster it reads. In a policy group a module is called by its member name, the last
part of its reference.
-/

namespace Admission

inductive Resource
  /-- Claims for volumes. -/
  | claims
  /-- Pods, and what creates them. -/
  | workloads
  deriving DecidableEq, Repr

/-- A kind of cluster resource that a module reads while it decides. -/
structure ContextResource where
  apiVersion : String
  kind : String
  deriving DecidableEq, Repr

inductive Module
  | hostNamespaces
  | privilegeEscalation
  | podPrivileged
  | runningAsUser
  | trustedRepos
  | secretsScanner
  | environmentVariables
  | labels
  | annotations
  | cel
  | imageCve
  | serviceAccount
  | containerResources
  | storageClass
  deriving DecidableEq, Repr

namespace Module

def reference : Module → String
  | hostNamespaces => "registry://ghcr.io/kubewarden/policies/host-namespaces-psp:v1.1.0"
  | privilegeEscalation =>
    "registry://ghcr.io/kubewarden/policies/allow-privilege-escalation-psp:v1.0.0"
  | podPrivileged => "registry://ghcr.io/kubewarden/policies/pod-privileged:v1.0.3"
  | runningAsUser => "registry://ghcr.io/kubewarden/policies/container-running-as-user:v1.0.4"
  | trustedRepos => "registry://ghcr.io/kubewarden/policies/trusted-repos:v2.0.1"
  | secretsScanner => "registry://ghcr.io/kubewarden/policies/env-variable-secrets-scanner:v1.0.5"
  | environmentVariables =>
    "registry://ghcr.io/kubewarden/policies/environment-variable-policy:v3.0.2"
  | labels => "registry://ghcr.io/kubewarden/policies/labels:v0.1.0"
  | annotations => "registry://ghcr.io/kubewarden/policies/annotations:v0.1.0"
  | cel => "registry://ghcr.io/kubewarden/policies/cel-policy:v1.3.4"
  | imageCve => "registry://ghcr.io/kubewarden/policies/image-cve-policy:v0.5.0"
  | serviceAccount => "registry://ghcr.io/kubewarden/policies/high-risk-service-account:v0.1.2"
  | containerResources => "registry://ghcr.io/kubewarden/policies/container-resources:v1.3.1"
  | storageClass =>
    "registry://ghcr.io/kubewarden/policies/persistentvolumeclaim-storageclass-policy:v1.1.0"

def resource : Module → Resource
  | storageClass => .claims
  | _ => .workloads

def contextResources : Module → List ContextResource
  | imageCve => [⟨"storage.sbomscanner.kubewarden.io/v1alpha1", "VulnerabilityReport"⟩]
  | _ => []

/-- What follows the first `://`; all of it where there is none. -/
def dropScheme (cs : List Char) : List Char :=
  let rec after : List Char → Option (List Char)
    | ':' :: '/' :: '/' :: rest => some rest
    | _ :: rest => after rest
    | [] => none
  (after cs).getD cs

/-- What stands before the last colon; all of it where there is none. -/
def dropTag (cs : List Char) : List Char :=
  match cs.reverse.dropWhile (· ≠ ':') with
  | [] => cs
  | _ :: front => front.reverse

def lastSegment (cs : List Char) : List Char := (cs.reverse.takeWhile (· ≠ '/')).reverse

/-- The name under which a module with this reference is called in a group: the last segment of the
path without scheme and tag, with underscores for dashes. -/
def memberNameChars (reference : List Char) : List Char :=
  (lastSegment (dropTag (dropScheme reference))).map fun c => if c = '-' then '_' else c

def memberNameOf (reference : String) : String :=
  String.ofList (memberNameChars reference.toList)

def memberName (m : Module) : String := memberNameOf m.reference

end Module
end Admission
