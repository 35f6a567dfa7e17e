import Admission.Module
import Mathlib.Data.List.Chain
import Mathlib.Data.List.Nodup

/-!
Member names. The name under which a group calls a module is the last segment of its reference,
with underscores for dashes; main statement: in the order of `byName` the names increase strictly, so
that no two modules share one.
-/

namespace Admission.Module

theorem dropScheme_append {scheme : List Char} (h : ':' ∉ scheme) (rest : List Char) :
    dropScheme (scheme ++ ':' :: '/' :: '/' :: rest) = rest := by
  have hafter : dropScheme.after (scheme ++ ':' :: '/' :: '/' :: rest) = some rest := by
    induction scheme with
    | nil => rfl
    | cons c cs ih =>
      rw [List.mem_cons, not_or] at h
      rw [List.cons_append, dropScheme.after]
      · exact ih h.2
      · rintro r hr -
        exact h.1 hr.symm
  rw [dropScheme, hafter]
  rfl

theorem dropTag_append {tag : List Char} (h : ':' ∉ tag) (front : List Char) :
    dropTag (front ++ ':' :: tag) = front := by
  have htag : ∀ c ∈ tag.reverse, decide (c ≠ ':') = true := by
    intro c hc
    rw [List.mem_reverse] at hc
    exact decide_eq_true fun hcolon => h (hcolon ▸ hc)
  unfold dropTag
  rw [List.reverse_append, List.reverse_cons, List.append_assoc, List.dropWhile_append_of_pos htag]
  simp

theorem lastSegment_append {name : List Char} (h : '/' ∉ name) (front : List Char) :
    lastSegment (front ++ '/' :: name) = name := by
  have hname : ∀ c ∈ name.reverse, decide (c ≠ '/') = true := by
    intro c hc
    rw [List.mem_reverse] at hc
    exact decide_eq_true fun hslash => h (hslash ▸ hc)
  unfold lastSegment
  rw [List.reverse_append, List.reverse_cons, List.append_assoc, List.takeWhile_append_of_pos hname]
  simp

/-- The name of a module kept under a scheme, in a directory, with a tag. -/
theorem memberNameChars_append {scheme directory name tag : List Char} (hscheme : ':' ∉ scheme)
    (hname : '/' ∉ name) (htag : ':' ∉ tag) :
    memberNameChars
        (scheme ++ ':' :: '/' :: '/' :: (directory ++ '/' :: name ++ ':' :: tag)) =
      name.map fun c => if c = '-' then '_' else c := by
  unfold memberNameChars
  rw [dropScheme_append hscheme, dropTag_append htag, lastSegment_append hname]

def image : Module → String × String
  | hostNamespaces => ("host-namespaces-psp", "v1.1.0")
  | privilegeEscalation => ("allow-privilege-escalation-psp", "v1.0.0")
  | podPrivileged => ("pod-privileged", "v1.0.3")
  | runningAsUser => ("container-running-as-user", "v1.0.4")
  | trustedRepos => ("trusted-repos", "v2.0.1")
  | secretsScanner => ("env-variable-secrets-scanner", "v1.0.5")
  | environmentVariables => ("environment-variable-policy", "v3.0.2")
  | labels => ("labels", "v0.1.0")
  | annotations => ("annotations", "v0.1.0")
  | cel => ("cel-policy", "v1.3.4")
  | imageCve => ("image-cve-policy", "v0.5.0")
  | serviceAccount => ("high-risk-service-account", "v0.1.2")
  | containerResources => ("container-resources", "v1.3.1")
  | storageClass => ("persistentvolumeclaim-storageclass-policy", "v1.1.0")

theorem reference_eq (m : Module) :
    m.reference =
      "registry" ++ "://" ++ "ghcr.io/kubewarden/policies" ++ "/" ++ m.image.1 ++ ":" ++
        m.image.2 := by
  cases m <;> decide +kernel

theorem toList_memberName (m : Module) :
    m.memberName.toList = m.image.1.toList.map fun c => if c = '-' then '_' else c := by
  have hscheme : ':' ∉ "registry".toList := by decide
  have hname : '/' ∉ m.image.1.toList := by cases m <;> decide +kernel
  have htag : ':' ∉ m.image.2.toList := by cases m <;> decide +kernel
  have hreference : m.reference.toList =
      "registry".toList ++ ':' :: '/' :: '/' :: ("ghcr.io/kubewarden/policies".toList ++
        '/' :: m.image.1.toList ++ ':' :: m.image.2.toList) := by
    have hs : "://".toList = [':', '/', '/'] := by decide
    have hd : "/".toList = ['/'] := by decide
    have ht : ":".toList = [':'] := by decide
    rw [reference_eq]
    simp only [String.toList_append, hs, hd, ht, List.append_assoc, List.cons_append,
      List.nil_append]
  rw [memberName, memberNameOf, String.toList_ofList, hreference]
  exact memberNameChars_append hscheme hname htag

def byName : List Module :=
  [privilegeEscalation, annotations, cel, containerResources, runningAsUser, secretsScanner,
    environmentVariables, serviceAccount, hostNamespaces, imageCve, labels, storageClass,
    podPrivileged, trustedRepos]

theorem mem_byName (m : Module) : m ∈ byName := by cases m <;> decide

/-- A rendering of the names that evaluates at once. -/
theorem memberName_eq (m : Module) :
    m.memberName = String.ofList (m.image.1.toList.map fun c => if c = '-' then '_' else c) := by
  rw [← toList_memberName, String.ofList_toList]

theorem pairwise_byName : byName.Pairwise fun m k => m.memberName < k.memberName := by
  have htrans : IsTrans Module fun m k => m.memberName < k.memberName :=
    ⟨fun _ _ _ h₁ h₂ => String.lt_trans h₁ h₂⟩
  -- The order of texts is transitive, so neighbours are enough.
  rw [← List.isChain_iff_pairwise]
  simp only [memberName_eq, byName, List.isChain_cons_cons]
  decide +kernel

theorem nodup_map_memberName : (byName.map memberName).Nodup := by
  rw [List.nodup_iff_pairwise_ne, List.pairwise_map]
  exact pairwise_byName.imp fun h => String.ne_of_lt h

theorem memberName_injective {m k : Module} (h : m.memberName = k.memberName) : m = k :=
  List.inj_on_of_nodup_map nodup_map_memberName (mem_byName m) (mem_byName k) h

theorem reference_injective {m k : Module} (h : m.reference = k.reference) : m = k :=
  memberName_injective (congrArg memberNameOf h)

end Admission.Module
