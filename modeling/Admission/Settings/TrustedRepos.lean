import Admission.Settings.Value

/-!
Settings for trusted images and registries: in each of the two sections the items that are rejected
and the only ones that are allowed. The last criterion for a list counts.
-/

namespace Admission.Settings

structure RepoSection where
  allow : Option (List String) := none
  reject : Option (List String) := none
  deriving DecidableEq, Repr

structure TrustedRepos where
  images : RepoSection := {}
  registries : RepoSection := {}
  deriving DecidableEq, Repr

namespace RepoSection

def isEmpty (part : RepoSection) : Bool := part.allow.isNone && part.reject.isNone

def toTree (part : RepoSection) : Tree :=
  Tree.object
    ((part.allow.map fun found => ("allow", Tree.texts found)).toList ++
      (part.reject.map fun found => ("reject", Tree.texts found)).toList)

def put (part : RepoSection) (operator : String) (found : List String) : RepoSection :=
  if operator = Operator.containsAny.text then { part with reject := some found }
  else { part with allow := some found }

end RepoSection

namespace TrustedRepos

def add (settings : TrustedRepos) (c : Criterion) : Except SettingsFault TrustedRepos :=
  match c.topic? with
  | some .imageRegistry => do
    let found ← items c
    return { settings with registries := settings.registries.put c.operator found }
  | some .image => do
    let found ← items c
    return { settings with images := settings.images.put c.operator found }
  | _ => .error (.foreignCriterion c.name)

def ofCriteria (criteria : List Criterion) : Except SettingsFault TrustedRepos :=
  criteria.foldlM add {}

def toTree (settings : TrustedRepos) : Tree :=
  Tree.object
    ((if settings.images.isEmpty then [] else [("images", settings.images.toTree)]) ++
      if settings.registries.isEmpty then [] else [("registries", settings.registries.toTree)])

end TrustedRepos
end Admission.Settings
