import Admission.Settings.Value

/-!
Settings that hold the list of one criterion. Environment variables, labels and annotations come with
a keyword, which says what an accepted object looks like, and so negates the operator that makes the
rule deny. The storage classes of volume claims are those that are denied, or the only ones that are
allowed.
-/

namespace Admission.Settings

structure ValueList where
  keyword : String
  values : List String
  deriving DecidableEq, Repr

namespace ValueList

def negation? : Operator → Option String
  | .containsAll => some "doesNotContainAllOf"
  | .containsAny => some "doesNotContainAnyOf"
  | .containsOtherThan => some "doesNotContainOtherThan"
  | .notContainsAny => some "containsAnyOf"
  | _ => none

def ofCriteria (criteria : List Criterion) : Except SettingsFault ValueList := do
  let c ← single criteria
  match (Operator.ofText? c.operator).bind negation? with
  | none => throw (.foreignListOperator c.operator)
  | some keyword => return ⟨keyword, ← items c⟩

def toTree (settings : ValueList) : Tree :=
  Tree.object [("criteria", .text settings.keyword), ("values", Tree.texts settings.values)]

end ValueList

inductive StorageClasses
  | denied (classes : List String)
  | allowed (classes : List String)
  deriving DecidableEq, Repr

namespace StorageClasses

def ofCriteria (criteria : List Criterion) : Except SettingsFault StorageClasses := do
  let c ← single criteria
  let classes ← items c
  return if c.operator = Operator.containsAny.text then denied classes else allowed classes

def toTree : StorageClasses → Tree
  | denied classes => Tree.object [("deniedStorageClasses", Tree.texts classes)]
  | allowed classes => Tree.object [("allowedStorageClasses", Tree.texts classes)]

end StorageClasses

end Admission.Settings
