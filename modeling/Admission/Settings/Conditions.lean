import Admission.Cel.Expression
import Admission.Pattern.Wildcard
import Admission.Settings.Value

/-!
Settings that hold conditions on the namespace, the user and the groups of a request. A condition
holds of the requests that its criterion lets through, so it negates what the criterion says: where
the criterion denies when some identity matches, the condition says that none does.
-/

namespace Admission.Settings

open Cel

structure Validation where
  condition : Expression
  message : String
  /-- Whether the two texts end with a line end, so that they stand as blocks. -/
  isBlock : Bool := false
  deriving DecidableEq, Repr

structure Conditions where
  validations : List Validation
  deriving DecidableEq, Repr

variable [Pattern.Engine]

namespace Validation

/-- Passes a pattern on if the engine takes it. -/
def checkPattern (c : Criterion) (pattern : String) : Except SettingsFault String :=
  if Pattern.Engine.accepts pattern then .ok pattern else .error (.invalidPattern pattern c.name)

def patterns (c : Criterion) : Except SettingsFault (List String × List String) := do
  let found ← items c
  let patterns ← found.mapM fun item => checkPattern c (Pattern.ofWildcard item)
  return (patterns, found)

def pattern (c : Criterion) : Except SettingsFault String :=
  let value := Text.trim c.value
  if value = "" then .error (.noValues c.name) else checkPattern c value

def someMatch (patterns : List String) (subject : Term) : Expression :=
  .exist (.literals patterns) .pattern (.matching subject (.var .pattern))

def sentence (opening : String) (found : List String) : String :=
  opening ++ quotedList ", " found ++ "."

def patternSentence (opening pattern : String) : String := opening ++ Json.quote pattern ++ "."

def ofNamespace (c : Criterion) : Except SettingsFault Validation := do
  let found ← items c
  let within : Expression := .parenthesized (.namespaceIn found)
  match Operator.ofText? c.operator with
  | some .containsAny =>
    return {
      condition := .conjunction .hasNamespace (.negation within)
      message := sentence "Namespace must not be one of: " found
      isBlock := true }
  | some .notContainsAny =>
    return {
      condition := .conjunction .hasNamespace within
      message := sentence "Namespace must be one of: " found
      isBlock := true }
  | _ => throw (.foreignOperator c.operator c.name)

def ofUser (c : Criterion) : Except SettingsFault Validation :=
  match Operator.ofText? c.operator with
  | some .containsAny => do
    let (patterns, found) ← patterns c
    return {
      condition := .negation (.parenthesized (someMatch patterns .username))
      message := sentence "User must not be one of: " found }
  | some .notContainsAny => do
    let (patterns, found) ← patterns c
    return {
      condition := someMatch patterns .username
      message := sentence "User must be one of: " found }
  | some .matching => do
    let p ← pattern c
    return {
      condition := .negation (.matching .username (.literal p))
      message := patternSentence "User must not match: " p }
  | some .notMatching => do
    let p ← pattern c
    return {
      condition := .matching .username (.literal p)
      message := patternSentence "User must match: " p }
  | _ => .error (.foreignOperator c.operator c.name)

def someGroup (body : Expression) : Expression := .exist .groups .group body

def ofGroups (c : Criterion) : Except SettingsFault Validation :=
  match Operator.ofText? c.operator with
  | some .containsAny => do
    let (patterns, found) ← patterns c
    return {
      condition := .negation (someGroup (someMatch patterns (.var .group)))
      message := sentence "User groups must not include any of: " found }
  | some .containsAll => do
    let (patterns, found) ← patterns c
    return {
      condition :=
        .negation (.all (.literals patterns) .pattern
          (someGroup (.matching (.var .group) (.var .pattern))))
      message := sentence "User groups must not include all of: " found }
  | some .notContainsAny => do
    let (patterns, found) ← patterns c
    return {
      condition := someGroup (someMatch patterns (.var .group))
      message := sentence "User groups must include one of: " found }
  | some .containsOtherThan => do
    let (patterns, found) ← patterns c
    return {
      condition := .all .groups .group (someMatch patterns (.var .group))
      message := sentence "User groups must only include: " found }
  | some .matching => do
    let p ← pattern c
    return {
      condition := .negation (someGroup (.matching (.var .group) (.literal p)))
      message := patternSentence "User groups must not include a match for: " p }
  | some .notMatching => do
    let p ← pattern c
    return {
      condition := someGroup (.matching (.var .group) (.literal p))
      message := patternSentence "User groups must include a match for: " p }
  | _ => .error (.foreignOperator c.operator c.name)

def ofCriterion (c : Criterion) : Except SettingsFault Validation :=
  match c.topic? with
  | some .namespaceName => ofNamespace c
  | some .user => ofUser c
  | some .userGroups => ofGroups c
  | _ => .error (.foreignCriterion c.name)

/-- A text with its line end if it stands as a block. -/
def asBlock (v : Validation) (s : String) : String := if v.isBlock then s ++ "\n" else s

def toTree (v : Validation) : Tree :=
  Tree.object [
    ("expression", .text (v.asBlock v.condition.render)),
    ("message", .text (v.asBlock v.message))]

end Validation

namespace Conditions

def ofCriteria (criteria : List Criterion) : Except SettingsFault Conditions := do
  if criteria.isEmpty then throw .noConditions
  let validations ← criteria.mapM Validation.ofCriterion
  return ⟨validations⟩

def toTree (settings : Conditions) : Tree :=
  Tree.object [("validations", .list (settings.validations.map Validation.toTree))]

end Conditions
end Admission.Settings
