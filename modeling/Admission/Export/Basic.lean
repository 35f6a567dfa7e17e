import Admission.Failure
import Admission.Rule

/-!
Rules as the source platform exports them: from its interface, or as resources of a cluster, in any
number of documents. The two forms name the same things differently and leave different things out;
both come down to `ExportedRule`. A rule that was exported without an id gets the next unused number
of a count that starts at the first id of own rules.
-/

namespace Admission.Export

structure ExportedCriterion where
  name : String := ""
  operator : String := ""
  value : String := ""
  parts : Option (List ExportedCriterion) := none
  deriving Inhabited, Repr

mutual

def ExportedCriterion.toCriterion : ExportedCriterion → Criterion
  | ⟨name, operator, value, parts⟩ => ⟨name, operator, value, optionToCriteria parts⟩

def optionToCriteria : Option (List ExportedCriterion) → List Criterion
  | none => []
  | some criteria => toCriteria criteria

def toCriteria : List ExportedCriterion → List Criterion
  | [] => []
  | c :: cs => c.toCriterion :: toCriteria cs

end

structure ExportedRule where
  id : Option UInt32 := none
  criteria : List Criterion := []
  kind : RuleKind := .deny
  disabled : Bool := false
  mode : Option String := none
  comment : String := ""
  deriving Repr

structure InterfaceRule where
  id : Option UInt32 := none
  comment : String := ""
  criteria : Option (List ExportedCriterion) := none
  disabled : Bool := false
  kind : Option String := none
  mode : Option String := none
  deriving Repr

structure ResourceRule where
  id : Option UInt32 := none
  kind : Option String := none
  comment : Option String := none
  criteria : Option (List ExportedCriterion) := none
  disabled : Option Bool := none
  mode : Option String := none
  deriving Repr

/-- An absent or empty kind means deny. -/
def kindOf (name : Option String) : RuleKind :=
  match name with
  | none => .deny
  | some s => if s = "" then .deny else .ofName s

/-- An empty mode counts as absent. -/
def modeOf (mode : Option String) : Option String := mode.filter (· ≠ "")

def InterfaceRule.toExported (rule : InterfaceRule) : ExportedRule where
  id := rule.id
  criteria := optionToCriteria rule.criteria
  kind := kindOf rule.kind
  disabled := rule.disabled
  mode := modeOf rule.mode
  comment := rule.comment

def ResourceRule.toExported (rule : ResourceRule) : ExportedRule where
  id := rule.id
  criteria := optionToCriteria rule.criteria
  kind := kindOf rule.kind
  disabled := rule.disabled.getD false
  mode := modeOf rule.mode
  comment := rule.comment.getD ""

def ExportedRule.withId (rule : ExportedRule) (id : UInt32) : Rule where
  id
  criteria := rule.criteria
  kind := rule.kind
  disabled := rule.disabled
  mode := rule.mode
  comment := rule.comment

/-- Gives each rule its own id or the next number. -/
def assignIds : UInt32 → List ExportedRule → List Rule
  | _, [] => []
  | next, rule :: rules =>
    match rule.id with
    | some id => rule.withId id :: assignIds next rules
    | none => rule.withId next :: assignIds (next + 1) rules

def numbered (rules : List ExportedRule) : List Rule := assignIds Rule.firstOwnId rules

def ofInterface (rules : Option (List InterfaceRule)) : List Rule :=
  numbered ((rules.getD []).map InterfaceRule.toExported)

inductive Document
  /-- It holds nothing, but counts. -/
  | void
  | broken
  | resource (rules : Option (List ResourceRule))
  deriving Repr

def exportedFrom : Nat → List Document → Except Failure (List ExportedRule)
  | _, [] => .ok []
  | position, .void :: documents => exportedFrom (position + 1) documents
  | position, .broken :: _ => .error (.input (.notYaml position))
  | position, .resource rules :: documents => do
    let later ← exportedFrom (position + 1) documents
    return (rules.getD []).map ResourceRule.toExported ++ later

/-- The rules of a stream of resources. The first document that is broken decides the failure. -/
def ofDocuments (documents : List Document) : Except Failure (List Rule) :=
  (exportedFrom 0 documents).map numbered

end Admission.Export
