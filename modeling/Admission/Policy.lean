import Admission.Module
import Admission.Tree

/-!
Policies as objects of a cluster. A single policy runs one module; a policy group runs several and
combines their verdicts by an expression. `toTree` is the object as data, its fields in the order in
which they are shown; what is empty and may be left out is left out.
-/

namespace Admission

inductive Operation
  | create
  | update
  | delete
  | connect
  deriving DecidableEq, Repr

structure MatchRule where
  apiGroups : List String
  apiVersions : List String
  resources : List String
  operations : List Operation
  deriving DecidableEq, Repr

inductive SelectorOperator
  | inValues
  | notInValues
  | present
  | absent
  deriving DecidableEq, Repr

structure Requirement where
  key : String
  operator : SelectorOperator
  values : List String := []
  deriving DecidableEq, Repr

/-- Conditions on labels that have to hold together. -/
structure Selector where
  requirements : List Requirement
  deriving DecidableEq, Repr

structure SinglePolicy where
  apiVersion : String
  kind : String
  name : String
  server : String
  module : String
  mode : String
  backgroundAudit : Bool
  rules : List MatchRule
  settings : Tree
  contextResources : List ContextResource := []
  selector : Option Selector := none
  deriving BEq, Repr

structure Member where
  module : String
  settings : Tree
  contextResources : List ContextResource := []
  deriving BEq, Repr

structure PolicyGroup where
  apiVersion : String
  kind : String
  name : String
  server : String
  mode : String
  backgroundAudit : Bool
  rules : List MatchRule
  message : String
  expression : String
  /-- The members under their names, in the order of the names. -/
  members : List (String × Member)
  selector : Option Selector := none
  deriving BEq, Repr

inductive Policy
  | single (policy : SinglePolicy)
  | group (policy : PolicyGroup)
  deriving BEq, Repr

namespace Operation

def name : Operation → String
  | create => "CREATE"
  | update => "UPDATE"
  | delete => "DELETE"
  | connect => "CONNECT"

def all : List Operation := [create, update, delete, connect]

def ofName? (s : String) : Option Operation := all.find? fun operation => operation.name == s

theorem ofName?_name (operation : Operation) : ofName? operation.name = some operation := by
  cases operation <;> decide

end Operation

namespace SelectorOperator

def name : SelectorOperator → String
  | inValues => "In"
  | notInValues => "NotIn"
  | present => "Exists"
  | absent => "DoesNotExist"

def all : List SelectorOperator := [inValues, notInValues, present, absent]

def ofName? (s : String) : Option SelectorOperator :=
  all.find? fun operator => operator.name == s

theorem ofName?_name (operator : SelectorOperator) : ofName? operator.name = some operator := by
  cases operator <;> decide

end SelectorOperator

def ContextResource.toTree (resource : ContextResource) : Tree :=
  Tree.object [("apiVersion", .text resource.apiVersion), ("kind", .text resource.kind)]

def MatchRule.toTree (rule : MatchRule) : Tree :=
  Tree.object [
    ("apiGroups", Tree.texts rule.apiGroups),
    ("apiVersions", Tree.texts rule.apiVersions),
    ("resources", Tree.texts rule.resources),
    ("operations", Tree.texts (rule.operations.map Operation.name))]

def Requirement.toTree (requirement : Requirement) : Tree :=
  Tree.object
    ([("key", .text requirement.key), ("operator", .text requirement.operator.name)] ++
      if requirement.values.isEmpty then [] else [("values", Tree.texts requirement.values)])

def Selector.toTree (selector : Selector) : Tree :=
  Tree.object [("matchExpressions", .list (selector.requirements.map Requirement.toTree))]

def contextEntry (resources : List ContextResource) : List (String × Tree) :=
  if resources.isEmpty then []
  else [("contextAwareResources", .list (resources.map ContextResource.toTree))]

def selectorEntry (selector : Option Selector) : List (String × Tree) :=
  (selector.map fun s => ("namespaceSelector", s.toTree)).toList

def objectTree (apiVersion kind name : String) (specification : List (String × Tree)) : Tree :=
  Tree.object [
    ("apiVersion", .text apiVersion),
    ("kind", .text kind),
    ("metadata", Tree.object [("name", .text name)]),
    ("spec", Tree.object specification)]

def SinglePolicy.toTree (p : SinglePolicy) : Tree :=
  objectTree p.apiVersion p.kind p.name
    ([("policyServer", .text p.server), ("module", .text p.module), ("mode", .text p.mode),
        ("backgroundAudit", .bool p.backgroundAudit),
        ("rules", .list (p.rules.map MatchRule.toTree)), ("settings", p.settings)] ++
      contextEntry p.contextResources ++ selectorEntry p.selector)

def Member.toTree (member : Member) : Tree :=
  Tree.object
    ([("module", .text member.module), ("settings", member.settings)] ++
      contextEntry member.contextResources)

def PolicyGroup.toTree (p : PolicyGroup) : Tree :=
  objectTree p.apiVersion p.kind p.name
    ([("policyServer", .text p.server), ("mode", .text p.mode),
        ("backgroundAudit", .bool p.backgroundAudit),
        ("rules", .list (p.rules.map MatchRule.toTree)), ("message", .text p.message),
        ("expression", .text p.expression),
        ("policies", Tree.object (p.members.map fun m => (m.1, m.2.toTree)))] ++
      selectorEntry p.selector)

namespace Policy

def toTree : Policy → Tree
  | single p => p.toTree
  | group p => p.toTree

def name : Policy → String
  | single p => p.name
  | group p => p.name

def kind : Policy → String
  | single p => p.kind
  | group p => p.kind

def mode : Policy → String
  | single p => p.mode
  | group p => p.mode

def rules : Policy → List MatchRule
  | single p => p.rules
  | group p => p.rules

def selector : Policy → Option Selector
  | single p => p.selector
  | group p => p.selector

def isGroup : Policy → Bool
  | single _ => false
  | group _ => true

def singleModule? : Policy → Option String
  | single p => some p.module
  | group _ => none

def memberNames? : Policy → Option (List String)
  | single _ => none
  | group p => some (p.members.map Prod.fst)

end Policy
end Admission
