import Admission.Text.Items
import Admission.Topic
import Admission.Tree.Record

/-!
Criteria: a topic and an operator by their names, a value as text, and parts where a topic has them.
A criterion is custom if it has no name or the name of the custom topic.
-/

namespace Admission

structure Criterion where
  name : String
  operator : String := ""
  value : String := ""
  parts : List Criterion := []
  deriving Inhabited, Repr

namespace Criterion

/-- Whether the criterion is outside the topics that modules enforce. -/
def isCustom (c : Criterion) : Bool := c.name == Topic.customPath.name || c.name == ""

def topic? (c : Criterion) : Option Topic := Topic.ofName? c.name

/-- The comma-separated parts of the value, blank ones included. -/
def pieces (c : Criterion) : List String := Text.pieces c.value

def items (c : Criterion) : List String := Text.items c.value

/-- The criterion that a topic in a bundle stands for. -/
def ofBundled (topic : Topic) : Criterion :=
  { name := topic.name, operator := Operator.equal.text, value := "true" }

mutual

def toTree : Criterion → Tree
  | ⟨name, operator, value, parts⟩ =>
    Tree.object
      ([("name", .text name), ("op", .text operator), ("value", .text value)] ++
        if parts.isEmpty then [] else [("sub_criteria", .list (toTrees parts))])

def toTrees : List Criterion → List Tree
  | [] => []
  | c :: cs => c.toTree :: toTrees cs

end

def fieldNames : List Tree.FieldNames := [["name"], ["op"], ["value"], ["sub_criteria"]]

/-- Reads a criterion whose parts go at most `fuel` levels down. -/
def ofTreeWithin (form : Tree.RecordForm) : Nat → Tree → Option Criterion
  | 0, _ => none
  | fuel + 1, tree =>
    match tree.fields form fieldNames with
    | some [name, operator, value, parts] => do
      return {
        name := ← Tree.required Tree.text? name
        operator := ← Tree.withDefault "" Tree.text? operator
        value := ← Tree.withDefault "" Tree.text? value
        parts := ← Tree.withDefault [] (Tree.listOf? form (ofTreeWithin form fuel)) parts }
    | _ => none

def ofTree? (form : Tree.RecordForm) (tree : Tree) : Option Criterion :=
  ofTreeWithin form (tree.depth + 1) tree

end Criterion
end Admission
