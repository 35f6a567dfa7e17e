import Admission.Criterion

/-!
Rules as the source platform keeps them. A request is denied when every criterion of a rule holds of
it.
-/

namespace Admission

inductive RuleKind
  | deny
  | exception
  | other (name : String)
  deriving DecidableEq, Inhabited, Repr

namespace RuleKind

def name : RuleKind → String
  | deny => "deny"
  | exception => "exception"
  | other s => s

def ofName (s : String) : RuleKind :=
  if s = "deny" then deny else if s = "exception" then exception else other s

theorem name_ofName (s : String) : (ofName s).name = s := by
  unfold ofName
  split
  · simp_all [name]
  · split <;> simp_all [name]

end RuleKind

structure Rule where
  id : UInt32
  criteria : List Criterion := []
  kind : RuleKind := .deny
  disabled : Bool := false
  mode : Option String := none
  comment : String := ""
  deriving Inhabited, Repr

namespace Rule

/-- The ids below this one belong to rules that are built into the source platform. -/
def firstOwnId : UInt32 := 1000

def hasCustom (rule : Rule) : Bool := rule.criteria.any Criterion.isCustom

def toTree (rule : Rule) : Tree :=
  Tree.object
    ([("id", .int rule.id.toNat), ("criteria", .list (Criterion.toTrees rule.criteria)),
        ("rule_type", .text rule.kind.name), ("disabled", .bool rule.disabled)] ++
      (rule.mode.map fun mode => ("mode", Tree.text mode)).toList ++
      [("comment", .text rule.comment)])

def fieldNames : List Tree.FieldNames :=
  [["id"], ["criteria"], ["rule_type"], ["disabled"], ["mode"], ["comment"]]

def ofTree? (form : Tree.RecordForm) (tree : Tree) : Option Rule :=
  match tree.fields form fieldNames with
  | some [id, criteria, kind, disabled, mode, comment] => do
    return {
      id := ← Tree.required Tree.word? id
      criteria := ← Tree.withDefault [] (Tree.listOf? form (Criterion.ofTree? form)) criteria
      kind := ← Tree.withDefault .deny (fun tree => tree.text?.map RuleKind.ofName) kind
      disabled := ← Tree.withDefault false Tree.bool? disabled
      mode := ← Tree.optional Tree.text? mode
      comment := ← Tree.withDefault "" Tree.text? comment }
  | _ => none

end Rule
end Admission
