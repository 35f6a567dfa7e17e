import Admission.Failure
import Admission.Rule

/-!
Writing bundles out: a criterion of a bundle topic is replaced, where it stands, by criteria of the
topics in the bundle. Every other criterion stays as it is.
-/

namespace Admission

namespace Criterion

def isBundle (c : Criterion) : Bool := c.topic?.any Topic.isBundle

def bundle? (name : String) : Option (List Criterion) :=
  if (Topic.ofName? name).any Topic.isBundle then some (Topic.bundled.map ofBundled) else none

/-- The criteria that stand for a criterion. -/
def expand (c : Criterion) : Except Failure (List Criterion) :=
  match bundle? c.name with
  | none => .ok [c]
  | some criteria =>
    if c.topic?.any fun topic => topic.accepts c.operator then .ok criteria
    else .error (.unsupportedOperator c.operator)

end Criterion

def expandAll : List Criterion → Except Failure (List Criterion)
  | [] => .ok []
  | c :: cs => do
    let front ← c.expand
    let back ← expandAll cs
    return front ++ back

def Rule.expand (rule : Rule) : Except Failure Rule := do
  let criteria ← expandAll rule.criteria
  return { rule with criteria }

theorem expandAll_append (xs ys : List Criterion) :
    expandAll (xs ++ ys) = (do
      let front ← expandAll xs
      let back ← expandAll ys
      return front ++ back) := by
  induction xs with
  | nil =>
    cases h : expandAll ys <;> simp [expandAll, h, bind, Except.bind, pure, Except.pure]
  | cons c cs ih =>
    simp only [List.cons_append, expandAll, ih]
    cases c.expand <;> cases expandAll cs <;> cases expandAll ys <;>
      simp [bind, Except.bind, pure, Except.pure]

end Admission
