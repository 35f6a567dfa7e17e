import Admission.Conversion.Routing
import Admission.Policy

/-!
The namespace gate. A criterion that denies in the listed namespaces makes a policy that runs only
there; one that denies everywhere else makes a policy that runs everywhere else.
-/

namespace Admission

def namespaceLabel : String := "kubernetes.io/metadata.name"

def SelectorOperator.ofGate? (operator : String) : Option SelectorOperator :=
  match Operator.ofText? operator with
  | some .containsAny => some inValues
  | some .notContainsAny => some notInValues
  | _ => none

def Selector.ofGate (c : Criterion) : Except Failure Selector :=
  match SelectorOperator.ofGate? c.operator with
  | none => .error (.unsupportedOperator c.operator)
  | some operator =>
    if c.items = [] then .error (.settings .noNamespaces)
    else .ok ⟨[{ key := namespaceLabel, operator, values := c.items }]⟩

/-- The selector of a rule: none without a namespace criterion, and never from two. -/
def Rule.selector (rule : Rule) : Except Failure (Option Selector) :=
  match rule.gates with
  | [] => .ok none
  | c :: _ => (Selector.ofGate c).map some

/-- Checks that the gate is single and that something is left to enforce, then gives the selector. -/
def Rule.gate (rule : Rule) : Except Failure (Option Selector) :=
  if 1 < rule.gates.length then .error .severalGates
  else if rule.checks = [] then .error .nothingEnforceable
  else rule.selector

end Admission
