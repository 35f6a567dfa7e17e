import Admission.Failure
import Admission.Rule

/-!
Where the criteria of a rule go: to the module that checks them, or to the namespace gate. A rule
needs a policy group as soon as its checks reach more than one module.
-/

namespace Admission

namespace Criterion

def isGate (c : Criterion) : Bool := c.topic?.any Topic.isGate

def module? (c : Criterion) : Option Module := c.topic?.bind Topic.module?

/-- The module that can check the criterion, which fails for unknown and unsupported ones. -/
def route (c : Criterion) : Except Failure Module :=
  match c.module? with
  | some m => .ok m
  | none => .error (.unsupportedCriterion c.name)

/-- What tells the criteria of one policy from those of another: the module, or the name where no
module is known. -/
def routeKey (c : Criterion) : String := (c.module?.map Module.reference).getD c.name

/-- Checks that the criterion can be enforced. Custom criteria are not enforced by modules. -/
def validate (c : Criterion) : Except Failure Unit :=
  if c.isCustom then .ok ()
  else
    match c.topic? with
    | none => .error (.unsupportedCriterion c.name)
    | some topic =>
      if topic.module?.isNone then .error (.unsupportedCriterion c.name)
      else if topic.accepts c.operator then .ok ()
      else .error (.unsupportedOperator c.operator)

end Criterion

namespace Rule

/-- Checks the id, the kind, the disabled flag, then the criteria in order. -/
def validate (rule : Rule) : Except Failure Unit :=
  if rule.id < firstOwnId then .error (.builtIn rule.id)
  else if rule.kind ≠ .deny then .error (.unsupportedKind rule.kind.name)
  else if rule.disabled then .error .disabled
  else rule.criteria.forM Criterion.validate

def checks (rule : Rule) : List Criterion := rule.criteria.filter fun c => !c.isGate

def gates (rule : Rule) : List Criterion := rule.criteria.filter Criterion.isGate

def needsGroup (rule : Rule) : Bool :=
  rule.checks.any (fun c => c.topic?.any Topic.isBundle) ||
    match rule.checks.map Criterion.routeKey with
    | [] => false
    | key :: keys => keys.any (· ≠ key)

end Rule
end Admission
