import Admission.Pattern
import Admission.Proofs.CelReader
import Admission.Proofs.WellFormed

/-!
Which requests a condition lets through. Main statement: the text of a condition on the user or the
groups, read as the language has it, holds of exactly the requests of which its criterion does not
hold, whatever it means that a name matches a pattern.
-/

namespace Admission

namespace Cel

/-- What a condition can see of a request. -/
structure Request where
  username : String
  groups : List String
  /-- The namespace, if the request is about something in one. -/
  namespaceName : Option String := none

def Term.value (request : Request) (bound : Var → String) : Term → String
  | .username => request.username
  | .var v => bound v
  | .literal s => s

def Collection.values (request : Request) : Collection → List String
  | .groups => request.groups
  | .literals items => items

section
variable (Matches : String → String → Prop) (request : Request)

def Expression.Holds : Expression → (Var → String) → Prop
  | .hasNamespace, _ => request.namespaceName ≠ none
  | .namespaceIn names, _ => ∃ name ∈ names, request.namespaceName = some name
  | .matching subject pattern, bound =>
    Matches (subject.value request bound) (pattern.value request bound)
  | .exist domain v body, bound =>
    ∃ s ∈ domain.values request, body.Holds (Function.update bound v s)
  | .all domain v body, bound =>
    ∀ s ∈ domain.values request, body.Holds (Function.update bound v s)
  | .negation body, bound => ¬ body.Holds bound
  | .conjunction left right, bound => left.Holds bound ∧ right.Holds bound
  | .parenthesized body, bound => body.Holds bound

end
end Cel

open Cel

namespace Criterion

/-- The names in a request that a criterion is about. -/
def identities (c : Criterion) (request : Cel.Request) : List String :=
  match c.topic? with
  | some .user => [request.username]
  | some .userGroups => request.groups
  | _ => []

def patterns (c : Criterion) : List String := c.items.map Pattern.ofWildcard

def HoldsOf (Matches : String → String → Prop) (request : Cel.Request) (c : Criterion) : Prop :=
  let names := c.identities request
  match Operator.ofText? c.operator with
  | some .containsAny => ∃ name ∈ names, ∃ p ∈ c.patterns, Matches name p
  | some .notContainsAny => ∀ name ∈ names, ∀ p ∈ c.patterns, ¬ Matches name p
  | some .containsAll => ∀ p ∈ c.patterns, ∃ name ∈ names, Matches name p
  | some .containsOtherThan => ∃ name ∈ names, ∀ p ∈ c.patterns, ¬ Matches name p
  | some .matching => ∃ name ∈ names, Matches name (Text.trim c.value)
  | some .notMatching => ∀ name ∈ names, ¬ Matches name (Text.trim c.value)
  | _ => False

end Criterion

namespace Settings

/-- The condition can be read back from its text, and it holds of exactly those requests of which
the criterion does not. -/
structure Validation.Negates (v : Validation) (c : Criterion) : Prop where
  isBlock : v.isBlock = false
  wellFormed : v.condition.WellFormed
  holds_iff : ∀ Matches request bound,
    v.condition.Holds Matches request bound ↔ ¬ c.HoldsOf Matches request

namespace Validation

section
variable {Matches : String → String → Prop} {request : Cel.Request} {bound : Var → String}

theorem holds_someMatch {patterns : List String} {subject : Term} (h : subject ≠ .var .pattern) :
    (someMatch patterns subject).Holds Matches request bound ↔
      ∃ p ∈ patterns, Matches (subject.value request bound) p := by
  have hvalue (p : String) : subject.value request (Function.update bound .pattern p) =
      subject.value request bound := by
    cases subject with
    | username => rfl
    | var v => exact Function.update_of_ne (fun hv => h (congrArg _ hv)) p bound
    | literal s => rfl
  have hself (p : String) :
      (Term.var .pattern).value request (Function.update bound .pattern p) = p := by
    rw [Term.value, Function.update_self]
  simp only [someMatch, Expression.Holds, Collection.values, hvalue, hself]

theorem holds_someGroup {body : Expression} :
    (someGroup body).Holds Matches request bound ↔
      ∃ name ∈ request.groups, body.Holds Matches request (Function.update bound .group name) :=
  Iff.rfl

theorem holds_someMatch_group {patterns : List String} {name : String} :
    (someMatch patterns (.var .group)).Holds Matches request (Function.update bound .group name) ↔
      ∃ p ∈ patterns, Matches name p := by
  rw [holds_someMatch (by decide), Term.value, Function.update_self]

end

variable [Pattern.Engine] {c : Criterion} {v : Validation}

/-- A condition on a list is made from the patterns of all items. -/
theorem ok_of_patterns {make : List String × List String → Except SettingsFault Validation}
    (h : patterns c >>= make = .ok v) : make (c.patterns, c.items) = .ok v := by
  obtain ⟨found, hfound, h⟩ := bind_eq_ok.1 h
  obtain ⟨given, hgiven, hfound⟩ := bind_eq_ok.1 hfound
  obtain ⟨made, hmade, hfound⟩ := bind_eq_ok.1 hfound
  obtain ⟨rfl, -⟩ := items_eq_ok_iff.1 hgiven
  have hsame {item p : String} (h : checkPattern c (Pattern.ofWildcard item) = .ok p) :
      id p = Pattern.ofWildcard item := by
    unfold checkPattern at h
    split at h <;> cases h
    rfl
  have hmap := map_of_mapM_eq_ok (fun _ _ h => hsame h) hmade
  rw [List.map_id] at hmap
  cases hmap
  cases pure_eq_ok.1 hfound
  exact h

/-- A condition on a regular expression is made from the whole value. -/
theorem ok_of_pattern {make : String → Except SettingsFault Validation}
    (h : pattern c >>= make = .ok v) : make (Text.trim c.value) = .ok v := by
  obtain ⟨p, hp, h⟩ := bind_eq_ok.1 h
  unfold pattern checkPattern at hp
  dsimp only at hp
  split at hp
  · cases hp
  · split at hp <;> cases hp
    exact h

theorem negates_of_ofUser (htopic : c.topic? = some .user) (h : ofUser c = .ok v) :
    v.Negates c := by
  have hnames (request : Cel.Request) : c.identities request = [request.username] := by
    rw [Criterion.identities, htopic]
  unfold ofUser at h
  split at h
  · next hoperator =>
    cases ok_of_patterns h
    refine ⟨rfl, ⟨rfl, trivial⟩, fun Matches request bound => ?_⟩
    rw [Criterion.HoldsOf, hoperator, hnames]
    simp [Expression.Holds, holds_someMatch, Term.value]
  · next hoperator =>
    cases ok_of_patterns h
    refine ⟨rfl, trivial, fun Matches request bound => ?_⟩
    rw [Criterion.HoldsOf, hoperator, hnames]
    simp [holds_someMatch, Term.value]
  · next hoperator =>
    cases ok_of_pattern h
    refine ⟨rfl, ⟨rfl, trivial⟩, fun Matches request bound => ?_⟩
    rw [Criterion.HoldsOf, hoperator, hnames]
    simp [Expression.Holds, Term.value]
  · next hoperator =>
    cases ok_of_pattern h
    refine ⟨rfl, trivial, fun Matches request bound => ?_⟩
    rw [Criterion.HoldsOf, hoperator, hnames]
    simp [Expression.Holds, Term.value]
  · cases h

theorem negates_of_ofGroups (htopic : c.topic? = some .userGroups) (h : ofGroups c = .ok v) :
    v.Negates c := by
  have hnames (request : Cel.Request) : c.identities request = request.groups := by
    rw [Criterion.identities, htopic]
  unfold ofGroups at h
  split at h
  · next hoperator =>
    cases ok_of_patterns h
    refine ⟨rfl, ⟨rfl, trivial⟩, fun Matches request bound => ?_⟩
    rw [Criterion.HoldsOf, hoperator, hnames]
    simp only [Expression.Holds, holds_someGroup, holds_someMatch_group]
  · next hoperator =>
    cases ok_of_patterns h
    refine ⟨rfl, ⟨rfl, trivial⟩, fun Matches request bound => ?_⟩
    rw [Criterion.HoldsOf, hoperator, hnames]
    simp [Expression.Holds, holds_someGroup, Collection.values, Term.value]
  · next hoperator =>
    cases ok_of_patterns h
    refine ⟨rfl, trivial, fun Matches request bound => ?_⟩
    rw [Criterion.HoldsOf, hoperator, hnames]
    simp [holds_someGroup, holds_someMatch_group]
  · next hoperator =>
    cases ok_of_patterns h
    refine ⟨rfl, trivial, fun Matches request bound => ?_⟩
    rw [Criterion.HoldsOf, hoperator, hnames]
    simp [Expression.Holds, holds_someMatch_group, Collection.values]
  · next hoperator =>
    cases ok_of_pattern h
    refine ⟨rfl, ⟨rfl, trivial⟩, fun Matches request bound => ?_⟩
    rw [Criterion.HoldsOf, hoperator, hnames]
    simp [Expression.Holds, holds_someGroup, Term.value]
  · next hoperator =>
    cases ok_of_pattern h
    refine ⟨rfl, trivial, fun Matches request bound => ?_⟩
    rw [Criterion.HoldsOf, hoperator, hnames]
    simp [Expression.Holds, holds_someGroup, Term.value]
  · cases h

theorem negates_of_ofCriterion (htopic : c.topic? = some .user ∨ c.topic? = some .userGroups)
    (h : ofCriterion c = .ok v) : v.Negates c := by
  unfold ofCriterion at h
  obtain htopic | htopic := htopic <;> rw [htopic] at h
  · exact negates_of_ofUser htopic h
  · exact negates_of_ofGroups htopic h

end Validation

/-- The item has a text under `expression` that is read as a condition, and the condition holds of
exactly those requests of which the criterion does not hold. -/
def NegatesIn (c : Criterion) (item : Tree) : Prop :=
  ∃ text e, item.get? "expression" = some (.text text) ∧ Cel.read text = some e ∧
    ∀ Matches request bound, e.Holds Matches request bound ↔ ¬ c.HoldsOf Matches request

theorem Validation.Negates.negatesIn {c : Criterion} {v : Validation} (h : v.Negates c) :
    NegatesIn c v.toTree := by
  refine ⟨v.condition.render, v.condition, ?_, read_render h.wellFormed, h.holds_iff⟩
  have hblock : v.asBlock v.condition.render = v.condition.render := by
    rw [Validation.asBlock, h.isBlock, if_neg Bool.false_ne_true]
  rw [Validation.toTree, hblock]
  rfl

/-- There is one condition for each criterion, in their order, and each that is for a criterion on
the user or the groups is its exact negation. -/
theorem negations_of_settings [Pattern.Engine] {source : ScanSource} {criteria : List Criterion}
    {settings : Tree} (h : Module.cel.settings source criteria = .ok settings) :
    ∃ items, settings.get? "validations" = some (.list items) ∧
      List.Forall₂ (fun c item => c.topic? = some .user ∨ c.topic? = some .userGroups →
        NegatesIn c item) criteria items := by
  obtain ⟨conditions, hconditions, rfl⟩ := map_eq_ok.1 h
  unfold Conditions.ofCriteria at hconditions
  split at hconditions
  · cases hconditions
  · obtain ⟨validations, hvalidations, hmade⟩ := bind_eq_ok.1 hconditions
    cases pure_eq_ok.1 hmade
    refine ⟨validations.map Validation.toTree, rfl, ?_⟩
    rw [List.forall₂_map_right_iff]
    exact (mapM_eq_ok.1 hvalidations).imp fun c v hv htopic =>
      (Validation.negates_of_ofCriterion htopic hv).negatesIn

def accounts : List Criterion :=
  [{ name := "user", operator := "!regex", value := "^svc-.*" },
    { name := "userGroups", operator := "containsOtherThan", value := "dev, ops-*" }]

theorem negations_of_accounts :
    ∃ settings items, Module.cel.settings ⟨"default", "linux"⟩ accounts = .ok settings ∧
      settings.get? "validations" = some (.list items) ∧ List.Forall₂ NegatesIn accounts items := by
  obtain ⟨settings, h⟩ : Succeeds (Module.cel.settings ⟨"default", "linux"⟩ accounts) := by
    decide +kernel
  obtain ⟨items, hitems, hall⟩ := negations_of_settings h
  refine ⟨settings, items, h, hitems, ?_⟩
  cases hall with
  | cons huser hall =>
    cases hall with
    | cons hgroups hall =>
      cases hall
      exact .cons (huser (by decide)) (.cons (hgroups (by decide)) .nil)

end Settings
end Admission
