import Admission.Proofs.Tokens

/-!
Reading conditions: the tokens of a text are read as the brackets, the quantifiers and the strength
of the operators say. Main statement: the text of a condition in which each part binds as strongly
as its place asks for is read as that condition.
-/

namespace Admission.Cel

inductive Operand
  | text (term : Term)
  | texts (collection : Collection)
  deriving DecidableEq, Repr

def listed : List Token → Option (List String × List Token)
  | .mark ']' :: ts => some ([], ts)
  | .literal s :: .mark ']' :: ts => some ([s], ts)
  | .literal s :: .mark ',' :: ts => do
    let (found, ts) ← listed ts
    return (s :: found, ts)
  | _ => none

def var? (name : String) : Option Var :=
  if name = "p" then some .pattern else if name = "g" then some .group else none

def operand : List Token → Option (Operand × List Token)
  | .literal s :: ts => some (.text (.literal s), ts)
  | .mark '[' :: ts => do
    let (found, ts) ← listed ts
    return (.texts (.literals found), ts)
  | .word "request" :: .mark '.' :: .word "userInfo" :: .mark '.' :: .word name :: ts =>
    if name = "username" then some (.text .username, ts)
    else if name = "groups" then some (.texts .groups, ts)
    else none
  | .word name :: ts => (var? name).map fun v => (.text (.var v), ts)
  | _ => none

section
variable (condition : List Token → Option (Expression × List Token))

def quantified (make : Var → Expression → Expression) :
    List Token → Option (Expression × List Token)
  | .word name :: .mark ',' :: ts => do
    let v ← var? name
    let (body, .mark ')' :: ts) ← condition ts | none
    return (make v body, ts)
  | _ => none

def member : Operand → List Token → Option (Expression × List Token)
  | .text subject, .mark '.' :: .word "matches" :: .mark '(' :: ts => do
    let (.text pattern, .mark ')' :: ts) ← operand ts | none
    return (.matching subject pattern, ts)
  | .texts domain, .mark '.' :: .word name :: .mark '(' :: ts =>
    if name = "exists" then quantified condition (.exist domain) ts
    else if name = "all" then quantified condition (.all domain) ts
    else none
  | _, _ => none

/-- Reads a condition without operators outside of brackets. -/
def primary : List Token → Option (Expression × List Token)
  | .mark '(' :: ts => do
    let (body, .mark ')' :: ts) ← condition ts | none
    return (.parenthesized body, ts)
  | .word "has" :: ts =>
    match ts with
    | .mark '(' :: .word "object" :: .mark '.' :: .word "metadata" :: .mark '.' ::
        .word "namespace" :: .mark ')' :: ts => some (.hasNamespace, ts)
    | _ => none
  | ts => do
    let (found, ts) ← operand ts
    member condition found ts

def unary : List Token → Option (Expression × List Token)
  | .mark '!' :: ts => do
    let (body, ts) ← unary ts
    return (.negation body, ts)
  | ts => primary condition ts

def relation : List Token → Option (Expression × List Token)
  | .word "object" :: ts =>
    match ts with
    | .mark '.' :: .word "metadata" :: .mark '.' :: .word "namespace" :: .word "in" ::
        .mark '[' :: ts => do
      let (names, ts) ← listed ts
      return (.namespaceIn names, ts)
    | _ => none
  | ts => unary condition ts

def conjunction (ts : List Token) : Option (Expression × List Token) := do
  match ← relation condition ts with
  | (left, .both :: ts) =>
    let (right, ts) ← relation condition ts
    return (.conjunction left right, ts)
  | (left, ts) => return (left, ts)

end

/-- Reads a condition in which brackets are at most `fuel` deep. -/
def condition : Nat → List Token → Option (Expression × List Token)
  | 0, ts => conjunction (fun _ => none) ts
  | fuel + 1, ts => conjunction (condition fuel) ts

def read (s : String) : Option Expression := do
  let ts ← tokens? s
  let (e, rest) ← condition ts.length ts
  if rest = [] then some e else none

/-- Whether a negation may stand directly before the condition. -/
def Expression.isUnary : Expression → Bool
  | .namespaceIn _ => false
  | .conjunction _ _ => false
  | _ => true

/-- Whether the condition may be a part of a conjunction without parentheses. -/
def Expression.isRelation : Expression → Bool
  | .conjunction _ _ => false
  | _ => true

/-- Each part binds as strongly as its place asks for. -/
def Expression.WellFormed : Expression → Prop
  | .hasNamespace => True
  | .namespaceIn _ => True
  | .matching _ _ => True
  | .exist _ _ body => body.WellFormed
  | .all _ _ body => body.WellFormed
  | .negation body => body.isUnary ∧ body.WellFormed
  | .conjunction left right =>
    (left.isRelation ∧ left.WellFormed) ∧ right.isRelation ∧ right.WellFormed
  | .parenthesized body => body.WellFormed

def Expression.depth : Expression → Nat
  | .hasNamespace => 0
  | .namespaceIn _ => 0
  | .matching _ _ => 0
  | .exist _ _ body => body.depth + 1
  | .all _ _ body => body.depth + 1
  | .negation body => body.depth
  | .conjunction left right => max left.depth right.depth
  | .parenthesized body => body.depth + 1

theorem listed_listTokens (items : List String) (rest : List Token) :
    listed (listTokens items ++ rest) = some (items, rest) := by
  induction items with
  | nil => rfl
  | cons s items ih =>
    cases items with
    | nil => rfl
    | cons t items =>
      rw [listTokens, List.cons_append, List.cons_append, listed, ih]
      rfl

theorem var?_name (v : Var) : var? v.name = some v := by cases v <;> rfl

theorem operand_term (t : Term) (rest : List Token) :
    operand (t.tokens ++ rest) = some (.text t, rest) := by
  cases t with
  | username => rfl
  | var v => cases v <;> rfl
  | literal s => rfl

theorem operand_collection (d : Collection) (rest : List Token) :
    operand (d.tokens ++ rest) = some (.texts d, rest) := by
  cases d with
  | groups => rfl
  | literals items =>
    rw [Collection.tokens, List.cons_append, operand, listed_listTokens]
    rfl

section
variable {inner : List Token → Option (Expression × List Token)} {ts rest : List Token}

/-- The condition is read from its tokens, where no conjunction goes on. -/
def Reads (inner : List Token → Option (Expression × List Token)) (e : Expression) : Prop :=
  ∀ rest, rest.head? ≠ some .both → inner (e.tokens ++ rest) = some (e, rest)

theorem quantified_tokens {body : Expression} (h : Reads inner body)
    (make : Var → Expression → Expression) (v : Var) (rest : List Token) :
    quantified inner make (.word v.name :: .mark ',' :: (body.tokens ++ .mark ')' :: rest)) =
      some (make v body, rest) := by
  rw [quantified, var?_name, h _ (by simp)]
  rfl

/-- What begins with an operand is neither negated nor in parentheses. -/
theorem unary_of_operand {found : Operand} (h : operand ts = some (found, rest)) :
    unary inner ts = member inner found rest := by
  unfold unary
  split
  · simp [operand] at h
  · unfold primary
    split
    · simp [operand] at h
    · simp [operand, var?] at h
    · rw [h]
      rfl

/-- What begins like a comparison is not read otherwise. -/
theorem relation_of_unary {found : Expression × List Token} (h : unary inner ts = some found) :
    relation inner ts = some found := by
  unfold relation
  split
  · simp [unary, primary, operand, var?] at h
  · exact h

variable {n : Nat}
  (hinner : ∀ body : Expression, body.WellFormed → body.depth < n → Reads inner body)
include hinner

theorem unary_tokens {e : Expression} (h : e.WellFormed) (hunary : e.isUnary = true)
    (hdepth : e.depth ≤ n) : unary inner (e.tokens ++ rest) = some (e, rest) := by
  induction e with
  | hasNamespace => rfl
  | namespaceIn names => cases hunary
  | matching subject pattern =>
    have htokens : (Expression.matching subject pattern).tokens ++ rest = subject.tokens ++
        (.mark '.' :: .word "matches" :: .mark '(' :: (pattern.tokens ++ .mark ')' :: rest)) := by
      simp [Expression.tokens, opening]
    rw [htokens, unary_of_operand (operand_term subject _), member, operand_term]
    rfl
  | exist domain v body _ =>
    have hbody := hinner body h hdepth
    have htokens : (Expression.exist domain v body).tokens ++ rest = domain.tokens ++
        (.mark '.' :: .word "exists" :: .mark '(' :: .word v.name :: .mark ',' ::
          (body.tokens ++ .mark ')' :: rest)) := by
      simp [Expression.tokens, opening]
    rw [htokens, unary_of_operand (operand_collection domain _), member, if_pos rfl]
    exact quantified_tokens hbody (.exist domain) v rest
  | all domain v body _ =>
    have hbody := hinner body h hdepth
    have htokens : (Expression.all domain v body).tokens ++ rest = domain.tokens ++
        (.mark '.' :: .word "all" :: .mark '(' :: .word v.name :: .mark ',' ::
          (body.tokens ++ .mark ')' :: rest)) := by
      simp [Expression.tokens, opening]
    rw [htokens, unary_of_operand (operand_collection domain _), member, if_neg (by decide),
      if_pos rfl]
    exact quantified_tokens hbody (.all domain) v rest
  | negation body ih =>
    rw [Expression.tokens, List.cons_append, unary, ih h.2 h.1 hdepth]
    rfl
  | conjunction left right _ _ => cases hunary
  | parenthesized body _ =>
    have hbody := hinner body h hdepth (.mark ')' :: rest) (by simp)
    have htokens : (Expression.parenthesized body).tokens ++ rest =
        .mark '(' :: (body.tokens ++ .mark ')' :: rest) := by
      simp [Expression.tokens]
    rw [htokens, unary, primary, hbody]
    · rfl
    · simp

theorem relation_tokens {e : Expression} (h : e.WellFormed) (hrelation : e.isRelation = true)
    (hdepth : e.depth ≤ n) : relation inner (e.tokens ++ rest) = some (e, rest) := by
  cases e with
  | namespaceIn names =>
    change relation inner (_ :: _ :: _ :: _ :: _ :: _ :: _ :: (listTokens names ++ rest)) = _
    rw [relation, listed_listTokens]
    rfl
  | conjunction left right => cases hrelation
  | _ => exact relation_of_unary (unary_tokens hinner h rfl hdepth)

theorem conjunction_tokens {e : Expression} (h : e.WellFormed) (hdepth : e.depth ≤ n) :
    Reads (conjunction inner) e := by
  intro rest hrest
  by_cases hrelation : e.isRelation = true
  · unfold conjunction
    rw [relation_tokens hinner h hrelation hdepth]
    dsimp only [Option.bind_eq_bind, Option.bind_some]
    split
    · next heq =>
      cases heq
      exact absurd rfl hrest
    · next heq =>
      cases heq
      rfl
  · cases e with
    | conjunction left right =>
      obtain ⟨⟨hleft, hl⟩, hright, hr⟩ := h
      obtain ⟨hdl, hdr⟩ := Nat.max_le.1 hdepth
      have htokens : (Expression.conjunction left right).tokens ++ rest =
          left.tokens ++ .both :: (right.tokens ++ rest) := by
        simp [Expression.tokens]
      unfold conjunction
      rw [htokens, relation_tokens hinner hl hleft hdl]
      dsimp only [Option.bind_eq_bind, Option.bind_some]
      rw [relation_tokens hinner hr hright hdr]
      rfl
    | _ => exact absurd rfl hrelation

end

/-- A condition is read from its tokens if nothing is nested too deep. -/
theorem condition_tokens {n : Nat} {e : Expression} (h : e.WellFormed) (hdepth : e.depth ≤ n) :
    Reads (condition n) e := by
  induction n generalizing e with
  | zero => exact conjunction_tokens (fun _ _ hbody => absurd hbody (Nat.not_lt_zero _)) h hdepth
  | succ n ih =>
    exact conjunction_tokens (fun body hbody hlt => ih hbody (Nat.le_of_lt_succ hlt)) h hdepth

theorem depth_le_length (e : Expression) : e.depth ≤ e.tokens.length := by
  induction e with
  | hasNamespace => exact Nat.zero_le _
  | namespaceIn _ => exact Nat.zero_le _
  | matching _ _ => exact Nat.zero_le _
  | negation body ih => exact Nat.le_succ_of_le ih
  | conjunction left right hleft hright =>
    simp only [Expression.depth, Expression.tokens, List.length_append]
    omega
  | _ =>
    simp only [Expression.depth, Expression.tokens, List.length_append, List.length_singleton]
    omega

/-- The text of a well-formed condition reads as that condition. -/
theorem read_render {e : Expression} (h : e.WellFormed) : read e.render = some e := by
  have hcuts := e.cuts Cuts.nil _ (Nat.le_refl _)
  rw [List.append_nil, List.append_nil] at hcuts
  have hread := condition_tokens h (depth_le_length e) [] nofun
  rw [List.append_nil] at hread
  unfold read tokens?
  rw [hcuts]
  simp [hread]

/-- A negation binds more strongly than a conjunction, and less strongly than a call. -/
example : read "!g.matches(\"a\") && has(object.metadata.namespace)" =
    some (.conjunction (.negation (.matching (.var .group) (.literal "a"))) .hasNamespace) := by
  decide +kernel

end Admission.Cel
