import Admission.Json.Writer

/-!
The fragment of the Common Expression Language in which conditions on requests are written: what a
request says of its user and namespace, literals, matching a pattern, and quantifiers over lists of
texts. `render` gives the text of an expression.
-/

namespace Admission.Cel

inductive Var
  /-- One of the patterns. -/
  | pattern
  /-- One of the groups. -/
  | group
  deriving DecidableEq, Repr

inductive Term
  | username
  | var (v : Var)
  | literal (s : String)
  deriving DecidableEq, Repr

inductive Collection
  | groups
  | literals (items : List String)
  deriving DecidableEq, Repr

inductive Expression
  | hasNamespace
  | namespaceIn (names : List String)
  | matching (subject pattern : Term)
  | exist (domain : Collection) (v : Var) (body : Expression)
  | all (domain : Collection) (v : Var) (body : Expression)
  | negation (body : Expression)
  | conjunction (left right : Expression)
  /-- The same condition in parentheses. -/
  | parenthesized (body : Expression)
  deriving DecidableEq, Repr

def Var.name : Var → String
  | .pattern => "p"
  | .group => "g"

def Term.render : Term → String
  | .username => "request.userInfo.username"
  | .var v => v.name
  | .literal s => Json.quote s

def quotedList (separator : String) (items : List String) : String :=
  separator.intercalate (items.map Json.quote)

def Collection.render : Collection → String
  | .groups => "request.userInfo.groups"
  | .literals items => "[" ++ quotedList "," items ++ "]"

def Expression.render : Expression → String
  | .hasNamespace => "has(object.metadata.namespace)"
  | .namespaceIn names => "object.metadata.namespace in [" ++ quotedList ", " names ++ "]"
  | .matching subject pattern => subject.render ++ ".matches(" ++ pattern.render ++ ")"
  | .exist domain v body => domain.render ++ ".exists(" ++ v.name ++ ", " ++ body.render ++ ")"
  | .all domain v body => domain.render ++ ".all(" ++ v.name ++ ", " ++ body.render ++ ")"
  | .negation body => "!" ++ body.render
  | .conjunction left right => left.render ++ " && " ++ right.render
  | .parenthesized body => "(" ++ body.render ++ ")"

namespace Expression

variable {domain : Collection} {v : Var} {body left right : Expression}

theorem render_hasNamespace : hasNamespace.render = "has(object.metadata.namespace)" := rfl

theorem render_namespaceIn {names : List String} : (namespaceIn names).render =
    "object.metadata.namespace in [" ++ quotedList ", " names ++ "]" := rfl

theorem render_matching {subject pattern : Term} : (matching subject pattern).render =
    subject.render ++ ".matches(" ++ pattern.render ++ ")" := rfl

theorem render_exist : (exist domain v body).render =
    domain.render ++ ".exists(" ++ v.name ++ ", " ++ body.render ++ ")" := rfl

theorem render_all : (all domain v body).render =
    domain.render ++ ".all(" ++ v.name ++ ", " ++ body.render ++ ")" := rfl

theorem render_negation : (negation body).render = "!" ++ body.render := rfl

theorem render_conjunction : (conjunction left right).render =
    left.render ++ " && " ++ right.render := rfl

theorem render_parenthesized : (parenthesized body).render = "(" ++ body.render ++ ")" := rfl

end Expression
end Admission.Cel
