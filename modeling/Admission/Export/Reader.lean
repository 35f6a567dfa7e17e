import Admission.Export.Basic
import Admission.Json.Reader
import Admission.Tree.Record
import Admission.Yaml.Value

namespace Admission.Export

open Admission.Tree

/-- In the exports of the interface a list of its fields may stand for a record. -/
def interfaceForm : RecordForm := { fromList := true, fromNull := false, byPosition := false }

/-- In resources nothing counts as a record without fields, or as a list without items. -/
def resourceForm : RecordForm := { fromList := false, fromNull := true, byPosition := false }

def criterionWithin (form : RecordForm) : Nat → Tree → Option ExportedCriterion
  | 0, _ => none
  | fuel + 1, tree =>
    match tree.fields form Criterion.fieldNames with
    | some [name, operator, value, parts] => do
      return {
        name := ← withDefault "" text? name
        operator := ← withDefault "" text? operator
        value := ← withDefault "" text? value
        parts := ← optional (listOf? form (criterionWithin form fuel)) parts }
    | _ => none

def criterion? (form : RecordForm) (tree : Tree) : Option ExportedCriterion :=
  criterionWithin form (tree.depth + 1) tree

def criteria? (form : RecordForm) : Option Tree → Option (Option (List ExportedCriterion)) :=
  optional (listOf? form (criterion? form))

def interfaceRule? (tree : Tree) : Option InterfaceRule :=
  match tree.fields interfaceForm
      [["id"], ["comment"], ["criteria"], ["disable"], ["rule_type"], ["rule_mode"]] with
  | some [id, comment, criteria, disabled, kind, mode] => do
    return {
      id := ← optional word? id
      comment := ← withDefault "" text? comment
      criteria := ← criteria? interfaceForm criteria
      disabled := ← withDefault false bool? disabled
      kind := ← optional text? kind
      mode := ← optional text? mode }
  | _ => none

def interface? (tree : Tree) : Option (Option (List InterfaceRule)) :=
  match tree.fields interfaceForm [["rules"]] with
  | some [rules] => optional (listOf? interfaceForm interfaceRule?) rules
  | _ => none

def resourceRule? (tree : Tree) : Option ResourceRule :=
  match tree.fields resourceForm
      [["id", "conversion_id_ref"], ["action"], ["comment"], ["criteria"], ["disabled"],
        ["rule_mode"]] with
  | some [id, kind, comment, criteria, disabled, mode] => do
    return {
      id := ← optional word? id
      kind := ← optional text? kind
      comment := ← optional text? comment
      criteria := ← criteria? resourceForm criteria
      disabled := ← optional bool? disabled
      mode := ← optional text? mode }
  | _ => none

def resource? (tree : Tree) : Option (Option (List ResourceRule)) :=
  match tree.fields resourceForm [["spec"]] with
  | some [specification] => (optional specification? specification).map Option.join
  | _ => none
where
  specification? (tree : Tree) : Option (Option (List ResourceRule)) :=
    match tree.fields resourceForm [["rules"]] with
    | some [rules] => optional (listOf? resourceForm resourceRule?) rules
    | _ => none

/-- Reads a document of a stream; `none` stands for one that has no value. -/
def Document.ofTree : Option Tree → Document
  | none => .broken
  | some .null => .void
  | some tree =>
    match resource? tree with
    | some rules => .resource rules
    | none => .broken

def readInterface (s : String) : Except Failure (List Rule) :=
  match (Json.read s).bind interface? with
  | some rules => .ok (ofInterface rules)
  | none => .error (.input .notJson)

def readResources (s : String) : Except Failure (List Rule) :=
  ofDocuments ((Yaml.documents s).map fun document => .ofTree document.soundValue?)

inductive Dialect
  | interface
  | resources
  deriving DecidableEq, Repr

/-- The last part of a path, without slashes and single dots at the end. -/
def lastPart (path : List Char) : List Char :=
  let parts := (Text.cutAt '/' path).reverse.dropWhile fun part => part = [] ∨ part = ['.']
  parts.head?.getD []

/-- What follows the last dot of the last part, unless the part begins there or is two dots. -/
def extension? (path : List Char) : Option (List Char) :=
  let name := lastPart path
  if name = ['.', '.'] then none
  else
    match name.reverse.takeWhile (· ≠ '.'), name.reverse.dropWhile (· ≠ '.') with
    | ending, _ :: front => if front = [] then none else some ending.reverse
    | _, [] => none

def Dialect.ofPath (path : String) : Dialect :=
  match extension? path.toList with
  | some ending =>
    if String.ofList ending = "yaml" ∨ String.ofList ending = "yml" then resources else interface
  | none => interface

def Dialect.read : Dialect → String → Except Failure (List Rule)
  | interface, s => readInterface s
  | resources, s => readResources s

end Admission.Export
