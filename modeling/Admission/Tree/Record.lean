import Admission.Tree

/-!
Reading records out of trees. A record has its fields in a fixed order, and a field may be known by
several names. Documents differ in what else may stand for a record, which `RecordForm` says.

A name that no field has is skipped together with its value. A field given twice is refused.
-/

namespace Admission.Tree

/-- What may stand for a record beside a map keyed by field names. -/
structure RecordForm where
  /-- A list of the leading fields in order. -/
  fromList : Bool
  /-- Nothing, for the record and for a list alike. -/
  fromNull : Bool
  /-- A map keyed by the positions of the fields. -/
  byPosition : Bool
  deriving DecidableEq, Repr

/-- The names of a field, the usual one first. -/
abbrev FieldNames := List String

def isKey (form : RecordForm) : Tree → Bool
  | text _ => true
  | int n => form.byPosition && 0 ≤ n
  | tagged _ key => key.isKey form
  | _ => false

def addresses (names : FieldNames) (position : Nat) : Tree → Bool
  | text s => names.contains s
  | int n => n = position
  | tagged _ key => key.addresses names position
  | _ => false

def field? (entries : List (Tree × Tree)) (names : FieldNames) (position : Nat) :
    Option (Option Tree) :=
  match entries.filter fun e => e.1.addresses names position with
  | [] => some none
  | [e] => some (some e.2)
  | _ => none

def fieldsFrom (entries : List (Tree × Tree)) : Nat → List FieldNames → Option (List (Option Tree))
  | _, [] => some []
  | position, names :: rest => do
    let value ← field? entries names position
    let values ← fieldsFrom entries (position + 1) rest
    return value :: values

/-- The values of the fields of a record, `none` for an absent one. -/
def fields (form : RecordForm) (names : List FieldNames) (tree : Tree) :
    Option (List (Option Tree)) :=
  match tree.untag with
  | map entries =>
    if entries.all fun e => e.1.isKey form then fieldsFrom entries 0 names else none
  | list items =>
    if form.fromList && items.length ≤ names.length then
      some (items.map some ++ List.replicate (names.length - items.length) none)
    else none
  | null => if form.fromNull then some (names.map fun _ => none) else none
  | _ => none

def text? (tree : Tree) : Option String :=
  match tree.untag with
  | text s => some s
  | _ => none

def bool? (tree : Tree) : Option Bool :=
  match tree.untag with
  | bool b => some b
  | _ => none

/-- An integer of 32 bits without sign. -/
def word? (tree : Tree) : Option UInt32 :=
  match tree.untag with
  | int n => if 0 ≤ n ∧ n < UInt32.size then some (UInt32.ofNat n.toNat) else none
  | _ => none

def items? (form : RecordForm) (tree : Tree) : Option (List Tree) :=
  match tree.untag with
  | list items => some items
  | null => if form.fromNull then some [] else none
  | _ => none

def listOf? {α : Type} (form : RecordForm) (read : Tree → Option α) (tree : Tree) :
    Option (List α) :=
  (tree.items? form).bind fun items => items.mapM read

def required {α : Type} (read : Tree → Option α) (value : Option Tree) : Option α :=
  value.bind read

def withDefault {α : Type} (default : α) (read : Tree → Option α) : Option Tree → Option α
  | none => some default
  | some tree => read tree

def optional {α : Type} (read : Tree → Option α) : Option Tree → Option (Option α)
  | none => some none
  | some null => some none
  | some tree => (read tree).map some

end Admission.Tree
