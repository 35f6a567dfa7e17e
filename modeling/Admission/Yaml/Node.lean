import Admission.Yaml.Token

/-!
The nodes of YAML documents. A node may carry a tag and an anchor; an alias stands for the node with
an anchor of its document.
-/

namespace Admission.Yaml

/-- A node of a document. Anchors are numbered. -/
inductive Node
  | scalar (tag : Option String) (anchor : Option Nat) (style : ScalarStyle)
    (text : String)
  | sequence (tag : Option String) (anchor : Option Nat) (items : List Node)
  | mapping (tag : Option String) (anchor : Option Nat) (entries : List (Node × Node))
  | reference (anchor : Nat)
  deriving Inhabited, Repr

namespace Node

mutual

/-- The number of steps in which a node is told: two for a collection, one for anything else. -/
def eventCount : Node → Nat
  | sequence _ _ items => itemsCount items + 2
  | mapping _ _ entries => entriesCount entries + 2
  | _ => 1

def itemsCount : List Node → Nat
  | [] => 0
  | item :: items => item.eventCount + itemsCount items

def entriesCount : List (Node × Node) → Nat
  | [] => 0
  | (key, value) :: entries => key.eventCount + value.eventCount + entriesCount entries

end

def ownAnchor (anchor : Option Nat) (node : Node) : List (Nat × Node) :=
  (anchor.map fun n => (n, node)).toList

mutual

def anchored : Node → List (Nat × Node)
  | scalar tag anchor style text => ownAnchor anchor (scalar tag anchor style text)
  | sequence tag anchor items => ownAnchor anchor (sequence tag anchor items) ++ itemsAnchored items
  | mapping tag anchor entries =>
    ownAnchor anchor (mapping tag anchor entries) ++ entriesAnchored entries
  | reference _ => []

def itemsAnchored : List Node → List (Nat × Node)
  | [] => []
  | item :: items => item.anchored ++ itemsAnchored items

def entriesAnchored : List (Node × Node) → List (Nat × Node)
  | [] => []
  | (key, value) :: entries => key.anchored ++ value.anchored ++ entriesAnchored entries

end

/-- The node that an alias stands for: the last one with its anchor. -/
def resolve? (root : Node) (anchor : Nat) : Option Node :=
  (root.anchored.reverse.find? fun e => e.1 == anchor).map Prod.snd

end Node

inductive Document
  /-- The stream holds nothing at all. -/
  | void
  | broken
  | node (root : Node)
  deriving Inhabited, Repr

end Admission.Yaml
