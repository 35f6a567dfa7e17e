import Admission.Yaml.Node.Reader
import Admission.Yaml.Scalar

/-!
The data that documents hold, with every alias replaced by what it stands for. Collections are nested
at most 128 deep, and aliases are followed at most a hundred times as often as a document has events.
-/

namespace Admission.Yaml

/-- The containers that may stand inside each other. -/
def maxNesting : Nat := 128

/-- How often the aliases of a document may be followed. -/
def maxJumps (root : Node) : Nat := 100 * root.eventCount

def readItems (read : Node → Nat → Option (Tree × Nat)) :
    List Node → Nat → Option (List Tree × Nat)
  | [], jumps => some ([], jumps)
  | item :: items, jumps => do
    let (item, jumps) ← read item jumps
    let (items, jumps) ← readItems read items jumps
    return (item :: items, jumps)

def readEntries (read : Node → Nat → Option (Tree × Nat)) :
    List (Node × Node) → Nat → Option (List (Tree × Tree) × Nat)
  | [], jumps => some ([], jumps)
  | (key, value) :: entries, jumps => do
    let (key, jumps) ← read key jumps
    let (value, jumps) ← read value jumps
    let (entries, jumps) ← readEntries read entries jumps
    return ((key, value) :: entries, jumps)

def underTag (tag : Option String) (value : Tree) : Tree :=
  match localTag? tag with
  | some name => .tagged name value
  | none => value

def follow? (root node : Node) (jumps : Nat) : Option (Node × Nat) :=
  match node with
  | .reference anchor =>
    if jumps < maxJumps root then (root.resolve? anchor).map fun node => (node, jumps + 1) else none
  | node => some (node, jumps)

/-- The value of a node with at most `depth` levels of collections. -/
def nodeValue? (root : Node) : Nat → Node → Nat → Option (Tree × Nat)
  | depth, node, jumps => do
    let (node, jumps) ← follow? root node jumps
    match node with
    | .scalar tag _ style s => return (← scalarValue? tag (style = .plain) s, jumps)
    | .sequence tag _ items =>
      match depth with
      | 0 => none
      | depth + 1 =>
        let (items, jumps) ← readItems (nodeValue? root depth) items jumps
        return (underTag tag (.list items), jumps)
    | .mapping tag _ entries =>
      match depth with
      | 0 => none
      | depth + 1 =>
        let (entries, jumps) ← readEntries (nodeValue? root depth) entries jumps
        return (underTag tag (.map entries), jumps)
    | .reference _ => none

def Document.value? : Document → Option Tree
  | .void => some .null
  | .broken => none
  | .node root => (nodeValue? root maxNesting root 0).map Prod.fst

def distinctKeys : List (Tree × Tree) → Bool
  | [] => true
  | e :: entries => !(entries.any fun other => other.1 == e.1) && distinctKeys entries

mutual

/-- Whether every part has a value, and no map has two entries with one key. -/
def isSound : Tree → Bool
  | .unreadable => false
  | .list items => areSound items
  | .map entries => distinctKeys entries && entriesSound entries
  | .tagged _ value => isSound value
  | _ => true

def areSound : List Tree → Bool
  | [] => true
  | item :: items => isSound item && areSound items

def entriesSound : List (Tree × Tree) → Bool
  | [] => true
  | (key, value) :: entries => isSound key && isSound value && entriesSound entries

end

/-- The data of a document as a value of its own, before anyone asks for a certain form. -/
def Document.soundValue? (document : Document) : Option Tree := document.value?.filter isSound

def single? (s : String) : Option Document :=
  match documents s with
  | [document] => some document
  | _ => none

end Admission.Yaml
