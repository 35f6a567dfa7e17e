/-!
Trees of data as documents hold them: the common ground between the texts that are read, the objects
that are written, and the settings that a policy carries.

A part of a document can be well formed and yet have no value, such as a number beyond every range.
It may be skipped but not read, and stands here as `unreadable`.
-/

namespace Admission

/-- A tree of data. The keys of a map are trees themselves and keep the order of the document. -/
inductive Tree
  | null
  | bool (b : Bool)
  | int (n : Int)
  /-- A binary number of 64 bits, as its bit pattern. -/
  | float (bits : UInt64)
  | text (s : String)
  | list (items : List Tree)
  | map (entries : List (Tree × Tree))
  /-- A value under a tag that no reader knows. -/
  | tagged (tag : String) (value : Tree)
  | unreadable
  deriving Inhabited, Repr

namespace Tree

mutual

/-- Whether two trees are the same, where floats count by their bits. -/
def same : Tree → Tree → Bool
  | null, null => true
  | bool b, bool b' => b == b'
  | int n, int n' => n == n'
  | float bits, float bits' => bits == bits'
  | text s, text s' => s == s'
  | list items, list items' => sameItems items items'
  | map entries, map entries' => sameEntries entries entries'
  | tagged tag value, tagged tag' value' => tag == tag' && value.same value'
  | unreadable, unreadable => true
  | _, _ => false

def sameItems : List Tree → List Tree → Bool
  | [], [] => true
  | item :: items, item' :: items' => item.same item' && sameItems items items'
  | _, _ => false

def sameEntries : List (Tree × Tree) → List (Tree × Tree) → Bool
  | [], [] => true
  | (key, value) :: entries, (key', value') :: entries' =>
    key.same key' && value.same value' && sameEntries entries entries'
  | _, _ => false

end

mutual

theorem same_iff : (tree tree' : Tree) → tree.same tree' = true ↔ tree = tree'
  | list items, tree' => by cases tree' <;> simp [same, sameItems_iff items]
  | map entries, tree' => by cases tree' <;> simp [same, sameEntries_iff entries]
  | tagged tag value, tree' => by cases tree' <;> simp [same, same_iff value]
  | null, tree' | bool _, tree' | int _, tree' | float _, tree' | text _, tree'
  | unreadable, tree' => by cases tree' <;> simp [same]

theorem sameItems_iff : (items items' : List Tree) →
    sameItems items items' = true ↔ items = items'
  | [], items' => by cases items' <;> simp [sameItems]
  | item :: items, items' => by
    cases items' <;> simp [sameItems, same_iff item, sameItems_iff items]

theorem sameEntries_iff : (entries entries' : List (Tree × Tree)) →
    sameEntries entries entries' = true ↔ entries = entries'
  | [], entries' => by cases entries' <;> simp [sameEntries]
  | (key, value) :: entries, [] => by simp [sameEntries]
  | (key, value) :: entries, (key', value') :: entries' => by
    simp [sameEntries, same_iff key, same_iff value, sameEntries_iff entries]

end

instance : DecidableEq Tree := fun tree tree' => decidable_of_iff _ (same_iff tree tree')

def object (entries : List (String × Tree)) : Tree := map (entries.map fun e => (text e.1, e.2))

def texts (items : List String) : Tree := list (items.map text)

/-- The value below the tags. -/
def untag : Tree → Tree
  | tagged _ value => value.untag
  | tree => tree

def get? (name : String) : Tree → Option Tree
  | map entries => (entries.find? fun e => e.1 == text name).map Prod.snd
  | _ => none

mutual

def depth : Tree → Nat
  | list items => itemsDepth items + 1
  | map entries => entriesDepth entries + 1
  | tagged _ value => value.depth + 1
  | _ => 0

def itemsDepth : List Tree → Nat
  | [] => 0
  | item :: items => max item.depth (itemsDepth items)

def entriesDepth : List (Tree × Tree) → Nat
  | [] => 0
  | (key, value) :: entries => max (max key.depth value.depth) (entriesDepth entries)

end

end Tree
end Admission
