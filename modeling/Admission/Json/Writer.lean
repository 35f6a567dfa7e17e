import Admission.Number.Binary64
import Admission.Tree

/-!
Writing JSON texts: compact, the entries of a map in their order, and no character escaped that may
stand for itself.
-/

namespace Admission.Json

def escape (c : Char) : List Char :=
  match c with
  | '"' => ['\\', '"']
  | '\\' => ['\\', '\\']
  | '\x08' => ['\\', 'b']
  | '\t' => ['\\', 't']
  | '\n' => ['\\', 'n']
  | '\x0c' => ['\\', 'f']
  | '\r' => ['\\', 'r']
  | c =>
    if c.toNat < 0x20 then
      ['\\', 'u', '0', '0', Nat.digitChar (c.toNat / 16), Nat.digitChar (c.toNat % 16)]
    else [c]

def quoteChars (cs : List Char) : List Char := '"' :: (cs.flatMap escape ++ ['"'])

def quote (s : String) : String := String.ofList (quoteChars s.toList)

mutual

/-- The tree on one line. What has no value of its own in JSON is written as null. -/
def compact : Tree → String
  | .null => "null"
  | .bool true => "true"
  | .bool false => "false"
  | .int n => toString n
  | .float bits => if Number.Binary64.isFinite bits then Number.Binary64.toText bits else "null"
  | .text s => quote s
  | .list items => "[" ++ ",".intercalate (compactItems items) ++ "]"
  | .map entries => "\x7b" ++ ",".intercalate (compactEntries entries) ++ "\x7d"
  | .tagged _ tree => compact tree
  | .unreadable => "null"

def compactItems : List Tree → List String
  | [] => []
  | item :: items => compact item :: compactItems items

def compactEntries : List (Tree × Tree) → List String
  | [] => []
  | (key, value) :: entries => (compact key ++ ":" ++ compact value) :: compactEntries entries

end

end Admission.Json
