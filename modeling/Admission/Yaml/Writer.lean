import Admission.Yaml.Cursor
import Admission.Yaml.Scalar

/-!
Writing data as YAML documents in block style. Every level is indented by two more columns, but a
sequence in a mapping is not; lines are never folded.

A text is written plain where that reads back as the same text. One with line feeds becomes a block,
where blocks can hold it; all others are quoted, in single quotes if nothing needs an escape.
-/

namespace Admission.Yaml

def isPrintable (c : Char) : Bool :=
  let n := c.toNat
  n == 0x0A || (0x20 ≤ n && n ≤ 0x7E) || (0xA0 ≤ n && n ≤ 0xFFFD && n != 0xFEFF) || 0x10000 ≤ n

/-- Whether two neighbours pass two tests somewhere. -/
def hasPair (p q : Char → Bool) : List Char → Bool
  | a :: b :: cs => (p a && q b) || hasPair p q (b :: cs)
  | _ => false

def isSpace (c : Char) : Bool := c = ' '

def endsWord (c : Option Char) : Bool := c.all fun c => isBlank c || isBreak c || c = '\x00'

/-- Whether a colon stands at the end of a word, or a number sign at the beginning of one, behind the
first character. -/
def hasInnerSign : Char → List Char → Bool
  | _, [] => false
  | before, c :: cs =>
    (c = ':' && endsWord cs.head?) || (c = '#' && endsWord (some before)) || hasInnerSign c cs

/-- Whether a text begins, or goes on, in a way that has a meaning of its own. -/
def hasSign (cs : List Char) : Bool :=
  match cs with
  | [] => false
  | c :: rest =>
    ['-', '-', '-'].isPrefixOf cs || ['.', '.', '.'].isPrefixOf cs ||
      "#,[]\x7b\x7d&*!|>'\"%@`".toList.contains c ||
      ((c = '?' || c = ':' || c = '-') && endsWord rest.head?) ||
      hasInnerSign c rest

/-- Whether a text needs escapes: it holds a character that cannot be shown, or a space before a line
end. -/
def needsEscapes (cs : List Char) : Bool :=
  cs.any (fun c => !isPrintable c) || hasPair isSpace isBreak cs

def allowsSingle (cs : List Char) : Bool := !needsEscapes cs && !hasPair isBreak isSpace cs

def allowsBlock (cs : List Char) : Bool := cs ≠ [] && !needsEscapes cs && cs.getLast? ≠ some ' '

def allowsPlain (cs : List Char) : Bool :=
  !needsEscapes cs && !cs.any isBreak && !hasSign cs && cs.head? ≠ some ' ' &&
    cs.getLast? ≠ some ' '

def isAmbiguous (s : String) : Bool :=
  match plainValue s with
  | .text _ => hasLeadingZero s.toList
  | _ => true

inductive Style
  | plain
  | single
  | double
  | block
  deriving DecidableEq, Repr

/-- How a text is written. A key has to stay on one line. -/
def style (isKey : Bool) (s : String) : Style :=
  let cs := s.toList
  if cs.contains '\n' then if allowsBlock cs && !isKey then .block else .double
  else if isKey && cs.any isBreak then .double
  else if !isAmbiguous s && allowsPlain cs then .plain
  else if allowsSingle cs then .single
  else .double

def spaces (n : Nat) : List Char := List.replicate n ' '

def indentedFrom (indent : Nat) (isStart : Bool) : List Char → List Char
  | [] => []
  | c :: cs =>
    if isBreak c then c :: indentedFrom indent true cs
    else if isStart then spaces indent ++ c :: indentedFrom indent false cs
    else c :: indentedFrom indent false cs

/-- What stands in single quotes: a quote is written twice, and a line is indented. -/
def singleFrom (indent : Nat) (isStart : Bool) : List Char → List Char
  | [] => if isStart then spaces indent else []
  | c :: cs =>
    if isBreak c then c :: singleFrom indent true cs
    else
      (if isStart then spaces indent else []) ++ (if c = '\'' then ['\'', '\''] else [c]) ++
        singleFrom indent false cs

def hexDigits (places n : Nat) : List Char :=
  let digits := (Nat.toDigits 16 n).map Char.toUpper
  List.replicate (places - digits.length) '0' ++ digits

def escapeLetter? (c : Char) : Option Char :=
  match c with
  | '\x00' => some '0'
  | '\x07' => some 'a'
  | '\x08' => some 'b'
  | '\t' => some 't'
  | '\n' => some 'n'
  | '\x0b' => some 'v'
  | '\x0c' => some 'f'
  | '\r' => some 'r'
  | '\x1b' => some 'e'
  | '"' => some '"'
  | '\\' => some '\\'
  | '\x85' => some 'N'
  | '\u2028' => some 'L'
  | '\u2029' => some 'P'
  | _ => none

def escaped (c : Char) : List Char :=
  match escapeLetter? c with
  | some letter => ['\\', letter]
  | none =>
    if isPrintable c then [c]
    else if c.toNat ≤ 0xFF then ['\\', 'x'] ++ hexDigits 2 c.toNat
    else if c.toNat ≤ 0xFFFF then ['\\', 'u'] ++ hexDigits 4 c.toNat
    else ['\\', 'U'] ++ hexDigits 8 c.toNat

/-- The head of a block: the indentation, if the text does not show it, and what becomes of the line
ends behind it. -/
def blockHead (cs : List Char) : List Char :=
  let hint := if cs.head?.any fun c => isSpace c || isBreak c then ['2'] else []
  let ending :=
    match cs.reverse with
    | last :: rest =>
      if !isBreak last then ['-']
      else if rest.head?.all isBreak then ['+']
      else []
    | [] => ['-']
  '|' :: (hint ++ ending ++ ['\n'])

/-- The text of a scalar. What does not end a line of its own is followed by a line feed. -/
def scalarChars (indent : Nat) (s : String) : List Char :=
  let cs := s.toList
  match style false s with
  | .plain => cs ++ ['\n']
  | .single => '\'' :: (singleFrom indent false cs ++ ['\'', '\n'])
  | .double => '"' :: (cs.flatMap escaped ++ ['"', '\n'])
  | .block =>
    blockHead cs ++ indentedFrom indent true cs ++
      if cs.getLast?.any isBreak then [] else ['\n']

def keyChars (s : String) : List Char :=
  let cs := s.toList
  match style true s with
  | .plain => cs
  | .double => '"' :: (cs.flatMap escaped ++ ['"'])
  | _ => '\'' :: (singleFrom 0 false cs ++ ['\''])

def simpleChars : Tree → List Char
  | .null => "null".toList
  | .bool true => "true".toList
  | .bool false => "false".toList
  | .int n => (toString n).toList
  | .float bits =>
    if Number.Binary64.isFinite bits then (Number.Binary64.toText bits).toList
    else if Number.Binary64.magnitude bits ≠ Number.Binary64.infinity then ".nan".toList
    else if Number.Binary64.isNegative bits then "-.inf".toList
    else ".inf".toList
  | _ => []

def emptyList : List Char := ['[', ']', '\n']
def emptyMap : List Char := ['{', '}', '\n']

def nameChars : Tree → List Char
  | .text s => keyChars s
  | .tagged _ tree => nameChars tree
  | tree => simpleChars tree

mutual

/-- Writes a tree as the item of a sequence that stands at a column. -/
def itemChars (column : Nat) : Tree → List Char
  | .text s => scalarChars (column + 2) s
  | .list items => if items.isEmpty then emptyList else sequenceChars (column + 2) true items
  | .map entries => if entries.isEmpty then emptyMap else mappingChars (column + 2) true entries
  | .tagged _ tree => itemChars column tree
  | tree => simpleChars tree ++ ['\n']

/-- Writes a tree as the value of a mapping that stands at a column. -/
def valueChars (column : Nat) : Tree → List Char
  | .text s => ' ' :: scalarChars (column + 2) s
  | .list items =>
    if items.isEmpty then ' ' :: emptyList else '\n' :: sequenceChars column false items
  | .map entries =>
    if entries.isEmpty then ' ' :: emptyMap else '\n' :: mappingChars (column + 2) false entries
  | .tagged _ tree => valueChars column tree
  | tree => ' ' :: (simpleChars tree ++ ['\n'])

/-- Writes the items of a sequence at a column, which the first item may have reached. -/
def sequenceChars (column : Nat) (isReached : Bool) : List Tree → List Char
  | [] => []
  | item :: items =>
    (if isReached then [] else spaces column) ++
      '-' :: ' ' :: (itemChars column item ++ sequenceChars column false items)

def mappingChars (column : Nat) (isReached : Bool) : List (Tree × Tree) → List Char
  | [] => []
  | (key, value) :: entries =>
    (if isReached then [] else spaces column) ++
      nameChars key ++ ':' :: (valueChars column value ++ mappingChars column false entries)

end

def documentChars : Tree → List Char
  | .text s => scalarChars 2 s
  | .list items => if items.isEmpty then emptyList else sequenceChars 0 true items
  | .map entries => if entries.isEmpty then emptyMap else mappingChars 0 true entries
  | .tagged _ tree => documentChars tree
  | tree => simpleChars tree ++ ['\n']

/-- The line between two documents. -/
def separator : List Char := "---\n".toList

def streamChars (documents : List Tree) : List Char :=
  separator.intercalate (documents.map documentChars)

def stream (documents : List Tree) : String := String.ofList (streamChars documents)

end Admission.Yaml
