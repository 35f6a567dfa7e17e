import Admission.Json.Number

/-!
Reading JSON texts: strict syntax, one value with nothing but blanks around it.

What has the right syntax and yet no value stands in the tree as `unreadable`, so that it can be
skipped but not read: a text with half of a surrogate pair, a number beyond every range, a container
inside more than 127 others.
-/

namespace Admission.Json

/-- The containers around a value that may still be read. -/
def maxDepth : Nat := 127

def isBlank (c : Char) : Bool := c = ' ' || c = '\n' || c = '\t' || c = '\r'

def skipBlanks (cs : List Char) : List Char := cs.dropWhile isBlank

/-- One element between the quotes: a character, or a UTF-16 unit written as four digits. -/
inductive TextPart
  | char (c : Char)
  | unit (n : Nat)
  deriving DecidableEq, Repr

def hexDigit? (c : Char) : Option Nat :=
  if '0' ≤ c ∧ c ≤ '9' then some (c.toNat - '0'.toNat)
  else if 'a' ≤ c ∧ c ≤ 'f' then some (c.toNat - 'a'.toNat + 10)
  else if 'A' ≤ c ∧ c ≤ 'F' then some (c.toNat - 'A'.toNat + 10)
  else none

def shortEscape? : Char → Option Char
  | '"' => some '"'
  | '\\' => some '\\'
  | '/' => some '/'
  | 'b' => some '\x08'
  | 'f' => some '\x0c'
  | 'n' => some '\n'
  | 'r' => some '\r'
  | 't' => some '\t'
  | _ => none

def textParts : List Char → Option (List TextPart × List Char)
  | [] => none
  | '"' :: cs => some ([], cs)
  | '\\' :: 'u' :: a :: b :: c :: d :: cs => do
    let a ← hexDigit? a
    let b ← hexDigit? b
    let c ← hexDigit? c
    let d ← hexDigit? d
    let (parts, rest) ← textParts cs
    return (.unit (((a * 16 + b) * 16 + c) * 16 + d) :: parts, rest)
  | '\\' :: c :: cs => do
    let c ← shortEscape? c
    let (parts, rest) ← textParts cs
    return (.char c :: parts, rest)
  | c :: cs =>
    if c.toNat < 0x20 ∨ c = '\\' then none
    else do
      let (parts, rest) ← textParts cs
      return (.char c :: parts, rest)

/-- Joins the units to characters; half of a surrogate pair makes the text unreadable. -/
def joinParts : List TextPart → Option (List Char)
  | [] => some []
  | .char c :: parts => (joinParts parts).map (c :: ·)
  | .unit n :: parts =>
    if 0xD800 ≤ n ∧ n < 0xDC00 then
      match parts with
      | .unit m :: parts =>
        if 0xDC00 ≤ m ∧ m < 0xE000 then
          (joinParts parts).map (Char.ofNat (0x10000 + (n - 0xD800) * 0x400 + (m - 0xDC00)) :: ·)
        else none
      | _ => none
    else if 0xDC00 ≤ n ∧ n < 0xE000 then none
    else (joinParts parts).map (Char.ofNat n :: ·)

def text (cs : List Char) : Option (Tree × List Char) := do
  let (parts, rest) ← textParts cs
  return ((joinParts parts).elim .unreadable fun cs => .text (String.ofList cs), rest)

def digits? (cs : List Char) : Option (List Char × List Char) :=
  match cs.takeWhile Char.isDigit with
  | [] => none
  | found => some (found, cs.dropWhile Char.isDigit)

/-- The whole part: a zero alone, or digits that begin with another one. -/
def whole? (cs : List Char) : Option (List Char × List Char) :=
  match cs with
  | '0' :: rest => if rest.head?.any Char.isDigit then none else some (['0'], rest)
  | _ => digits? cs

def fraction? : List Char → Option (Option (List Char) × List Char)
  | '.' :: cs => (digits? cs).map fun (found, rest) => (some found, rest)
  | cs => some (none, cs)

def exponent? : List Char → Option (Option (Bool × List Char) × List Char)
  | c :: cs =>
    if c = 'e' ∨ c = 'E' then
      match cs with
      | '-' :: cs => (digits? cs).map fun (found, rest) => (some (true, found), rest)
      | '+' :: cs => (digits? cs).map fun (found, rest) => (some (false, found), rest)
      | _ => (digits? cs).map fun (found, rest) => (some (false, found), rest)
    else some (none, c :: cs)
  | [] => some (none, [])

def unsignedNumber (negative : Bool) (cs : List Char) : Option (Tree × List Char) := do
  let (whole, cs) ← whole? cs
  let (fraction, cs) ← fraction? cs
  let (exponent, cs) ← exponent? cs
  return (number negative whole fraction exponent, cs)

def container (depth : Nat) (tree : Tree) : Tree :=
  if depth < maxDepth then tree else .unreadable

mutual

def value : Nat → Nat → List Char → Option (Tree × List Char)
  | 0, _, _ => none
  | fuel + 1, depth, cs =>
    match cs with
    | 'n' :: 'u' :: 'l' :: 'l' :: rest => some (.null, rest)
    | 't' :: 'r' :: 'u' :: 'e' :: rest => some (.bool true, rest)
    | 'f' :: 'a' :: 'l' :: 's' :: 'e' :: rest => some (.bool false, rest)
    | '"' :: rest => text rest
    | '-' :: rest => unsignedNumber true rest
    | '[' :: rest =>
      match skipBlanks rest with
      | ']' :: rest => some (container depth (.list []), rest)
      | rest => (items fuel depth rest).map fun (found, rest) => (container depth (.list found), rest)
    | '{' :: rest =>
      match skipBlanks rest with
      | '}' :: rest => some (container depth (.map []), rest)
      | rest => (entries fuel depth rest).map fun (found, rest) => (container depth (.map found), rest)
    | _ => unsignedNumber false cs

def items : Nat → Nat → List Char → Option (List Tree × List Char)
  | 0, _, _ => none
  | fuel + 1, depth, cs => do
    let (item, rest) ← value fuel (depth + 1) cs
    match skipBlanks rest with
    | ',' :: rest =>
      let (found, rest) ← items fuel depth (skipBlanks rest)
      return (item :: found, rest)
    | ']' :: rest => return ([item], rest)
    | _ => none

def entries : Nat → Nat → List Char → Option (List (Tree × Tree) × List Char)
  | 0, _, _ => none
  | fuel + 1, depth, cs =>
    match cs with
    | '"' :: rest => do
      let (key, rest) ← text rest
      match skipBlanks rest with
      | ':' :: rest =>
        let (item, rest) ← value fuel (depth + 1) (skipBlanks rest)
        match skipBlanks rest with
        | ',' :: rest =>
          let (found, rest) ← entries fuel depth (skipBlanks rest)
          return ((key, item) :: found, rest)
        | '}' :: rest => return ([(key, item)], rest)
        | _ => none
      | _ => none
    | _ => none

end

/-- Reads a whole text. Every step of a list or map and every step into one takes a character. -/
def read (s : String) : Option Tree := do
  let cs := skipBlanks s.toList
  let (tree, rest) ← value (2 * cs.length + 1) 0 cs
  if skipBlanks rest = [] then some tree else none

end Admission.Json
