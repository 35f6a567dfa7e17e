import Admission.Yaml.Token
import Admission.Yaml.Token.Scalar

namespace Admission.Yaml

def seesNameEnd (c : Cursor) : Bool :=
  c.seesWordEnd 0 || (c.look 0).any fun x => "?:,]\x7d%@`".toList.contains x

def anchorName? (c : Cursor) : Option (List Char × Cursor) :=
  let (name, c) := (c.skip 1).span isWordChar
  if name ≠ [] ∧ seesNameEnd c then some (name, c) else none

/-- Whether a character may stand in a tag; a full one may hold a few more. -/
def isTagChar (isFull : Bool) (x : Char) : Bool :=
  isWordChar x || ";/?:@&=+$.%!~*'()".toList.contains x ||
    (isFull && (x = ',' || x = '[' || x = ']'))

def escapedByte? (cs : List Char) : Option Nat :=
  match cs with
  | '%' :: rest => hexNumber? 2 rest
  | _ => none

def byteCount? (b : Nat) : Option Nat :=
  if b < 0x80 then some 1
  else if b / 0x20 = 6 then some 2
  else if b / 0x10 = 14 then some 3
  else if b / 0x08 = 30 then some 4
  else none

def continuation? : Nat → Nat → List Char → Option Nat
  | 0, value, _ => some value
  | places + 1, value, cs => do
    let b ← escapedByte? cs
    if b / 0x40 = 2 then continuation? places (value * 0x40 + b % 0x40) (cs.drop 3) else none

def escapedChar? (c : Cursor) : Option (Char × Cursor) := do
  let b ← escapedByte? c.rest
  let count ← byteCount? b
  let lead := if count = 1 then b else b % (1 <<< (7 - count))
  let n ← continuation? (count - 1) lead (c.rest.drop 3)
  return (if n.isValidChar then Char.ofNat n else '\ufffd', c.skip (3 * count))

def tagChars (isFull : Bool) : Nat → Cursor → Option (List Char × Cursor)
  | 0, _ => none
  | fuel + 1, c =>
    match c.rest with
    | [] => some ([], c)
    | x :: _ =>
      if !isTagChar isFull x then some ([], c)
      else do
        let (x, c) ← if x = '%' then escapedChar? c else some (x, c.skip 1)
        let (found, rest) ← tagChars isFull fuel c
        return (x :: found, rest)

def tagText? (isFull : Bool) (known : List Char) (c : Cursor) : Option (List Char × Cursor) := do
  let (found, rest) ← tagChars isFull c.bound c
  if known = [] ∧ found = [] then none else some (known.drop 1 ++ found, rest)

/-- Reads a handle: an exclamation mark, then perhaps a word and another mark. -/
def tagHandle? (c : Cursor) : Option (List Char × Cursor) :=
  if c.sees 0 '!' then
    let (word, rest) := (c.skip 1).span isWordChar
    if rest.sees 0 '!' then some ('!' :: (word ++ ['!']), rest.skip 1) else some ('!' :: word, rest)
  else none

/-- Reads a tag: in angle brackets, or with a handle, or with the handle of one mark. A tag that is
one mark has no handle. -/
def tag? (inFlow : Bool) (c : Cursor) : Option (Token × Cursor) := do
  let (handle, suffix, c) ←
    if c.sees 1 '<' then do
      let (suffix, c) ← tagText? true [] (c.skip 2)
      if c.sees 0 '>' then some ([], suffix, c.skip 1) else none
    else do
      let (handle, c) ← tagHandle? c
      if 1 < handle.length ∧ handle.getLast? = some '!' then do
        let (suffix, c) ← tagText? false [] c
        some (handle, suffix, c)
      else do
        let (suffix, c) ← tagText? false handle c
        if suffix = [] then some ([], ['!'], c) else some (['!'], suffix, c)
  if c.seesWordEnd 0 ∨ (inFlow ∧ c.sees 0 ',') then some (.tag handle suffix, c) else none

/-- Reads a part of a version, of nine digits at most. -/
def versionNumber? (c : Cursor) : Option (Nat × Cursor) :=
  let (digits, rest) := c.span Char.isDigit
  if digits = [] ∨ 9 < digits.length then none
  else some (digits.foldl (fun n x => n * 10 + (x.toNat - '0'.toNat)) 0, rest)

def versionDirective? (c : Cursor) : Option (Token × Cursor) := do
  let (major, c) ← versionNumber? c.skipBlanks
  if c.sees 0 '.' then
    let (minor, c) ← versionNumber? (c.skip 1)
    return (.versionDirective major minor, c)
  else none

def tagDirective? (c : Cursor) : Option (Token × Cursor) := do
  let (handle, c) ← tagHandle? c.skipBlanks
  if 1 < handle.length ∧ handle.getLast? ≠ some '!' then none
  else if !c.seesBlank 0 then none
  else
    let (head, c) ← tagText? true [] c.skipBlanks
    if c.seesWordEnd 0 then some (.tagDirective handle head, c) else none

def directive? (c : Cursor) : Option (Token × Cursor) := do
  let (name, c) := (c.skip 1).span isWordChar
  if !c.seesWordEnd 0 then none
  else
    let (token, c) ←
      if String.ofList name = "YAML" then versionDirective? c
      else if String.ofList name = "TAG" then tagDirective? c
      else none
    let c := c.skipBlanks.skipComment
    if c.seesLineEnd 0 then some (token, c.nextLine) else none

end Admission.Yaml
