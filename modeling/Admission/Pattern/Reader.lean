import Admission.Pattern.Bracket
import Admission.Text.Letter

/-!
Reading regular expressions. A text that is none, for one of a number of reasons, gives no tree: a
group or set left open, a repetition of nothing, an unknown escape, flag or property form, a group
name used twice, look-around, a reference back.
-/

namespace Admission.Pattern

def flagOf? : Char → Option Flag
  | 'i' => some .caseInsensitive
  | 'm' => some .multiLine
  | 's' => some .dotMatchesNewLine
  | 'U' => some .swapGreed
  | 'u' => some .unicode
  | 'R' => some .lineEndPairs
  | 'x' => some .verbose
  | _ => none

/-- A change of flags from its letters: those after a dash are turned off. There is one dash at most,
not at the end, and no flag comes up twice. -/
def flagChange? (letters : List Char) : Option FlagChange := do
  let on ← (letters.takeWhile (· ≠ '-')).mapM flagOf?
  let off ←
    match letters.dropWhile (· ≠ '-') with
    | [] => some []
    | ['-'] => none
    | _ :: rest => rest.mapM flagOf?
  if (on ++ off).Nodup then some { on, off } else none

def isNameStart (c : Char) : Bool := c = '_' || Text.CodePoints.contains Text.letter c.toNat

def isNamePart (c : Char) : Bool :=
  c = '_' || c = '.' || c = '[' || c = ']' || Text.CodePoints.contains Text.letterOrNumber c.toNat

def groupName? (cs : List Char) : Option (List Char × List Char) :=
  match cs.takeWhile (· ≠ '>'), cs.dropWhile (· ≠ '>') with
  | c :: name, _ :: rest =>
    if isNameStart c ∧ name.all isNamePart then some (c :: name, rest) else none
  | _, _ => none

inductive Opening
  | group (kind : GroupKind)
  | flags (change : FlagChange)
  deriving Repr

/-- Reads what follows an opening parenthesis up to the body of the group. -/
def opening (verbose : Bool) (cs : List Char) : Option (Opening × List Char) :=
  match skip verbose cs with
  | '?' :: 'P' :: '<' :: cs => (groupName? cs).map fun (name, rest) => (.group (.named name), rest)
  | '?' :: '=' :: _ => none
  | '?' :: '!' :: _ => none
  | '?' :: '<' :: '=' :: _ => none
  | '?' :: '<' :: '!' :: _ => none
  | '?' :: '<' :: cs => (groupName? cs).map fun (name, rest) => (.group (.named name), rest)
  | '?' :: cs => do
    let isEnd (c : Char) := c = ':' || c = ')'
    let letters := cs.takeWhile (!isEnd ·)
    let change ← flagChange? letters
    match cs.dropWhile (!isEnd ·) with
    | ':' :: rest => return (.group (.plain change), rest)
    | ')' :: rest => if letters = [] then none else return (.flags change, rest)
    | _ => none
  | cs => some (.group .numbered, cs)

def isRepeatable : Pattern → Bool
  | empty => false
  | flags _ => false
  | _ => true

def maxCount : Nat := UInt32.size - 1

/-- Digits, between which a verbose pattern lets blanks stand. -/
def countDigits (verbose : Bool) : Nat → List Char → List Char × List Char
  | 0, cs => ([], cs)
  | fuel + 1, cs =>
    match cs with
    | [] => ([], [])
    | c :: cs =>
      if c.isDigit then
        let (found, rest) := countDigits verbose fuel (skip verbose cs)
        (c :: found, rest)
      else ([], c :: cs)

def skipBlanks (verbose : Bool) (cs : List Char) : List Char :=
  match cs with
  | c :: _ => if Text.isBlank c then skip verbose (cs.dropWhile Text.isBlank) else cs
  | [] => []

/-- Reads a count with the blanks around it; there need not be one. -/
def count (verbose : Bool) (cs : List Char) : Option Nat × List Char :=
  let cs := cs.dropWhile Text.isBlank
  let (digits, rest) := countDigits verbose (cs.length + 1) cs
  let value := digits.foldl (fun n c => min (n * 10 + (c.toNat - '0'.toNat)) (maxCount + 1)) 0
  (if digits = [] ∨ maxCount < value then none else some value, skipBlanks verbose rest)

def counts (verbose : Bool) (cs : List Char) : Option ((Nat × Option Nat) × List Char) := do
  let (first, rest) := count verbose (skip verbose cs)
  let least ← first
  match rest with
  | '}' :: rest => return ((least, some least), rest)
  | ',' :: rest =>
    match skip verbose rest with
    | '}' :: rest => return ((least, none), rest)
    | rest =>
      let (second, rest) := count verbose rest
      let most ← second
      match rest with
      | '}' :: rest => if least ≤ most then return ((least, some most), rest) else none
      | _ => none
  | _ => none

def lazyMark (cs : List Char) : Bool × List Char :=
  match cs with
  | '?' :: rest => (false, rest)
  | _ => (true, cs)

/-- Where a reader stands in a sequence: the parts of the current branch and the branches before it,
both in reverse order, and the names of groups used so far. -/
structure Progress where
  verbose : Bool
  names : List (List Char)
  parts : List Pattern := []
  branches : List Pattern := []

namespace Progress

def push (p : Progress) (part : Pattern) : Progress := { p with parts := part :: p.parts }

def branch (p : Progress) : Progress :=
  { p with parts := [], branches := ofParts p.parts.reverse :: p.branches }

def result (p : Progress) : Pattern :=
  match p.branches with
  | [] => ofParts p.parts.reverse
  | branches => ofBranches (ofParts p.parts.reverse :: branches).reverse

def repeatLast (p : Progress) (least : Nat) (most : Option Nat) (greedy : Bool) :
    Option Progress :=
  match p.parts with
  | part :: parts =>
    if part.isRepeatable then some { p with parts := repetition least most greedy part :: parts }
    else none
  | [] => none

end Progress

/-- Reads a sequence to the end of the text, or inside a group to its closing parenthesis. -/
def sequence (inGroup : Bool) :
    Nat → Progress → List Char → Option (Progress × List Char)
  | 0, _, _ => none
  | fuel + 1, p, cs =>
    match skip p.verbose cs with
    | [] => if inGroup then none else some (p, [])
    | '(' :: cs => do
      let (begun, rest) ← opening p.verbose cs
      match begun with
      | .flags change =>
        sequence inGroup fuel
          { p.push (.flags change) with verbose := change.apply .verbose p.verbose } rest
      | .group kind =>
        let (names, verbose) ←
          match kind with
          | .named name => if name ∈ p.names then none else some (name :: p.names, p.verbose)
          | .plain change => some (p.names, change.apply .verbose p.verbose)
          | .numbered => some (p.names, p.verbose)
        let (inner, rest) ← sequence true fuel { verbose, names } rest
        sequence inGroup fuel { p.push (.group kind inner.result) with names := inner.names } rest
    | ')' :: cs => if inGroup then some (p, cs) else none
    | '|' :: cs => sequence inGroup fuel p.branch cs
    | '[' :: cs => do
      let (s, rest) ← bracket p.verbose cs
      sequence inGroup fuel (p.push (.set s)) rest
    | '?' :: cs => do
      let (greedy, rest) := lazyMark cs
      sequence inGroup fuel (← p.repeatLast 0 (some 1) greedy) rest
    | '*' :: cs => do
      let (greedy, rest) := lazyMark cs
      sequence inGroup fuel (← p.repeatLast 0 none greedy) rest
    | '+' :: cs => do
      let (greedy, rest) := lazyMark cs
      sequence inGroup fuel (← p.repeatLast 1 none greedy) rest
    | '{' :: cs => do
      let ((least, most), rest) ← counts p.verbose cs
      let (greedy, rest) := lazyMark (skip p.verbose rest)
      sequence inGroup fuel (← p.repeatLast least most greedy) rest
    | '\\' :: cs => do
      let (atom, rest) ← escape p.verbose cs
      let part :=
        match atom with
        | .literal l => .literal l
        | .assertion a => .assertion a
        | .set s => .set s
      sequence inGroup fuel (p.push part) rest
    | '.' :: cs => sequence inGroup fuel (p.push .any) cs
    | '^' :: cs => sequence inGroup fuel (p.push (.assertion .lineStart)) cs
    | '$' :: cs => sequence inGroup fuel (p.push (.assertion .lineEnd)) cs
    | c :: cs => sequence inGroup fuel (p.push (.literal ⟨c, false⟩)) cs

def read (cs : List Char) : Option Pattern :=
  (sequence false (cs.length + 1) { verbose := false, names := [] } cs).map fun (p, _) => p.result

end Admission.Pattern
