import Admission.Pattern.Escape

/-!
Sets of characters in brackets: members, ranges, named classes, sets inside sets, and operators that
combine what stands to their left and right.
-/

namespace Admission.Pattern

def asciiClasses : List String :=
  ["alnum", "alpha", "ascii", "blank", "cntrl", "digit", "graph", "lower", "print", "punct", "space",
    "upper", "word", "xdigit"]

/-- Reads an ASCII class after its opening bracket; anything else is a set of its own. -/
def asciiClass? (cs : List Char) : Option (CharSet × List Char) :=
  match cs with
  | ':' :: cs =>
    let (negated, cs) :=
      match cs with
      | '^' :: cs => (true, cs)
      | _ => (false, cs)
    let name := String.ofList (cs.takeWhile (· ≠ ':'))
    match cs.dropWhile (· ≠ ':') with
    | ':' :: ']' :: rest => if asciiClasses.contains name then some (.ascii name negated, rest) else none
    | _ => none
  | _ => none

/-- The next character behind the current one. In a verbose pattern blanks do not count, nor one
number sign. -/
def peek (verbose : Bool) (cs : List Char) : Option Char :=
  if !verbose then cs.head?
  else
    match cs.dropWhile Text.isBlank with
    | [] => cs.head?
    | '#' :: rest => ((rest.dropWhile Text.isBlank).head?).or cs.head?
    | c :: _ => some c

def member (verbose : Bool) : List Char → Option (Atom × List Char)
  | [] => none
  | '\\' :: cs => escape verbose cs
  | c :: cs => some (.literal ⟨c, false⟩, cs)

def Atom.toSet? : Atom → Option CharSet
  | .literal l => some (.literal l)
  | .set s => some s
  | .assertion _ => none

def Atom.literal? : Atom → Option Literal
  | .literal l => some l
  | _ => none

/-- Reads a member or a range. A dash before a closing bracket or another dash makes no range. -/
def memberOrRange (verbose : Bool) (cs : List Char) : Option (CharSet × List Char) := do
  let (first, rest) ← member verbose cs
  match skip verbose rest with
  | [] => none
  | '-' :: after =>
    let next := peek verbose after
    if next = some ']' ∨ next = some '-' then return (← first.toSet?, '-' :: after)
    else
      let (last, rest) ← member verbose (skip verbose after)
      let first ← first.literal?
      let last ← last.literal?
      if first.char ≤ last.char then return (.range first last, rest) else none
  | rest => return (← first.toSet?, rest)

/-- The dashes in front of a set are members. -/
def leadingDashes (verbose : Bool) : Nat → List Char → List CharSet × List Char
  | 0, cs => ([], cs)
  | fuel + 1, cs =>
    match cs with
    | '-' :: cs =>
      let (found, rest) := leadingDashes verbose fuel (skip verbose cs)
      (.literal ⟨'-', false⟩ :: found, rest)
    | cs => ([], cs)

/-- Reads the beginning of a set after its opening bracket: whether it is negated, and the members
that stand first, where a closing bracket is a member if nothing precedes it. -/
def openBracket (verbose : Bool) (cs : List Char) : Bool × List CharSet × List Char :=
  let cs := skip verbose cs
  let (negated, cs) :=
    match cs with
    | '^' :: cs => (true, skip verbose cs)
    | _ => (false, cs)
  let (dashes, cs) := leadingDashes verbose cs.length cs
  match dashes, cs with
  | [], ']' :: cs => (negated, [.literal ⟨']', false⟩], skip verbose cs)
  | _, _ => (negated, dashes, cs)

abbrev Operand := Option (SetOperator × CharSet)

def joinOperand (left : Operand) (right : CharSet) : CharSet :=
  match left with
  | some (operator, left) => .combine operator left right
  | none => right

/-- Reads the rest of a set up to its closing bracket. The members found since the last operator are
in reverse order. -/
def setBody (verbose : Bool) :
    Nat → Operand → List CharSet → List Char → Option (CharSet × List Char)
  | 0, _, _, _ => none
  | fuel + 1, left, found, cs =>
    let operand := joinOperand left (CharSet.ofParts found.reverse)
    match skip verbose cs with
    | [] => none
    | ']' :: cs => some (operand, cs)
    | '&' :: '&' :: cs => setBody verbose fuel (some (.intersection, operand)) [] cs
    | '-' :: '-' :: cs => setBody verbose fuel (some (.difference, operand)) [] cs
    | '~' :: '~' :: cs => setBody verbose fuel (some (.symmetricDifference, operand)) [] cs
    | '[' :: cs =>
      match asciiClass? cs with
      | some (s, rest) => setBody verbose fuel left (s :: found) rest
      | none => do
        let (negated, first, rest) := openBracket verbose cs
        let (body, rest) ← setBody verbose fuel none first.reverse rest
        setBody verbose fuel left (.bracketed negated body :: found) rest
    | cs => do
      let (s, rest) ← memberOrRange verbose cs
      setBody verbose fuel left (s :: found) rest

def bracket (verbose : Bool) (cs : List Char) : Option (CharSet × List Char) := do
  let (negated, first, rest) := openBracket verbose cs
  let (body, rest) ← setBody verbose (cs.length + 1) none first.reverse rest
  return (.bracketed negated body, rest)

end Admission.Pattern
