import Admission.Pattern.Basic
import Admission.Text.Blank

/-!
What a backslash introduces in a regular expression. In verbose patterns blanks may stand between
most characters, and a number sign begins a comment that ends with the line.
-/

namespace Admission.Pattern

def skipFrom (inComment : Bool) : List Char → List Char
  | [] => []
  | c :: cs =>
    if inComment then skipFrom (c ≠ '\n') cs
    else if Text.isBlank c then skipFrom false cs
    else if c = '#' then skipFrom true cs
    else c :: cs

/-- Skips what a verbose pattern lets stand between characters. -/
def skip (verbose : Bool) (cs : List Char) : List Char :=
  if verbose then skipFrom false cs else cs

inductive Atom
  | literal (l : Literal)
  | assertion (a : Assertion)
  | set (s : CharSet)
  deriving Repr

def isMeta (c : Char) : Bool :=
  "\\.+*?()|[]\x7b\x7d^$#&-~".toList.contains c

/-- Whether a backslash may stand in front of a character that means itself. -/
def isEscapable (c : Char) : Bool :=
  isMeta c || (c.toNat < 0x80 && !c.isAlphanum && c ≠ '<' && c ≠ '>')

def hexDigit? (c : Char) : Option Nat :=
  if '0' ≤ c ∧ c ≤ '9' then some (c.toNat - '0'.toNat)
  else if 'a' ≤ c ∧ c ≤ 'f' then some (c.toNat - 'a'.toNat + 10)
  else if 'A' ≤ c ∧ c ≤ 'F' then some (c.toNat - 'A'.toNat + 10)
  else none

def charOf? (n : Nat) : Option Char := if n.isValidChar then some (Char.ofNat n) else none

def hexDigits (verbose : Bool) : Nat → Nat → List Char → Option (Nat × List Char)
  | 0, value, cs => some (value, cs)
  | places + 1, value, cs =>
    match cs with
    | [] => none
    | c :: cs => (hexDigit? c).bind fun d => hexDigits verbose places (value * 16 + d) (skip verbose cs)

/-- Reads hexadecimal digits up to a closing brace; `seen` tells whether there was one. -/
def hexUntilBrace (verbose : Bool) : Nat → Bool → Nat → List Char → Option (Nat × List Char)
  | 0, _, _, _ => none
  | fuel + 1, seen, value, cs =>
    match cs with
    | [] => none
    | '}' :: cs => if seen then some (value, skip verbose cs) else none
    | c :: cs =>
      (hexDigit? c).bind fun d =>
        hexUntilBrace verbose fuel true (min (value * 16 + d) UInt32.size) (skip verbose cs)

def codePoint (verbose : Bool) (places : Nat) (cs : List Char) : Option (Atom × List Char) :=
  match skip verbose cs with
  | [] => none
  | '{' :: cs => do
    let cs := skip verbose cs
    let (n, rest) ← hexUntilBrace verbose (cs.length + 1) false 0 cs
    return (.literal ⟨← charOf? n, false⟩, rest)
  | cs => do
    let (n, rest) ← hexDigits verbose places 0 cs
    return (.literal ⟨← charOf? n, places = 2⟩, rest)

def untilBrace (verbose : Bool) : Nat → List Char → Option (List Char × List Char)
  | 0, _ => none
  | fuel + 1, cs =>
    match cs with
    | [] => none
    | '}' :: cs => some ([], cs)
    | c :: cs =>
      (untilBrace verbose fuel (skip verbose cs)).map fun (found, rest) => (c :: found, rest)

def splitAt? (mark : List Char) : List Char → Option (List Char × List Char)
  | [] => none
  | c :: cs =>
    if mark.isPrefixOf (c :: cs) then some ([], (c :: cs).drop mark.length)
    else (splitAt? mark cs).map fun (front, back) => (c :: front, back)

/-- Name and value are set apart by an inequality sign, else a colon, else an equals sign. -/
def propertyQuery (cs : List Char) : PropertyQuery × Bool :=
  match splitAt? ['!', '='] cs with
  | some (name, value) => (.valued name value, true)
  | none =>
    match (splitAt? [':'] cs).or (splitAt? ['='] cs) with
    | some (name, value) => (.valued name value, false)
    | none => (.named cs, false)

def property (verbose negated : Bool) (cs : List Char) : Option (Atom × List Char) :=
  match skip verbose cs with
  | [] => none
  | '{' :: cs => do
    let cs := skip verbose cs
    let (name, rest) ← untilBrace verbose (cs.length + 1) cs
    let (query, inverted) := propertyQuery name
    return (.set (.property query (negated != inverted)), rest)
  | '\\' :: _ => none
  | c :: cs => some (.set (.property (.named [c]) negated), skip verbose cs)

def isBoundaryLetter (c : Char) : Bool := c.isAlpha || c = '-'

def boundaryName (verbose : Bool) : Nat → List Char → List Char × List Char
  | 0, cs => ([], cs)
  | fuel + 1, cs =>
    match cs with
    | [] => ([], [])
    | c :: cs =>
      if isBoundaryLetter c then
        let (name, rest) := boundaryName verbose fuel (skip verbose cs)
        (c :: name, rest)
      else ([], c :: cs)

def boundaryOfName? (name : String) : Option Assertion :=
  if name = "start" then some .wordStart
  else if name = "end" then some .wordEnd
  else if name = "start-half" then some .wordStartHalf
  else if name = "end-half" then some .wordEndHalf
  else none

/-- Reads what follows the letter of a word boundary: a name in braces, or nothing. A brace that no
letter follows belongs to a repetition. -/
def boundary (verbose : Bool) (cs : List Char) : Option (Atom × List Char) :=
  match cs with
  | '{' :: inner =>
    match skip verbose inner with
    | [] => none
    | c :: inner =>
      if isBoundaryLetter c then
        let (name, rest) := boundaryName verbose (inner.length + 2) (c :: inner)
        match rest with
        | '}' :: rest => (boundaryOfName? (String.ofList name)).map fun a => (.assertion a, rest)
        | _ => none
      else some (.assertion .wordBoundary, cs)
  | _ => some (.assertion .wordBoundary, cs)

def controlOf? : Char → Option Char
  | 'a' => some '\x07'
  | 'f' => some '\x0c'
  | 't' => some '\t'
  | 'n' => some '\n'
  | 'r' => some '\r'
  | 'v' => some '\x0b'
  | _ => none

def escape (verbose : Bool) : List Char → Option (Atom × List Char)
  | [] => none
  | c :: cs =>
    match c with
    | 'x' => codePoint verbose 2 cs
    | 'u' => codePoint verbose 4 cs
    | 'U' => codePoint verbose 8 cs
    | 'p' => property verbose false cs
    | 'P' => property verbose true cs
    | 'd' => some (.set (.shorthand .digit false), cs)
    | 'D' => some (.set (.shorthand .digit true), cs)
    | 's' => some (.set (.shorthand .space false), cs)
    | 'S' => some (.set (.shorthand .space true), cs)
    | 'w' => some (.set (.shorthand .word false), cs)
    | 'W' => some (.set (.shorthand .word true), cs)
    | 'A' => some (.assertion .textStart, cs)
    | 'z' => some (.assertion .textEnd, cs)
    | 'b' => boundary verbose cs
    | 'B' => some (.assertion .notWordBoundary, cs)
    | '<' => some (.assertion .wordStart, cs)
    | '>' => some (.assertion .wordEnd, cs)
    | c =>
      if isEscapable c then some (.literal ⟨c, false⟩, cs)
      else (controlOf? c).map fun c => (.literal ⟨c, false⟩, cs)

end Admission.Pattern
