import Admission.Pattern.Property
import Admission.Pattern.Reader
import Admission.Pattern.Wildcard

/-!
An engine that runs: which texts are regular expressions. What can be read must also be nested at most
250 deep, and where it is not read by characters it must match no byte beyond ASCII.
-/

namespace Admission.Pattern

def maxNesting : Nat := 250

mutual

def CharSet.nesting : CharSet → Nat
  | .union parts => if parts.isEmpty then 0 else partsNesting parts + 1
  | .combine _ left right => max left.nesting right.nesting + 1
  | .bracketed _ body => body.nesting + 1
  | _ => 0

def CharSet.partsNesting : List CharSet → Nat
  | [] => 0
  | part :: parts => max part.nesting (partsNesting parts)

end

mutual

def nesting : Pattern → Nat
  | set s =>
    match s with
    | .bracketed .. => s.nesting
    | _ => 0
  | repetition _ _ _ body => body.nesting + 1
  | group _ body => body.nesting + 1
  | concat parts => partsNesting parts + 1
  | alternation branches => partsNesting branches + 1
  | _ => 0

def partsNesting : List Pattern → Nat
  | [] => 0
  | part :: parts => max part.nesting (partsNesting parts)

end

/-- Whether a character can stand where the pattern is read by characters or by bytes. -/
def Literal.fits (unicode : Bool) (l : Literal) : Bool :=
  unicode || !l.isByte || l.char.toNat < 0x80

/-- Whether a member of a set can stand there; a set of bytes holds ASCII characters only. -/
def Literal.fitsSet (unicode : Bool) (l : Literal) : Bool := unicode || l.char.toNat < 0x80

mutual

def CharSet.fits (unicode : Bool) : CharSet → Bool
  | .literal l => l.fitsSet unicode
  | .range first last => first.fitsSet unicode && last.fitsSet unicode
  | .shorthand _ negated => unicode || !negated
  | .property query _ => unicode && query.isKnown
  | .ascii _ negated => unicode || !negated
  | .union parts => partsFit unicode parts
  | .combine _ left right => left.fits unicode && right.fits unicode
  | .bracketed negated body => (unicode || !negated) && body.fits unicode

def CharSet.partsFit (unicode : Bool) : List CharSet → Bool
  | [] => true
  | part :: parts => part.fits unicode && partsFit unicode parts

end

mutual

/-- Whether every part of the pattern fits the flags at its place; the result is the state in which
the next part begins. -/
def fits (unicode : Bool) : Pattern → Option Bool
  | any => if unicode then some unicode else none
  | literal l => if l.fits unicode then some unicode else none
  | set s => if s.fits unicode then some unicode else none
  | flags change => some (change.apply .unicode unicode)
  | repetition _ _ _ body => fits unicode body
  | group kind body => do
    let inner :=
      match kind with
      | .plain change => change.apply .unicode unicode
      | _ => unicode
    let _ ← fits inner body
    return unicode
  | concat parts => partsFit unicode parts
  | alternation branches => partsFit unicode branches
  | empty => some unicode
  | assertion _ => some unicode

def partsFit (unicode : Bool) : List Pattern → Option Bool
  | [] => some unicode
  | part :: parts => do
    let unicode ← fits unicode part
    partsFit unicode parts

end

def isValid (s : String) : Bool :=
  match read s.toList with
  | none => false
  | some p => p.nesting ≤ maxNesting && (p.fits true).isSome

/-- The engine that takes every regular expression, however large it grows when it is compiled. -/
instance : Engine where
  accepts := isValid

end Admission.Pattern
