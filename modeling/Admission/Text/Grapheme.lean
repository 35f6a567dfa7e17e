import Admission.Text.Cluster

namespace Admission.Text

inductive BreakClass
  | carriageReturn
  | lineFeed
  | control
  | extend
  | joiner
  | regional
  | prepended
  | spacing
  | leading
  | vowel
  | trailing
  | openSyllable
  | closedSyllable
  | pictograph
  | other
  deriving DecidableEq, Repr

def isModifier (c : Char) : Bool := 0x1F3FB ≤ c.toNat && c.toNat ≤ 0x1F3FF

def isPictograph (c : Char) : Bool := CodePoints.contains pictograph c.toNat

def zeroWidthJoiner : Char := '\u200d'

def breakClass (c : Char) : BreakClass :=
  let n := c.toNat
  if c = '\r' then .carriageReturn
  else if c = '\n' then .lineFeed
  else if c = zeroWidthJoiner then .joiner
  else if CodePoints.contains extender n ∨ isModifier c then .extend
  else if CodePoints.contains separating n then .control
  else if 0x1F1E6 ≤ n ∧ n ≤ 0x1F1FF then .regional
  else if CodePoints.contains prepended n then .prepended
  else if CodePoints.contains spacingMark n then .spacing
  else if (0x1100 ≤ n ∧ n < 0x1160) ∨ (0xA960 ≤ n ∧ n < 0xA97D) then .leading
  else if (0x1160 ≤ n ∧ n < 0x11A8) ∨ (0xD7B0 ≤ n ∧ n < 0xD7C7) then .vowel
  else if (0x11A8 ≤ n ∧ n < 0x1200) ∨ (0xD7CB ≤ n ∧ n < 0xD7FC) then .trailing
  else if 0xAC00 ≤ n ∧ n < 0xD7A4 then
    if (n - 0xAC00) % 28 = 0 then .openSyllable else .closedSyllable
  else if isPictograph c then .pictograph
  else .other

/-- What of the grapheme so far decides whether it goes on. -/
structure GraphemeState where
  last : BreakClass
  /-- The regional signs at its end are odd in number. -/
  oddRegional : Bool
  /-- It ends with a pictograph and what extends it. -/
  pictured : Bool

def GraphemeState.start (c : BreakClass) : GraphemeState where
  last := c
  oddRegional := c = .regional
  pictured := c = .pictograph

def GraphemeState.next (s : GraphemeState) (c : BreakClass) : GraphemeState where
  last := c
  oddRegional := c = .regional && !s.oddRegional
  pictured := c = .pictograph || (s.pictured && (c = .extend || c = .joiner))

def GraphemeState.joins (s : GraphemeState) (c : BreakClass) : Bool :=
  match s.last, c with
  | .carriageReturn, .lineFeed => true
  | .carriageReturn, _ => false
  | .lineFeed, _ => false
  | .control, _ => false
  | _, .carriageReturn => false
  | _, .lineFeed => false
  | _, .control => false
  | .leading, .leading => true
  | .leading, .vowel => true
  | .leading, .openSyllable => true
  | .leading, .closedSyllable => true
  | .openSyllable, .vowel => true
  | .openSyllable, .trailing => true
  | .vowel, .vowel => true
  | .vowel, .trailing => true
  | .closedSyllable, .trailing => true
  | .trailing, .trailing => true
  | _, .extend => true
  | _, .joiner => true
  | _, .spacing => true
  | .prepended, _ => true
  | .joiner, .pictograph => s.pictured
  | .regional, .regional => s.oddRegional
  | _, _ => false

/-- Cuts the text behind a grapheme that has begun; its characters come in reverse order. -/
def graphemesFrom (s : GraphemeState) (begun : List Char) : List Char → List (List Char)
  | [] => [begun.reverse]
  | c :: cs =>
    let b := breakClass c
    if s.joins b then graphemesFrom (s.next b) (c :: begun) cs
    else begun.reverse :: graphemesFrom (.start b) [c] cs

def graphemes : List Char → List (List Char)
  | [] => []
  | c :: cs => graphemesFrom (.start (breakClass c)) [c] cs

def charWidth (c : Char) : Nat :=
  let n := c.toNat
  if n < 0x300 then (if n = 0xAD then 0 else 1)
  else if CodePoints.contains extender n ∨ (CodePoints.contains ignorable n ∧ n ≠ 0x115F) ∨
      (0x1160 ≤ n ∧ n < 0x1200) ∨ (0xD7B0 ≤ n ∧ n < 0xD7FC) then 0
  else if CodePoints.contains wide n then 2
  else 1

def takesPictureSign (c : Char) : Bool := isPictograph c || c.isDigit || c = '#' || c = '*'

/-- The columns of a text behind a character; `pictured` tells that a picture goes on. A picture takes
two columns with all that is joined to it. -/
def widthFrom (before : Option Char) (pictured : Bool) : List Char → Nat
  | [] => 0
  | c :: cs =>
    if c = '\ufe0f' then
      (if before.any fun b => takesPictureSign b && charWidth b = 1 then 1 else 0) +
        widthFrom none (pictured || before.any takesPictureSign) cs
    else if c = zeroWidthJoiner then widthFrom (some c) pictured cs
    else if isModifier c ∧ pictured then widthFrom none pictured cs
    else if isPictograph c then
      (if pictured ∧ before = some zeroWidthJoiner then 0 else charWidth c) + widthFrom (some c) true cs
    else charWidth c + widthFrom (some c) false cs

def width (cs : List Char) : Nat := widthFrom none false cs

end Admission.Text
