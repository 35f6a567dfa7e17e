import Admission.Pattern.Reader

/-!
What regular expressions mean: which stretch of a text they span, between what stands before it and
what comes after it, under the flags that hold where they stand. What a set of characters holds,
which characters differ in case only and which belong to words is left open.
-/

namespace Admission.Pattern

abbrev Flags := Flag → Bool

/-- The tables of characters that regular expressions rest on. -/
structure Tables where
  /-- The two characters differ in case only, if at all. -/
  SameFolded : Char → Char → Prop
  InSet : Flags → CharSet → Char → Prop
  InWord : Flags → Char → Prop

def initialFlags : Flags := fun flag => flag = .unicode

def FlagChange.applyAll (change : FlagChange) (state : Flags) : Flags :=
  fun flag => change.apply flag (state flag)

def GroupKind.inner (state : Flags) : GroupKind → Flags
  | .plain change => change.applyAll state
  | _ => state

mutual

/-- The flags behind a pattern. What is changed in a group ends with it. -/
def leave (state : Flags) : Pattern → Flags
  | flags change => change.applyAll state
  | concat parts => leaveAll state parts
  | alternation branches => leaveAll state branches
  | _ => state

def leaveAll (state : Flags) : List Pattern → Flags
  | [] => state
  | part :: parts => leaveAll (leave state part) parts

end

/-- A line begins between what stands before a place and what comes after it. -/
def BeginsLine (state : Flags) (before after : List Char) : Prop :=
  before = [] ∨ before.getLast? = some '\n' ∨
    state .lineEndPairs ∧ before.getLast? = some '\r' ∧ after.head? ≠ some '\n'

/-- A line ends there. A carriage return and a line feed are one line end if they may be a pair. -/
def EndsLine (state : Flags) (before after : List Char) : Prop :=
  after = [] ∨
    if state .lineEndPairs then
      after.head? = some '\r' ∨ after.head? = some '\n' ∧ before.getLast? ≠ some '\r'
    else after.head? = some '\n'

variable (tables : Tables)

/-- The assertion is right about a place. -/
def Assertion.HoldsAt (state : Flags) (before after : List Char) : Assertion → Prop
  | .lineStart => if state .multiLine then BeginsLine state before after else before = []
  | .lineEnd => if state .multiLine then EndsLine state before after else after = []
  | .textStart => before = []
  | .textEnd => after = []
  | .wordBoundary => ¬ (wordBefore ↔ wordAfter)
  | .notWordBoundary => wordBefore ↔ wordAfter
  | .wordStart => ¬ wordBefore ∧ wordAfter
  | .wordEnd => wordBefore ∧ ¬ wordAfter
  | .wordStartHalf => ¬ wordBefore
  | .wordEndHalf => ¬ wordAfter
where
  wordBefore := ∃ c ∈ before.getLast?, tables.InWord state c
  wordAfter := ∃ c ∈ after.head?, tables.InWord state c

/-- The character of a pattern stands for that of a text. -/
def Literal.StandsFor (state : Flags) (l : Literal) (c : Char) : Prop :=
  if state .caseInsensitive then tables.SameFolded l.char c else c = l.char

def AnyStandsFor (state : Flags) (c : Char) : Prop :=
  state .dotMatchesNewLine = true ∨ c ≠ '\n' ∧ ¬ (state .lineEndPairs ∧ c = '\r')

/-- The middle is a number of stretches one after the other, each with the property. -/
def Repeats (P : List Char → List Char → List Char → Prop) :
    Nat → List Char → List Char → List Char → Prop
  | 0, _, middle, _ => middle = []
  | n + 1, before, middle, after =>
    ∃ first rest, middle = first ++ rest ∧ P before first (rest ++ after) ∧
      Repeats P n (before ++ first) rest after

mutual

/-- The pattern spans the middle of a text, between what stands before and what comes after. -/
def Spans : Pattern → Flags → List Char → List Char → List Char → Prop
  | empty, _, _, middle, _ => middle = []
  | any, state, _, middle, _ => ∃ c, middle = [c] ∧ AnyStandsFor state c
  | literal l, state, _, middle, _ => ∃ c, middle = [c] ∧ l.StandsFor tables state c
  | set s, state, _, middle, _ => ∃ c, middle = [c] ∧ tables.InSet state s c
  | assertion a, state, before, middle, after =>
    middle = [] ∧ a.HoldsAt tables state before after
  | flags _, _, _, middle, _ => middle = []
  | repetition least most _ body, state, before, middle, after =>
    ∃ n, least ≤ n ∧ (∀ k ∈ most, n ≤ k) ∧ Repeats (Spans body state) n before middle after
  | group kind body, state, before, middle, after =>
    Spans body (kind.inner state) before middle after
  | concat parts, state, before, middle, after => PartsSpan parts state before middle after
  | alternation branches, state, before, middle, after =>
    BranchSpans branches state before middle after

def PartsSpan : List Pattern → Flags → List Char → List Char → List Char → Prop
  | [], _, _, middle, _ => middle = []
  | part :: parts, state, before, middle, after =>
    ∃ first rest, middle = first ++ rest ∧ Spans part state before first (rest ++ after) ∧
      PartsSpan parts (leave state part) (before ++ first) rest after

def BranchSpans : List Pattern → Flags → List Char → List Char → List Char → Prop
  | [], _, _, _, _ => False
  | branch :: branches, state, before, middle, after =>
    Spans branch state before middle after ∨
      BranchSpans branches (leave state branch) before middle after

end

/-- The text of a pattern matches a text if the pattern spans some stretch of it. -/
def Matches (s name : String) : Prop :=
  ∃ pattern before middle after, read s.toList = some pattern ∧
    name.toList = before ++ middle ++ after ∧
    Spans tables pattern initialFlags before middle after

end Admission.Pattern
