namespace Admission

namespace Pattern

/-- A character that stands for itself. One that is written as two hexadecimal digits is a byte where
the pattern is not read by characters. -/
structure Literal where
  char : Char
  isByte : Bool := false
  deriving DecidableEq, Repr

inductive Shorthand
  | digit
  | space
  | word
  deriving DecidableEq, Repr

inductive PropertyQuery
  | named (name : List Char)
  | valued (name value : List Char)
  deriving DecidableEq, Repr

inductive SetOperator
  | intersection
  | difference
  | symmetricDifference
  deriving DecidableEq, Repr

inductive CharSet
  | literal (l : Literal)
  | range (first last : Literal)
  | shorthand (kind : Shorthand) (negated : Bool)
  | property (query : PropertyQuery) (negated : Bool)
  /-- A class of ASCII characters by its name. -/
  | ascii (name : String) (negated : Bool)
  | union (parts : List CharSet)
  | combine (operator : SetOperator) (left right : CharSet)
  | bracketed (negated : Bool) (body : CharSet)
  deriving Inhabited, Repr

inductive Assertion
  | lineStart
  | lineEnd
  | textStart
  | textEnd
  | wordBoundary
  | notWordBoundary
  | wordStart
  | wordEnd
  | wordStartHalf
  | wordEndHalf
  deriving DecidableEq, Repr

inductive Flag
  | caseInsensitive
  | multiLine
  | dotMatchesNewLine
  | swapGreed
  | unicode
  | lineEndPairs
  | verbose
  deriving DecidableEq, Repr

structure FlagChange where
  on : List Flag := []
  off : List Flag := []
  deriving DecidableEq, Repr

def FlagChange.apply (change : FlagChange) (flag : Flag) (state : Bool) : Bool :=
  if flag ∈ change.on then true else if flag ∈ change.off then false else state

inductive GroupKind
  | numbered
  | named (name : List Char)
  | plain (flags : FlagChange)
  deriving DecidableEq, Repr

end Pattern

open Pattern in
inductive Pattern
  | empty
  | any
  | literal (l : Literal)
  | set (s : CharSet)
  | assertion (a : Assertion)
  | flags (change : FlagChange)
  | repetition (least : Nat) (most : Option Nat) (greedy : Bool) (body : Pattern)
  | group (kind : GroupKind) (body : Pattern)
  | concat (parts : List Pattern)
  | alternation (branches : List Pattern)
  deriving Inhabited, Repr

namespace Pattern

def ofParts : List Pattern → Pattern
  | [] => empty
  | [part] => part
  | parts => concat parts

def ofBranches : List Pattern → Pattern
  | [] => empty
  | [branch] => branch
  | branches => alternation branches

def CharSet.ofParts : List CharSet → CharSet
  | [part] => part
  | parts => union parts

end Pattern
end Admission
