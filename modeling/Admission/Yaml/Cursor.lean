namespace Admission.Yaml

def isAllowed (c : Char) : Bool :=
  let n := c.toNat
  n == 0x09 || n == 0x0A || n == 0x0D || (0x20 ≤ n && n ≤ 0x7E) || n == 0x85 ||
    (0xA0 ≤ n && n ≤ 0xFFFD) || 0x10000 ≤ n

def isBreak (c : Char) : Bool :=
  c = '\n' || c = '\r' || c = '\x85' || c = '\u2028' || c = '\u2029'

def isBlank (c : Char) : Bool := c = ' ' || c = '\t'

def isWordChar (c : Char) : Bool := c.isAlphanum || c = '-' || c = '_'

def byteOrderMark : Char := '\ufeff'

structure Cursor where
  index : Nat := 0
  line : Nat := 0
  column : Nat := 0
  rest : List Char
  /-- More than the number of characters that follow: no loop over them takes more steps. -/
  bound : Nat := rest.length + 1
  deriving Inhabited, Repr

namespace Cursor

def look (c : Cursor) (n : Nat) : Option Char := c.rest[n]?

def sees (c : Cursor) (n : Nat) (x : Char) : Bool := c.look n == some x

def seesBreak (c : Cursor) (n : Nat) : Bool := (c.look n).any isBreak

def seesBlank (c : Cursor) (n : Nat) : Bool := (c.look n).any isBlank

def seesLineEnd (c : Cursor) (n : Nat) : Bool := (c.look n).all isBreak

def seesWordEnd (c : Cursor) (n : Nat) : Bool := (c.look n).all fun x => isBlank x || isBreak x

def atEnd (c : Cursor) : Bool := c.rest.isEmpty

def skip (c : Cursor) (n : Nat) : Cursor :=
  { c with index := c.index + n, column := c.column + n, rest := c.rest.drop n }

def nextLine (c : Cursor) : Cursor :=
  match c.rest with
  | '\r' :: '\n' :: rest => { c with index := c.index + 2, line := c.line + 1, column := 0, rest }
  | x :: rest =>
    if isBreak x then { c with index := c.index + 1, line := c.line + 1, column := 0, rest } else c
  | [] => c

/-- What the end of a line contributes to a scalar: a line feed, or the rarer break itself. -/
def lineBreak (c : Cursor) : List Char :=
  match c.rest with
  | x :: _ => if x = '\u2028' ∨ x = '\u2029' then [x] else if isBreak x then ['\n'] else []
  | [] => []

/-- The characters in front that pass a test, none of which ends a line, and the place behind. -/
def span (c : Cursor) (p : Char → Bool) : List Char × Cursor :=
  let found := c.rest.takeWhile p
  (found, c.skip found.length)

def skipBlanks (c : Cursor) : Cursor := (c.span isBlank).2

def skipLine (c : Cursor) : Cursor := (c.span fun x => !isBreak x).2

def skipComment (c : Cursor) : Cursor := if c.sees 0 '#' then c.skipLine else c

/-- Whether one of the two marks that separate documents stands here. -/
def seesDocumentMark (c : Cursor) : Bool :=
  c.column = 0 &&
    ((c.sees 0 '-' && c.sees 1 '-' && c.sees 2 '-') ||
      (c.sees 0 '.' && c.sees 1 '.' && c.sees 2 '.')) &&
    c.seesWordEnd 3

end Cursor
end Admission.Yaml
