import Admission.Yaml.Cursor

namespace Admission.Yaml

/-- White space that may have to be folded: blanks within a line, or the first line end and those
that follow it. -/
structure Gap where
  hasBreak : Bool := false
  blanks : List Char := []
  firstBreak : List Char := []
  laterBreaks : List Char := []
  deriving Repr

/-- What white space comes to: a single line end counts as a blank. -/
def Gap.text (gap : Gap) : List Char :=
  if gap.hasBreak then
    if gap.firstBreak = ['\n'] then
      if gap.laterBreaks = [] then [' '] else gap.laterBreaks
    else gap.firstBreak ++ gap.laterBreaks
  else gap.blanks

/-- Reads the white space in front. In a plain scalar no tab may stand left of the indentation. -/
def gapFrom (plainIndent : Option Int) : Nat → Gap → Cursor → Option (Gap × Cursor)
  | 0, _, _ => none
  | fuel + 1, gap, c =>
    if c.seesBlank 0 then
      if gap.hasBreak ∧ plainIndent.any (fun indent => (c.column : Int) < indent) ∧ c.sees 0 '\t' then
        none
      else if gap.hasBreak then gapFrom plainIndent fuel gap (c.skip 1)
      else
        gapFrom plainIndent fuel { gap with blanks := gap.blanks ++ c.rest.take 1 } (c.skip 1)
    else if c.seesBreak 0 then
      let gap :=
        if gap.hasBreak then { gap with laterBreaks := gap.laterBreaks ++ c.lineBreak }
        else { gap with hasBreak := true, blanks := [], firstBreak := c.lineBreak }
      gapFrom plainIndent fuel gap c.nextLine
    else some (gap, c)

/-- Whether a character may stand in a flow collection only as a sign of its own. -/
def isFlowSign (x : Char) : Bool :=
  x = ',' || x = '[' || x = ']' || x = '{' || x = '}'

/-- Reads the characters of a plain scalar up to white space or its end, after those found so far,
which come in reverse order. In a flow collection a colon may not stand directly before another sign.
-/
def plainWord (inFlow : Bool) : Nat → List Char → Cursor → Option (List Char × Cursor)
  | 0, _, _ => none
  | fuel + 1, found, c =>
    match c.rest with
    | [] => some (found, c)
    | x :: _ =>
      if isBlank x ∨ isBreak x then some (found, c)
      else if inFlow ∧ x = ':' ∧ (c.look 1).any (fun y => isFlowSign y || y = '?') then none
      else if (x = ':' ∧ c.seesWordEnd 1) ∨ (inFlow ∧ isFlowSign x) then some (found, c)
      else plainWord inFlow fuel (x :: found) (c.skip 1)

/-- Reads a plain scalar after the text found so far, in reverse order, and the white space behind it.
The result tells whether the scalar is followed by the beginning of a line. -/
def plainFrom (inFlow : Bool) (indent : Int) :
    Nat → List Char → Gap → Cursor → Option (List Char × Bool × Cursor)
  | 0, _, _, _ => none
  | fuel + 1, found, gap, c =>
    if c.seesDocumentMark ∨ c.sees 0 '#' then some (found.reverse, gap.hasBreak, c)
    else do
      let (word, c) ← plainWord inFlow c.bound [] c
      let (found, hasBreak) :=
        if word = [] then (found, gap.hasBreak)
        else (word ++ gap.text.reverseAux found, false)
      if c.seesBlank 0 ∨ c.seesBreak 0 then
        let (gap, c) ← gapFrom (some indent) c.bound {} c
        if !inFlow ∧ (c.column : Int) < indent then some (found.reverse, gap.hasBreak, c)
        else plainFrom inFlow indent fuel found gap c
      else some (found.reverse, hasBreak, c)

def plainScalar (inFlow : Bool) (indent : Int) (c : Cursor) :
    Option (List Char × Bool × Cursor) :=
  plainFrom inFlow indent c.bound [] {} c

def hexValue? (x : Char) : Option Nat :=
  if '0' ≤ x ∧ x ≤ '9' then some (x.toNat - '0'.toNat)
  else if 'a' ≤ x ∧ x ≤ 'f' then some (x.toNat - 'a'.toNat + 10)
  else if 'A' ≤ x ∧ x ≤ 'F' then some (x.toNat - 'A'.toNat + 10)
  else none

def hexNumber? (places : Nat) (cs : List Char) : Option Nat :=
  let digits := cs.take places
  if digits.length = places then
    digits.foldl (fun n x => do return (← n) * 16 + (← hexValue? x)) (some 0)
  else none

def simpleEscape? : Char → Option Char
  | '0' => some '\x00'
  | 'a' => some '\x07'
  | 'b' => some '\x08'
  | 't' => some '\t'
  | '\t' => some '\t'
  | 'n' => some '\n'
  | 'v' => some '\x0b'
  | 'f' => some '\x0c'
  | 'r' => some '\r'
  | 'e' => some '\x1b'
  | ' ' => some ' '
  | '"' => some '"'
  | '/' => some '/'
  | '\\' => some '\\'
  | 'N' => some '\x85'
  | '_' => some '\xa0'
  | 'L' => some '\u2028'
  | 'P' => some '\u2029'
  | _ => none

def escapeDigits? : Char → Option Nat
  | 'x' => some 2
  | 'u' => some 4
  | 'U' => some 8
  | _ => none

def escape? (c : Cursor) : Option (Char × Cursor) := do
  let letter ← c.look 1
  match escapeDigits? letter with
  | some places =>
    let n ← hexNumber? places (c.rest.drop 2)
    if n.isValidChar then some (Char.ofNat n, c.skip (2 + places)) else none
  | none => return (← simpleEscape? letter, c.skip 2)

/-- Reads the characters of a quoted scalar up to white space or its end, after those found so far,
which come in reverse order. The result tells whether an escaped line end was passed. -/
def quotedWord (isSingle : Bool) : Nat → List Char → Cursor → Option (List Char × Bool × Cursor)
  | 0, _, _ => none
  | fuel + 1, found, c =>
    match c.rest with
    | [] => some (found, false, c)
    | x :: _ =>
      if isBlank x ∨ isBreak x then some (found, false, c)
      else if isSingle then
        if x = '\'' then
          if c.sees 1 '\'' then quotedWord isSingle fuel ('\'' :: found) (c.skip 2)
          else some (found, false, c)
        else quotedWord isSingle fuel (x :: found) (c.skip 1)
      else if x = '"' then some (found, false, c)
      else if x = '\\' then
        if c.seesBreak 1 then some (found, true, (c.skip 1).nextLine)
        else do
          let (x, c) ← escape? c
          quotedWord isSingle fuel (x :: found) c
      else quotedWord isSingle fuel (x :: found) (c.skip 1)

def quotedFrom (isSingle : Bool) : Nat → List Char → Cursor → Option (List Char × Cursor)
  | 0, _, _ => none
  | fuel + 1, found, c =>
    if c.seesDocumentMark ∨ c.atEnd then none
    else do
      let (found, escaped, c) ← quotedWord isSingle c.bound found c
      if c.sees 0 (if isSingle then '\'' else '"') then some (found.reverse, c.skip 1)
      else
        let (gap, c) ← gapFrom none c.bound { hasBreak := escaped } c
        quotedFrom isSingle fuel (gap.text.reverseAux found) c

def quotedScalar (isSingle : Bool) (c : Cursor) : Option (List Char × Cursor) :=
  quotedFrom isSingle c.bound [] (c.skip 1)

inductive Chomping
  | clip
  | strip
  | keep
  deriving DecidableEq, Repr

def chomping? : Char → Option Chomping
  | '-' => some .strip
  | '+' => some .keep
  | _ => none

def indentDigit? (x : Char) : Option Nat := if x.isDigit then some (x.toNat - '0'.toNat) else none

/-- Reads the signs in the head of a block: how its end is treated, and by how much it is indented,
in either order. The indentation may not be zero. -/
def blockSigns (c : Cursor) : Option (Chomping × Option Nat × Cursor) :=
  match (c.look 0).bind chomping?, (c.look 0).bind indentDigit? with
  | some mode, _ =>
    match (c.look 1).bind indentDigit? with
    | some 0 => none
    | some n => some (mode, some n, c.skip 2)
    | none => some (mode, none, c.skip 1)
  | none, some 0 => none
  | none, some n =>
    match (c.look 1).bind chomping? with
    | some mode => some (mode, some n, c.skip 2)
    | none => some (.clip, some n, c.skip 1)
  | none, none => some (.clip, none, c)

/-- Passes over indentation and empty lines. `indent` is zero as long as it is not known. The result
holds the line ends and the greatest column that was reached. -/
def blockBreaks (indent : Nat) : Nat → List Char → Nat → Cursor → Option (List Char × Nat × Cursor)
  | 0, _, _, _ => none
  | fuel + 1, breaks, reached, c =>
    let spaces := (c.rest.takeWhile (· = ' ')).length
    let c := c.skip (if indent = 0 then spaces else min spaces (indent - c.column))
    let reached := max reached c.column
    if (indent = 0 ∨ c.column < indent) ∧ c.sees 0 '\t' then none
    else if c.seesBreak 0 then blockBreaks indent fuel (breaks ++ c.lineBreak) reached c.nextLine
    else some (breaks, reached, c)

/-- The lines of a block that have been read, their text in reverse order. -/
structure BlockText where
  found : List Char := []
  lineBreak : List Char := []
  emptyLines : List Char := []
  /-- Whether the last line began with a blank. -/
  startsBlank : Bool := false

/-- Reads the lines of a block. In a folded block a line end between two lines that do not begin with
a blank counts as a blank, or as nothing before empty lines. -/
def blockLines (isLiteral : Bool) (indent : Nat) :
    Nat → BlockText → Cursor → Option (BlockText × Cursor)
  | 0, _, _ => none
  | fuel + 1, text, c =>
    if c.column ≠ indent ∨ c.atEnd then some (text, c)
    else do
      let startsBlank := c.seesBlank 0
      let joint :=
        if !isLiteral ∧ text.lineBreak = ['\n'] ∧ !text.startsBlank ∧ !startsBlank then
          if text.emptyLines = [] then [' '] else []
        else text.lineBreak
      let (line, c) := c.span fun x => !isBreak x
      let found := line.reverseAux (text.emptyLines.reverseAux (joint.reverseAux text.found))
      let lineBreak := c.lineBreak
      let (emptyLines, _, c) ← blockBreaks indent c.bound [] 0 c.nextLine
      blockLines isLiteral indent fuel { found, lineBreak, emptyLines, startsBlank } c

/-- Reads a block from its sign on; `parent` is the indentation of what contains it. -/
def blockScalar (isLiteral : Bool) (parent : Int) (c : Cursor) : Option (List Char × Cursor) := do
  let (mode, increment, c) ← blockSigns (c.skip 1)
  let c := c.skipBlanks.skipComment
  if !c.seesLineEnd 0 then none
  else
    let c := c.nextLine
    let given := increment.map fun n => if 0 ≤ parent then parent.toNat + n else n
    let (emptyLines, reached, c) ← blockBreaks (given.getD 0) c.bound [] 0 c
    let indent := given.getD (max reached (max (parent + 1).toNat 1))
    let (text, c) ← blockLines isLiteral indent c.bound { emptyLines } c
    let ending :=
      match mode with
      | .strip => []
      | .clip => text.lineBreak
      | .keep => text.lineBreak ++ text.emptyLines
    return (text.found.reverseAux ending, c)

end Admission.Yaml
