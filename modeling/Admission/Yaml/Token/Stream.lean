import Admission.Yaml.Token.Tag

/-!
The tokens of a text. Whether a scalar or collection is the key of a mapping shows only at the colon
behind it, on the same line and not too far off; until then it is a candidate, and the tokens for a
key are put in front of it later.
-/

namespace Admission.Yaml

/-- What may turn out to be a key: the number of its first token, its place, and whether nothing else
can stand there. -/
structure Candidate where
  number : Nat
  required : Bool
  index : Nat
  line : Nat
  column : Nat
  deriving Repr

structure Scan where
  cursor : Cursor
  /-- The last token comes first. -/
  tokens : List Token := []
  count : Nat := 0
  /-- The indentation of the innermost block collection, below zero outside of all. -/
  indent : Int := -1
  outerIndents : List Int := []
  /-- The candidate of the innermost flow collection, or of the block context. -/
  candidate : Option Candidate := none
  /-- The candidates around it, one for each flow collection. -/
  outerCandidates : List (Option Candidate) := []
  /-- Whether a key may begin here. -/
  keyAllowed : Bool := true
  isDone : Bool := false
  deriving Repr

namespace Scan

def inFlow (s : Scan) : Bool := !s.outerCandidates.isEmpty

def push (s : Scan) (token : Token) : Scan :=
  { s with tokens := token :: s.tokens, count := s.count + 1 }

def pushSkip (s : Scan) (token : Token) (n : Nat) : Scan :=
  { s.push token with cursor := s.cursor.skip n }

/-- Puts tokens, given in reverse order, in front of the token with a number. -/
def insert (s : Scan) (number : Nat) (added : List Token) : Scan :=
  let later := s.count - number
  { s with
    tokens := s.tokens.take later ++ added ++ s.tokens.drop later
    count := s.count + added.length }

/-- The distance at which a colon no longer makes a key. -/
def maxKeyLength : Nat := 1024

def isStale (s : Scan) (candidate : Candidate) : Bool :=
  candidate.line < s.cursor.line || candidate.index + maxKeyLength < s.cursor.index

/-- Gives up candidates that are too far back; one that had to be a key is a fault. -/
def dropStale (s : Scan) : Option Scan :=
  let all := s.candidate :: s.outerCandidates
  if all.any fun o => o.any fun candidate => s.isStale candidate && candidate.required then none
  else
    let fresh (o : Option Candidate) := o.filter fun candidate => !s.isStale candidate
    some { s with candidate := fresh s.candidate, outerCandidates := s.outerCandidates.map fresh }

def dropCandidate (s : Scan) : Option Scan :=
  if s.candidate.any Candidate.required then none else some { s with candidate := none }

def saveCandidate (s : Scan) : Option Scan :=
  if s.keyAllowed then do
    let s ← s.dropCandidate
    let c := s.cursor
    return { s with
      candidate := some {
        number := s.count
        required := !s.inFlow && s.indent = (c.column : Int)
        index := c.index
        line := c.line
        column := c.column } }
  else some s

def firstCandidate (s : Scan) : Nat :=
  (s.candidate :: s.outerCandidates).foldl
    (fun least o => (o.map fun candidate => min least candidate.number).getD least) s.count

def unroll (column : Int) : List Int → Scan → Scan
  | [], s => s
  | outer :: rest, s =>
    if s.inFlow ∨ s.indent ≤ column then s
    else unroll column rest { s.push .blockEnd with indent := outer, outerIndents := rest }

def unrollTo (s : Scan) (column : Int) : Scan := unroll column s.outerIndents s

/-- Begins a block collection at a column, unless one has begun there; its token is put at `number`.
-/
def roll (s : Scan) (column : Nat) (number : Nat) (token : Token) : Scan :=
  if !s.inFlow ∧ s.indent < (column : Int) then
    { s.insert number [token] with indent := column, outerIndents := s.indent :: s.outerIndents }
  else s

def streamEnd (s : Scan) : Option Scan := do
  let s ← (s.unrollTo (-1)).dropCandidate
  return { s.push .streamEnd with keyAllowed := false, isDone := true }

def directive (s : Scan) : Option Scan := do
  let s ← (s.unrollTo (-1)).dropCandidate
  let (token, c) ← directive? s.cursor
  return { s.push token with cursor := c, keyAllowed := false }

def documentMark (s : Scan) (token : Token) : Option Scan := do
  let s ← (s.unrollTo (-1)).dropCandidate
  return { s.pushSkip token 3 with keyAllowed := false }

def flowStart (s : Scan) (token : Token) : Option Scan := do
  let s ← s.saveCandidate
  return { s.pushSkip token 1 with
    candidate := none, outerCandidates := s.candidate :: s.outerCandidates, keyAllowed := true }

def flowEnd (s : Scan) (token : Token) : Option Scan := do
  let s ← s.dropCandidate
  let s : Scan :=
    match s.outerCandidates with
    | outer :: rest => { s with candidate := outer, outerCandidates := rest }
    | [] => s
  return { s.pushSkip token 1 with keyAllowed := false }

def flowEntry (s : Scan) : Option Scan := do
  let s ← s.dropCandidate
  return { s.pushSkip .flowEntry 1 with keyAllowed := true }

def blockEntry (s : Scan) : Option Scan :=
  if !s.inFlow ∧ !s.keyAllowed then none
  else do
    let s ← (s.roll s.cursor.column s.count .blockSequenceStart).dropCandidate
    return { s.pushSkip .blockEntry 1 with keyAllowed := true }

def key (s : Scan) : Option Scan :=
  if !s.inFlow ∧ !s.keyAllowed then none
  else do
    let s ← (s.roll s.cursor.column s.count .blockMappingStart).dropCandidate
    return { s.pushSkip .key 1 with keyAllowed := !s.inFlow }

def value (s : Scan) : Option Scan :=
  match s.candidate with
  | some candidate =>
    let s := (s.insert candidate.number [.key]).roll candidate.column candidate.number .blockMappingStart
    some { s.pushSkip .value 1 with candidate := none, keyAllowed := false }
  | none =>
    if !s.inFlow ∧ !s.keyAllowed then none
    else
      let s := s.roll s.cursor.column s.count .blockMappingStart
      some { s.pushSkip .value 1 with keyAllowed := !s.inFlow }

def node (s : Scan) (read : Cursor → Option (Token × Cursor)) : Option Scan := do
  let s ← s.saveCandidate
  let (token, c) ← read s.cursor
  return { s.push token with cursor := c, keyAllowed := false }

def quoted (s : Scan) (isSingle : Bool) : Option Scan :=
  s.node fun c => (quotedScalar isSingle c).map fun (text, c) => (.scalar text .quoted, c)

def block (s : Scan) (isLiteral : Bool) : Option Scan := do
  let s ← s.dropCandidate
  let (text, c) ← blockScalar isLiteral s.indent s.cursor
  let style := if isLiteral then ScalarStyle.literal else .folded
  return { s.push (.scalar text style) with cursor := c, keyAllowed := true }

def plain (s : Scan) : Option Scan := do
  let s ← s.saveCandidate
  let (text, hasBreak, c) ← plainScalar s.inFlow (s.indent + 1) s.cursor
  return { s.push (.scalar text .plain) with cursor := c, keyAllowed := hasBreak }

/-- Passes over white space and comments. A new line in the block context allows a key. -/
def skipSpace : Nat → Scan → Scan
  | 0, s => s
  | fuel + 1, s =>
    let c := s.cursor
    let c := if c.column = 0 ∧ c.sees 0 byteOrderMark then c.skip 1 else c
    let c := (c.span fun x => x = ' ' || ((s.inFlow || !s.keyAllowed) && x = '\t')).2.skipComment
    if c.seesBreak 0 then
      skipSpace fuel { s with cursor := c.nextLine, keyAllowed := s.keyAllowed || !s.inFlow }
    else { s with cursor := c }

def isIndicator (x : Char) : Bool := "-?:,[]\x7b\x7d#&*!|>'\"%@`".toList.contains x

def seesPlain (s : Scan) : Bool :=
  match s.cursor.rest with
  | [] => false
  | x :: _ =>
    (!isBlank x && !isBreak x && !isIndicator x) ||
      (x = '-' && !s.cursor.seesBlank 1) ||
      (!s.inFlow && (x = '?' || x = ':') && !s.cursor.seesWordEnd 1)

def next (s : Scan) : Option Scan := do
  let s ← (skipSpace s.cursor.bound s).dropStale
  let c := s.cursor
  let s := s.unrollTo c.column
  let isLineStart := c.column = 0
  match c.rest with
  | [] => s.streamEnd
  | x :: _ =>
    if isLineStart ∧ x = '%' then s.directive
    else if c.seesDocumentMark then s.documentMark (if x = '-' then .documentStart else .documentEnd)
    else if x = '[' then s.flowStart .flowSequenceStart
    else if x = '{' then s.flowStart .flowMappingStart
    else if x = ']' then s.flowEnd .flowSequenceEnd
    else if x = '}' then s.flowEnd .flowMappingEnd
    else if x = ',' then s.flowEntry
    else if x = '-' ∧ c.seesWordEnd 1 then s.blockEntry
    else if x = '?' ∧ (s.inFlow ∨ c.seesWordEnd 1) then s.key
    else if x = ':' ∧ (s.inFlow ∨ c.seesWordEnd 1) then s.value
    else if x = '*' then s.node fun c => (anchorName? c).map fun (name, c) => (.reference name, c)
    else if x = '&' then s.node fun c => (anchorName? c).map fun (name, c) => (.anchor name, c)
    else if x = '!' then s.node (tag? s.inFlow)
    else if x = '|' ∧ !s.inFlow then s.block true
    else if x = '>' ∧ !s.inFlow then s.block false
    else if x = '\'' then s.quoted true
    else if x = '"' then s.quoted false
    else if s.seesPlain then s.plain
    else none

/-- The tokens up to the first that depends on what cannot be read. A candidate depends on the token
behind it. -/
def faulty (s : Scan) : List Token := (s.tokens.reverse.take s.firstCandidate) ++ [.fault]

/-- Reads tokens to the end. With `isCut`, the text goes on in a way that cannot be read. -/
def run (isCut : Bool) : Nat → Scan → List Token
  | 0, s => s.faulty
  | fuel + 1, s =>
    match s.dropStale with
    | none => s.faulty
    | some s =>
      match s.next with
      | none => s.faulty
      | some next =>
        if isCut ∧ next.isDone then s.faulty
        else if next.isDone then next.tokens.reverse
        else run isCut fuel next

end Scan

def chunkSize : Nat := 16384

/-- The characters of a text up to the chunk of the first one that may not stand there, and whether
there is one. A chunk ends with a whole character. -/
def readable : Nat → List Char → List Char → List Char → Bool × List Char
  | _, before, chunk, [] => (false, (chunk ++ before).reverse)
  | used, before, chunk, x :: rest =>
    if chunkSize < used + x.utf8Size then
      let before := chunk ++ before
      if isAllowed x then readable x.utf8Size before [x] rest else (true, before.reverse)
    else if isAllowed x then readable (used + x.utf8Size) before (x :: chunk) rest
    else (true, before.reverse)

def tokens (s : String) : List Token :=
  let (isCut, cs) := readable 0 [] [] s.toList
  Scan.run isCut (2 * cs.length + 2) { cursor := { rest := cs } }

end Admission.Yaml
