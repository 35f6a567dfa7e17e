import Admission.Yaml.Node
import Admission.Yaml.Token.Stream

/-!
The documents that tokens make up. A node is left out where its place is clear without it, and counts
as an empty scalar.
-/

namespace Admission.Yaml

abbrev TagHandles := List (List Char × List Char)

def defaultHandles : TagHandles :=
  [(['!'], ['!']), (['!', '!'], "tag:yaml.org,2002:".toList)]

def fullTag? (handles : TagHandles) (handle suffix : List Char) : Option String :=
  if handle = [] then some (String.ofList suffix)
  else
    (handles.find? fun e => e.1 == handle).map fun e => String.ofList (e.2 ++ suffix)

abbrev Anchors := List (List Char × Nat)

def Anchors.size (anchors : Anchors) : Nat := (anchors.map Prod.fst).eraseDups.length

def Anchors.add (anchors : Anchors) (name : List Char) : Nat × Anchors :=
  (anchors.size, (name, anchors.size) :: anchors)

def Anchors.find? (anchors : Anchors) (name : List Char) : Option Nat :=
  (List.find? (fun e => e.1 == name) anchors).map Prod.snd

structure Feed where
  tokens : List Token
  anchors : Anchors

def emptyScalar : Node := .scalar none none .plain ""

/-- What stands in front of a node. -/
structure Properties where
  tag : Option String := none
  anchor : Option (List Char) := none

/-- Reads a tag and an anchor, in either order. -/
def properties? (handles : TagHandles) (tokens : List Token) : Option (Properties × List Token) :=
  match tokens with
  | .anchor name :: .tag handle suffix :: rest => do
    return ({ tag := some (← fullTag? handles handle suffix), anchor := some name }, rest)
  | .tag handle suffix :: .anchor name :: rest => do
    return ({ tag := some (← fullTag? handles handle suffix), anchor := some name }, rest)
  | .anchor name :: rest => some ({ anchor := some name }, rest)
  | .tag handle suffix :: rest => do
    return ({ tag := some (← fullTag? handles handle suffix) }, rest)
  | _ => some ({}, tokens)

def Feed.note (feed : Feed) (name : Option (List Char)) : Option Nat × Feed :=
  match name with
  | none => (none, feed)
  | some name =>
    let (n, anchors) := feed.anchors.add name
    (some n, { feed with anchors })

mutual

/-- Reads a node. In the block context block collections may stand here, and as a value of a mapping
also a sequence that is not indented. -/
def node (handles : TagHandles) (inBlock isValue : Bool) : Nat → Feed → Option (Node × Feed)
  | 0, _ => none
  | fuel + 1, feed =>
    match feed.tokens with
    | .reference name :: rest => do
      return (.reference (← feed.anchors.find? name), { feed with tokens := rest })
    | tokens => do
      let (properties, tokens) ← properties? handles tokens
      let (anchor, feed) := { feed with tokens }.note properties.anchor
      let tag := properties.tag
      let sequence (items : List Node × Feed) : Node × Feed := (.sequence tag anchor items.1, items.2)
      let mapping (entries : List (Node × Node) × Feed) : Node × Feed :=
        (.mapping tag anchor entries.1, entries.2)
      match feed.tokens with
      | .scalar text style :: rest =>
        return (.scalar tag anchor style (String.ofList text), { feed with tokens := rest })
      | .flowSequenceStart :: rest =>
        (flowItems handles true fuel { feed with tokens := rest }).map sequence
      | .flowMappingStart :: rest =>
        (flowEntries handles true fuel { feed with tokens := rest }).map mapping
      | .blockSequenceStart :: rest =>
        if inBlock then (blockItems handles fuel { feed with tokens := rest }).map sequence else none
      | .blockMappingStart :: rest =>
        if inBlock then (blockEntries handles fuel { feed with tokens := rest }).map mapping else none
      | .blockEntry :: rest =>
        if isValue then
          (looseItems handles fuel { feed with tokens := .blockEntry :: rest }).map sequence
        else if properties.tag.isSome ∨ properties.anchor.isSome then
          some (.scalar tag anchor .plain "", feed)
        else none
      | .fault :: _ => none
      | _ =>
        if properties.tag.isSome ∨ properties.anchor.isSome then
          some (.scalar tag anchor .plain "", feed)
        else none

def blockItems (handles : TagHandles) : Nat → Feed → Option (List Node × Feed)
  | 0, _ => none
  | fuel + 1, feed =>
    match feed.tokens with
    | .blockEnd :: rest => some ([], { feed with tokens := rest })
    | .blockEntry :: rest => do
      let feed := { feed with tokens := rest }
      let (item, feed) ←
        match rest with
        | .blockEntry :: _ => some (emptyScalar, feed)
        | .blockEnd :: _ => some (emptyScalar, feed)
        | _ => node handles true false fuel feed
      let (items, feed) ← blockItems handles fuel feed
      return (item :: items, feed)
    | _ => none

/-- Reads the items of a block sequence that is not indented. -/
def looseItems (handles : TagHandles) : Nat → Feed → Option (List Node × Feed)
  | 0, _ => none
  | fuel + 1, feed =>
    match feed.tokens with
    | .fault :: _ => none
    | .blockEntry :: rest => do
      let feed := { feed with tokens := rest }
      let (item, feed) ←
        match rest with
        | .blockEntry :: _ => some (emptyScalar, feed)
        | .key :: _ => some (emptyScalar, feed)
        | .value :: _ => some (emptyScalar, feed)
        | .blockEnd :: _ => some (emptyScalar, feed)
        | _ => node handles true false fuel feed
      let (items, feed) ← looseItems handles fuel feed
      return (item :: items, feed)
    | _ => some ([], feed)

def blockEntries (handles : TagHandles) : Nat → Feed → Option (List (Node × Node) × Feed)
  | 0, _ => none
  | fuel + 1, feed => do
    match feed.tokens with
    | .blockEnd :: rest => some ([], { feed with tokens := rest })
    | .key :: rest => do
      let feed := { feed with tokens := rest }
      let (key, feed) ←
        match rest with
        | .key :: _ => some (emptyScalar, feed)
        | .value :: _ => some (emptyScalar, feed)
        | .blockEnd :: _ => some (emptyScalar, feed)
        | _ => node handles true true fuel feed
      let (value, feed) ← blockValue handles fuel feed
      let (entries, feed) ← blockEntries handles fuel feed
      return ((key, value) :: entries, feed)
    | _ => none

def blockValue (handles : TagHandles) : Nat → Feed → Option (Node × Feed)
  | 0, _ => none
  | fuel + 1, feed =>
    match feed.tokens with
    | .fault :: _ => none
    | .value :: rest =>
      let feed := { feed with tokens := rest }
      match rest with
      | .key :: _ => some (emptyScalar, feed)
      | .value :: _ => some (emptyScalar, feed)
      | .blockEnd :: _ => some (emptyScalar, feed)
      | _ => node handles true true fuel feed
    | _ => some (emptyScalar, feed)

def flowItems (handles : TagHandles) (isFirst : Bool) : Nat → Feed → Option (List Node × Feed)
  | 0, _ => none
  | fuel + 1, feed =>
    match feed.tokens with
    | .flowSequenceEnd :: rest => some ([], { feed with tokens := rest })
    | tokens => do
      let tokens ←
        if isFirst then some tokens
        else
          match tokens with
          | .flowEntry :: rest => some rest
          | _ => none
      match tokens with
      | .flowSequenceEnd :: rest => some ([], { feed with tokens := rest })
      | .key :: rest => do
        let (item, feed) ← flowPair handles fuel { feed with tokens := rest }
        let (items, feed) ← flowItems handles false fuel feed
        return (item :: items, feed)
      | _ => do
        let (item, feed) ← node handles false false fuel { feed with tokens }
        let (items, feed) ← flowItems handles false fuel feed
        return (item :: items, feed)

/-- Reads an entry that stands in a flow sequence as a mapping of its own. Where its key is left out,
the token behind the place of the key is lost. -/
def flowPair (handles : TagHandles) : Nat → Feed → Option (Node × Feed)
  | 0, _ => none
  | fuel + 1, feed => do
    let (key, feed) ←
      match feed.tokens with
      | .value :: rest => some (emptyScalar, { feed with tokens := rest })
      | .flowEntry :: rest => some (emptyScalar, { feed with tokens := rest })
      | .flowSequenceEnd :: rest => some (emptyScalar, { feed with tokens := rest })
      | _ => node handles false false fuel feed
    let (value, feed) ←
      match feed.tokens with
      | .fault :: _ => none
      | .value :: .flowEntry :: rest => some (emptyScalar, { feed with tokens := .flowEntry :: rest })
      | .value :: .flowSequenceEnd :: rest =>
        some (emptyScalar, { feed with tokens := .flowSequenceEnd :: rest })
      | .value :: rest => node handles false false fuel { feed with tokens := rest }
      | _ => some (emptyScalar, feed)
    return (.mapping none none [(key, value)], feed)

def flowEntries (handles : TagHandles) (isFirst : Bool) :
    Nat → Feed → Option (List (Node × Node) × Feed)
  | 0, _ => none
  | fuel + 1, feed =>
    match feed.tokens with
    | .flowMappingEnd :: rest => some ([], { feed with tokens := rest })
    | tokens => do
      let tokens ←
        if isFirst then some tokens
        else
          match tokens with
          | .flowEntry :: rest => some rest
          | _ => none
      match tokens with
      | .flowMappingEnd :: rest => some ([], { feed with tokens := rest })
      | .key :: rest => do
        let feed := { feed with tokens := rest }
        let (key, feed) ←
          match rest with
          | .value :: _ => some (emptyScalar, feed)
          | .flowEntry :: _ => some (emptyScalar, feed)
          | .flowMappingEnd :: _ => some (emptyScalar, feed)
          | _ => node handles false false fuel feed
        let (value, feed) ←
          match feed.tokens with
          | .fault :: _ => none
          | .value :: .flowEntry :: rest =>
            some (emptyScalar, { feed with tokens := .flowEntry :: rest })
          | .value :: .flowMappingEnd :: rest =>
            some (emptyScalar, { feed with tokens := .flowMappingEnd :: rest })
          | .value :: rest => node handles false false fuel { feed with tokens := rest }
          | _ => some (emptyScalar, feed)
        let (entries, feed) ← flowEntries handles false fuel feed
        return ((key, value) :: entries, feed)
      | _ => do
        let (key, feed) ← node handles false false fuel { feed with tokens }
        if feed.tokens.head? = some .fault then none
        let (entries, feed) ← flowEntries handles false fuel feed
        return ((key, emptyScalar) :: entries, feed)

end

/-- Reads the directives in front of a document. The version is given once at most and has to be
known, and no handle is given twice. -/
def directives? : Bool → TagHandles → List Token → Option (TagHandles × List Token)
  | hasVersion, handles, .versionDirective major minor :: rest =>
    if hasVersion ∨ major ≠ 1 ∨ (minor ≠ 1 ∧ minor ≠ 2) then none
    else directives? true handles rest
  | hasVersion, handles, .tagDirective handle head :: rest =>
    if handles.any fun e => e.1 == handle then none
    else directives? hasVersion (handles ++ [(handle, head)]) rest
  | _, handles, tokens => some (handles ++ defaultHandles, tokens)

def rootNode? (handles : TagHandles) (tokens : List Token) : Option (Node × List Token) := do
  let (root, feed) ← node handles true false (4 * tokens.length + 4) { tokens, anchors := [] }
  match feed.tokens with
  | .documentEnd :: rest => some (root, rest)
  | .fault :: _ => none
  | rest => some (root, rest)

def content? (handles : TagHandles) (tokens : List Token) : Option (Node × List Token) :=
  match tokens with
  | .versionDirective .. :: _ => some (emptyScalar, tokens)
  | .tagDirective .. :: _ => some (emptyScalar, tokens)
  | .documentStart :: _ => some (emptyScalar, tokens)
  | .documentEnd :: rest => some (emptyScalar, rest)
  | .streamEnd :: _ => some (emptyScalar, tokens)
  | _ => rootNode? handles tokens

def marked? (tokens : List Token) : Option (Node × List Token) := do
  let (handles, tokens) ← directives? false [] tokens
  match tokens with
  | .documentStart :: rest => content? handles rest
  | _ => none

def laterDocuments : Nat → List Token → List Document
  | 0, _ => [.broken]
  | fuel + 1, tokens =>
    match tokens.dropWhile (· = .documentEnd) with
    | .streamEnd :: _ => []
    | tokens =>
      match marked? tokens with
      | some (root, rest) => .node root :: laterDocuments fuel rest
      | none => [.broken]

/-- Reads all documents; the first one needs no mark. What follows a broken one is not read. -/
def documentsOf (tokens : List Token) : List Document :=
  let first :=
    match tokens with
    | .versionDirective .. :: _ => marked? tokens
    | .tagDirective .. :: _ => marked? tokens
    | .documentStart :: _ => marked? tokens
    | _ => rootNode? defaultHandles tokens
  match tokens with
  | .streamEnd :: _ => [.void]
  | _ =>
    match first with
    | some (root, rest) => .node root :: laterDocuments tokens.length rest
    | none => [.broken]

def documents (s : String) : List Document := documentsOf (tokens s)

end Admission.Yaml
