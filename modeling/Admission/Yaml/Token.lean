/-!
The tokens of YAML texts. Where the nesting is shown by indentation, the ends of collections are
tokens too.
-/

namespace Admission.Yaml

inductive ScalarStyle
  | plain
  | quoted
  /-- A block that keeps its line ends. -/
  | literal
  /-- A block whose lines are joined. -/
  | folded
  deriving DecidableEq, Inhabited, Repr

inductive Token
  | versionDirective (major minor : Nat)
  | tagDirective (handle head : List Char)
  | documentStart
  | documentEnd
  | blockSequenceStart
  | blockMappingStart
  | blockEnd
  | flowSequenceStart
  | flowSequenceEnd
  | flowMappingStart
  | flowMappingEnd
  | blockEntry
  | flowEntry
  | key
  | value
  | reference (name : List Char)
  | anchor (name : List Char)
  | tag (handle suffix : List Char)
  | scalar (text : List Char) (style : ScalarStyle)
  | streamEnd
  /-- Nothing can be read from here on. -/
  | fault
  deriving DecidableEq, Inhabited, Repr

end Admission.Yaml
