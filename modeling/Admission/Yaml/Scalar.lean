import Admission.Number.Binary64
import Admission.Tree

/-!
What scalars stand for. A plain scalar is nothing, a truth value, an integer, a number, or else a text;
a tag can ask for one of these, also where the scalar is quoted.
-/

namespace Admission.Yaml

open Number

def isNull (s : String) : Bool := s = "null" || s = "Null" || s = "NULL" || s = "~"

def bool? (s : String) : Option Bool :=
  if s = "true" ∨ s = "True" ∨ s = "TRUE" then some true
  else if s = "false" ∨ s = "False" ∨ s = "FALSE" then some false
  else none

def digitValue (c : Char) : Nat :=
  if c.isDigit then c.toNat - '0'.toNat
  else if 'a' ≤ c ∧ c ≤ 'z' then c.toNat - 'a'.toNat + 10
  else if 'A' ≤ c ∧ c ≤ 'Z' then c.toNat - 'A'.toNat + 10
  else 36

def natural? (base : Nat) (cs : List Char) : Option Nat :=
  if cs ≠ [] ∧ cs.all fun c => digitValue c < base then
    some (cs.foldl (fun n c => n * base + digitValue c) 0)
  else none

def dropSign : List Char → List Char
  | '-' :: cs => cs
  | '+' :: cs => cs
  | cs => cs

/-- Whether a zero in front makes digits a text. -/
def hasLeadingZero (cs : List Char) : Bool :=
  match dropSign cs with
  | '0' :: c :: cs => (c :: cs).all Char.isDigit
  | _ => false

def magnitude? (cs : List Char) : Option Nat :=
  match cs with
  | '0' :: 'x' :: digits => natural? 16 digits
  | '0' :: 'o' :: digits => natural? 8 digits
  | '0' :: 'b' :: digits => natural? 2 digits
  | _ => if hasLeadingZero cs then none else natural? 10 cs

def maxMagnitude (negative : Bool) (bits : Nat) : Nat :=
  if negative then 1 <<< (bits - 1) else (1 <<< bits) - 1

/-- The integer that a scalar stands for; one that needs 65 to 128 bits cannot be read. -/
def integer? (cs : List Char) : Option Tree :=
  let (negative, digits) :=
    match cs with
    | '-' :: cs => (true, cs)
    | '+' :: cs => (false, cs)
    | _ => (false, cs)
  match magnitude? digits with
  | none => none
  | some n =>
    if n ≤ maxMagnitude negative 64 then some (.int (if negative then -n else n))
    else if n ≤ maxMagnitude negative 128 then some .unreadable
    else none

def infinityText (s : String) : Bool := s = ".inf" || s = ".Inf" || s = ".INF"

/-- The pattern of the number that a scalar stands for. A literal beyond every range is none. -/
def float? (s : String) : Option UInt64 :=
  let (hasPlus, body) :=
    match s.toList with
    | '+' :: cs => (true, cs)
    | cs => (false, cs)
  let isSigned := body.head?.any fun c => c = '+' || c = '-'
  if hasPlus ∧ isSigned then none
  else if infinityText (String.ofList body) then some (Binary64.withSign false Binary64.infinity)
  else if s = "-.inf" ∨ s = "-.Inf" ∨ s = "-.INF" then
    some (Binary64.withSign true Binary64.infinity)
  else if s = ".nan" ∨ s = ".NaN" ∨ s = ".NAN" then some 0x7FF8000000000000
  else
    match Decimal.ofChars? body with
    | some (.finite negative coefficient exponent) =>
      let m := Binary64.nearestDecimal coefficient exponent
      if m < Binary64.infinity then some (Binary64.withSign negative m) else none
    | _ => none

def plainValue (s : String) : Tree :=
  if s = "" ∨ isNull s then .null
  else
    match bool? s with
    | some b => .bool b
    | none =>
      match integer? s.toList with
      | some n => n
      | none =>
        if hasLeadingZero s.toList then .text s
        else
          match float? s with
          | some bits => .float bits
          | none => .text s

def coreTag (name : String) : String := "tag:yaml.org,2002:" ++ name

/-- The name of a local tag: it begins with an exclamation mark. -/
def localTag? (tag : Option String) : Option String :=
  match tag.map String.toList with
  | some ('!' :: c :: cs) => some (String.ofList (c :: cs))
  | some ['!'] => some "!"
  | _ => none

/-- What a scalar stands for; `none` if it is not what its tag asks for. -/
def scalarValue? (tag : Option String) (isPlain : Bool) (s : String) : Option Tree :=
  match localTag? tag with
  | some name => some (.tagged name (if isPlain then plainValue s else .text s))
  | none =>
    match tag with
    | none => some (if isPlain then plainValue s else .text s)
    | some tag =>
      if tag = coreTag "bool" then (bool? s).map .bool
      else if tag = coreTag "int" then integer? s.toList
      else if tag = coreTag "float" then (float? s).map .float
      else if tag = coreTag "null" then if isNull s then some .null else none
      else some (.text s)

end Admission.Yaml
