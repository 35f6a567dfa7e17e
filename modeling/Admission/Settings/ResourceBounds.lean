import Admission.Number.Decimal
import Admission.Settings.Value

/-!
Settings for the CPU and memory that containers ask for and are limited to. Each part of the criterion
sets one of eight cells to its text; the last part for a cell counts.
-/

namespace Admission.Settings

structure Bounds where
  maxLimit : Option String := none
  maxRequest : Option String := none
  minLimit : Option String := none
  minRequest : Option String := none
  deriving DecidableEq, Repr

structure ResourceBounds where
  cpu : Bounds := {}
  memory : Bounds := {}
  deriving DecidableEq, Repr

inductive BoundSide
  | max
  | min
  deriving DecidableEq, Repr

namespace BoundSide

def ofOperator? (operator : String) : Option BoundSide :=
  match Operator.ofText? operator with
  | some .above => some max
  | some .atMost => some min
  | _ => none

end BoundSide

namespace Bounds

def setLimit (bounds : Bounds) (side : BoundSide) (quantity : String) : Bounds :=
  match side with
  | .max => { bounds with maxLimit := some quantity }
  | .min => { bounds with minLimit := some quantity }

def setRequest (bounds : Bounds) (side : BoundSide) (quantity : String) : Bounds :=
  match side with
  | .max => { bounds with maxRequest := some quantity }
  | .min => { bounds with minRequest := some quantity }

def cell (name : String) (quantity : Option String) : List (String × Tree) :=
  (quantity.map fun q => (name, Tree.text q)).toList

def entries (bounds : Bounds) : List (String × Tree) :=
  cell "maxLimit" bounds.maxLimit ++ cell "maxRequest" bounds.maxRequest ++
    cell "minLimit" bounds.minLimit ++ cell "minRequest" bounds.minRequest

end Bounds

namespace ResourceBounds

/-- The text of a quantity: a number that is finite and not negative, without the blanks around. -/
def quantity (part : Criterion) : Except SettingsFault String :=
  if (Number.Decimal.ofChars? (Text.trimChars part.value.toList)).any
      Number.Decimal.isNonNegative then
    .ok (Text.trim part.value)
  else .error (.notQuantity part.name part.value)

def add (settings : ResourceBounds) (part : Criterion) : Except SettingsFault ResourceBounds :=
  match BoundSide.ofOperator? part.operator with
  | none => .error (.foreignPartOperator part.operator part.name)
  | some side => do
    let q ← quantity part
    if part.name = "cpuLimit" then return { settings with cpu := settings.cpu.setLimit side q }
    else if part.name = "cpuRequest" then
      return { settings with cpu := settings.cpu.setRequest side q }
    else if part.name = "memoryLimit" then
      return { settings with memory := settings.memory.setLimit side q }
    else if part.name = "memoryRequest" then
      return { settings with memory := settings.memory.setRequest side q }
    else throw (.foreignPart part.name)

def ofCriteria (criteria : List Criterion) : Except SettingsFault ResourceBounds := do
  let c ← single criteria
  if c.parts.isEmpty then throw (.noParts c.name)
  c.parts.foldlM add {}

/-- One resource, unless none of its cells is set. -/
def section? (name : String) (bounds : Bounds) : List (String × Tree) :=
  if bounds.entries.isEmpty then [] else [(name, Tree.object bounds.entries)]

def toTree (settings : ResourceBounds) : Tree :=
  Tree.object (section? "cpu" settings.cpu ++ section? "memory" settings.memory)

end ResourceBounds
end Admission.Settings
