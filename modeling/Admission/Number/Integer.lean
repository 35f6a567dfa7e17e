/-!
Signed 64-bit integers in decimal: one optional sign, then ASCII digits, read from the left, so that
the first character that does not fit decides the fault.
-/

namespace Admission.Number

inductive IntegerFault
  | empty
  | invalidDigit
  | tooLarge
  | tooSmall
  deriving DecidableEq, Repr

def IntegerFault.message : IntegerFault → String
  | .empty => "cannot parse integer from empty string"
  | .invalidDigit => "invalid digit found in string"
  | .tooLarge => "number too large to fit in target type"
  | .tooSmall => "number too small to fit in target type"

/-- The greatest and the least signed 64-bit integer. -/
def maxInteger : Int := 0x7FFFFFFFFFFFFFFF
def minInteger : Int := -0x8000000000000000

/-- Reads digits onto `value`, never beyond `limit`. -/
def readDigits (limit : Nat) (overflow : IntegerFault) :
    Nat → List Char → Except IntegerFault Nat
  | value, [] => .ok value
  | value, c :: cs =>
    if c.isDigit then
      let next := value * 10 + (c.toNat - '0'.toNat)
      if next ≤ limit then readDigits limit overflow next cs else .error overflow
    else .error .invalidDigit

def readInteger : List Char → Except IntegerFault Int
  | [] => .error .empty
  | ['+'] => .error .invalidDigit
  | ['-'] => .error .invalidDigit
  | '+' :: digits => (readDigits maxInteger.toNat .tooLarge 0 digits).map Int.ofNat
  | '-' :: digits => (readDigits minInteger.natAbs .tooSmall 0 digits).map fun n => -Int.ofNat n
  | digits => (readDigits maxInteger.toNat .tooLarge 0 digits).map Int.ofNat

end Admission.Number
