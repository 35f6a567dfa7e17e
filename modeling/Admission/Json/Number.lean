import Admission.Number.Binary64
import Admission.Tree

/-!
Numbers of JSON texts. A literal without point and exponent that fits 64 bits, with a sign or
without, is an integer, but for a negative zero. Every other literal is a binary number: its leading
digits, as many as fit 64 bits, make a significand which is rounded first and then scaled by powers
of ten, each step rounding again. A literal beyond the greatest binary number has no value.
-/

namespace Admission.Json

open Number

def maxSignificand : Nat := UInt64.size - 1

/-- The significand of a run of digits, with the count of digits that did not fit. -/
def significand : Nat → List Char → Nat × Nat
  | value, [] => (value, 0)
  | value, c :: cs =>
    let next := value * 10 + (c.toNat - '0'.toNat)
    if next ≤ maxSignificand then significand next cs else (value, cs.length + 1)

def multiply (a b : Nat) : Nat :=
  let (n, d) := Binary64.toRatio a
  let (n', d') := Binary64.toRatio b
  Binary64.nearest (n * n') (d * d')

def divide (a b : Nat) : Nat :=
  let (n, d) := Binary64.toRatio a
  let (n', d') := Binary64.toRatio b
  Binary64.nearest (n * d') (d * n')

def powerOfTen (e : Nat) : Nat := Binary64.nearestDecimal 1 e

/-- Divides by `10 ^ e`, at most 308 places at a time, until nothing is left. -/
def scaleDown (f : Nat) (e : Nat) : Nat :=
  if e ≤ 308 then divide f (powerOfTen e)
  else if f = 0 then 0
  else scaleDown (divide f (powerOfTen 308)) (e - 308)
termination_by e

def scaled? (value : Nat) (exponent : Int) : Option Nat :=
  let f := Binary64.nearest value 1
  match exponent with
  | .ofNat e =>
    if e ≤ 308 then
      let product := multiply f (powerOfTen e)
      if product < Binary64.infinity then some product else none
    else if f = 0 then some 0 else none
  | .negSucc e => some (scaleDown f (e + 1))

/-- The value of an exponent that is written with these digits after a significand. Beyond 31 bits
it makes every significand zero, or beyond every range if it is positive. -/
def float? (value : Nat) (shift : Int) (negativeExponent : Bool) (exponentDigits : List Char) :
    Option Nat :=
  let e := Decimal.digitsValue 0 exponentDigits
  if e < 1 <<< 31 then scaled? value (if negativeExponent then shift - e else shift + e)
  else if value = 0 ∨ negativeExponent then some 0
  else none

def number (negative : Bool) (whole : List Char) (fraction : Option (List Char))
    (exponent : Option (Bool × List Char)) : Tree :=
  let (value, dropped) := significand 0 whole
  let ofMagnitude (m : Option Nat) : Tree :=
    match m with
    | some m => .float (Binary64.withSign negative m)
    | none => .unreadable
  match fraction, exponent with
  | none, none =>
    if dropped ≠ 0 then ofMagnitude (scaled? value dropped)
    else if !negative then .int value
    else if value = 0 ∨ 1 <<< 63 < value then .float (Binary64.withSign true (Binary64.nearest value 1))
    else .int (-value)
  | _, _ =>
    let (value, shift) : Nat × Int :=
      if dropped ≠ 0 then
        match fraction with
        | some digits =>
          let (value, lost) := significand value digits
          (value, Int.ofNat dropped - Int.ofNat (digits.length - lost))
        | none => (value, dropped)
      else
        match fraction with
        | some digits =>
          let (value, lost) := significand value digits
          (value, -Int.ofNat (digits.length - lost))
        | none => (value, 0)
    match exponent with
    | some (negativeExponent, digits) => ofMagnitude (float? value shift negativeExponent digits)
    | none => ofMagnitude (scaled? value shift)

end Admission.Json
