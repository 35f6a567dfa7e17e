/-!
Decimal numbers as they are written: an optional sign, digits with an optional point, an optional
exponent, or one of the words for infinity and "not a number" in any case. A finite literal stands
for the exact value `coefficient * 10 ^ exponent`; what is asked of it here is whether the nearest
binary number of 64 bits is finite, and whether it is zero.
-/

namespace Admission.Number

inductive Decimal
  | finite (negative : Bool) (coefficient : Nat) (exponent : Int)
  | infinite (negative : Bool)
  | notANumber
  deriving DecidableEq, Repr

namespace Decimal

def digitsValue (value : Nat) (digits : List Char) : Nat :=
  digits.foldl (fun v c => v * 10 + (c.toNat - '0'.toNat)) value

def readExponent : List Char → Option Int
  | '-' :: cs => if cs ≠ [] ∧ cs.all Char.isDigit then some (-Int.ofNat (digitsValue 0 cs)) else none
  | '+' :: cs => if cs ≠ [] ∧ cs.all Char.isDigit then some (Int.ofNat (digitsValue 0 cs)) else none
  | cs => if cs ≠ [] ∧ cs.all Char.isDigit then some (Int.ofNat (digitsValue 0 cs)) else none

/-- Reads digits, an optional point with digits, and an optional exponent; a digit has to stand on
one side of the point at least. -/
def readUnsigned (negative : Bool) (cs : List Char) : Option Decimal :=
  let whole := cs.takeWhile Char.isDigit
  let afterWhole := cs.dropWhile Char.isDigit
  let (fraction, rest) :=
    match afterWhole with
    | '.' :: tail => (tail.takeWhile Char.isDigit, tail.dropWhile Char.isDigit)
    | _ => ([], afterWhole)
  if whole ++ fraction = [] then none
  else
    let coefficient := digitsValue (digitsValue 0 whole) fraction
    let shift : Int := -Int.ofNat fraction.length
    match rest with
    | [] => some (.finite negative coefficient shift)
    | mark :: tail =>
      if mark = 'e' ∨ mark = 'E' then
        (readExponent tail).map fun e => .finite negative coefficient (e + shift)
      else none

def readWord (negative : Bool) (cs : List Char) : Option Decimal :=
  let word := String.ofList (cs.map Char.toLower)
  if word = "inf" ∨ word = "infinity" then some (.infinite negative)
  else if word = "nan" then some .notANumber
  else none

def ofChars? (cs : List Char) : Option Decimal :=
  let (negative, body) :=
    match cs with
    | '-' :: tail => (true, tail)
    | '+' :: tail => (false, tail)
    | _ => (false, cs)
  (readUnsigned negative body).or (readWord negative body)

def ratio (coefficient : Nat) (exponent : Int) : Nat × Nat :=
  match exponent with
  | .ofNat e => (coefficient * Nat.pow 10 e, 1)
  | .negSucc e => (coefficient, Nat.pow 10 (e + 1))

/-- The place of the first digit: the value lies below `10 ^ magnitude` and, unless it is zero, not
below `10 ^ (magnitude - 1)`. -/
def magnitude (coefficient : Nat) (exponent : Int) : Int :=
  Int.ofNat (Nat.toDigits 10 coefficient).length + exponent

/-- Whether the nearest binary number of 64 bits is finite: the value lies below the middle between
the greatest finite one and the next power of two. Beyond 310 places no value does. -/
def staysFinite (coefficient : Nat) (exponent : Int) : Bool :=
  coefficient = 0 ||
    (magnitude coefficient exponent ≤ 310 &&
      (magnitude coefficient exponent < 0 ||
        (let (num, den) := ratio coefficient exponent
         num < den * ((1 <<< 1024) - (1 <<< 970)))))

/-- Whether the nearest binary number of 64 bits is zero: the value is at most half of the least
positive one. -/
def roundsToZero (coefficient : Nat) (exponent : Int) : Bool :=
  coefficient = 0 ||
    (magnitude coefficient exponent < 0 &&
      (magnitude coefficient exponent < -400 ||
        (let (num, den) := ratio coefficient exponent
         num <<< 1075 ≤ den)))

def isNonNegative : Decimal → Bool
  | finite negative coefficient exponent =>
    staysFinite coefficient exponent && (!negative || roundsToZero coefficient exponent)
  | infinite _ => false
  | notANumber => false

end Decimal
end Admission.Number
