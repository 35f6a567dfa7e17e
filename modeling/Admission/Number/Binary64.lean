import Admission.Number.Decimal

/-!
Binary numbers of 64 bits as bit patterns, with exact rounding: `nearest` is the magnitude pattern
closest to a ratio, ties to the even one. A pattern stands for `mantissa * 2 ^ exponent`.
-/

namespace Admission.Number.Binary64

def infinity : Nat := 0x7FF <<< 52

/-- The ratio times `2 ^ -e`, again as a ratio. -/
def scale (num den : Nat) : Int → Nat × Nat
  | .ofNat e => (num, den <<< e)
  | .negSucc e => (num <<< (e + 1), den)

/-- The quotient rounded to the nearest integer, a half to the even one. -/
def roundHalfEven (num den : Nat) : Nat :=
  let q := num / den
  let r := num % den
  if 2 * r < den then q else if den < 2 * r then q + 1 else q + q % 2

/-- The magnitude pattern nearest to `num / den`, a half to the even one. The last place has the
weight `2 ^ e` with `e` as small as the 53 bits of a mantissa allow, and never below `2 ^ -1074`. -/
def nearest (num den : Nat) : Nat :=
  if num = 0 then 0
  else
    let guess : Int := max (-1074) (Int.ofNat num.log2 - Int.ofNat den.log2 - 53)
    let (n, d) := scale num den guess
    let e := if n / d < 1 <<< 53 then guess else guess + 1
    let (n, d) := scale num den e
    min infinity ((e + 1074).toNat <<< 52 + roundHalfEven n d)

def parts (pattern : Nat) : Nat × Int :=
  let e := pattern >>> 52
  let f := pattern % (1 <<< 52)
  if e = 0 then (f, -1074) else (f + (1 <<< 52), Int.ofNat e - 1075)

def toRatio (pattern : Nat) : Nat × Nat :=
  let (m, e) := parts pattern
  match e with
  | .ofNat e => (m <<< e, 1)
  | .negSucc e => (m, 1 <<< (e + 1))

def withSign (negative : Bool) (pattern : Nat) : UInt64 :=
  UInt64.ofNat (if negative then pattern + (1 <<< 63) else pattern)

def isNegative (bits : UInt64) : Bool := 1 <<< 63 ≤ bits.toNat

def magnitude (bits : UInt64) : Nat := bits.toNat % (1 <<< 63)

def isFinite (bits : UInt64) : Bool := magnitude bits < infinity

def nearestDecimal (coefficient : Nat) (exponent : Int) : Nat :=
  if !Decimal.staysFinite coefficient exponent then infinity
  else if Decimal.roundsToZero coefficient exponent then 0
  else
    let (num, den) := Decimal.ratio coefficient exponent
    nearest num den

/-- The finite value in decimal digits: exact, with a point, and with no zero at the end but the one
that keeps the point in sight. -/
def toText (bits : UInt64) : String :=
  let (m, e) := parts (magnitude bits)
  let body :=
    match e with
    | .ofNat e => toString (m <<< e) ++ ".0"
    | .negSucc e =>
      let places := e + 1
      let scaled := m * Nat.pow 5 places
      let fraction := toString (scaled % Nat.pow 10 places)
      let padded := List.replicate (places - fraction.length) '0' ++ fraction.toList
      let kept := (padded.reverse.dropWhile (· = '0')).reverse
      toString (scaled / Nat.pow 10 places) ++ "." ++ String.ofList (if kept = [] then ['0'] else kept)
  if isNegative bits then "-" ++ body else body

end Admission.Number.Binary64
