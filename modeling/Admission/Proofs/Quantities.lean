import Mathlib.Algebra.Order.Field.Power
import Mathlib.Algebra.Order.Field.Rat
import Mathlib.Tactic.Linarith
import Mathlib.Tactic.NormNum
import Mathlib.Tactic.Positivity
import Admission.Proofs.Literal

/-!
What counts as a quantity. Main statement: a text is read as a number that is finite and not
negative exactly when it is a decimal literal whose value rounds to such a binary number of 64 bits;
the value is exact, so both ends of the range are.
-/

namespace Admission.Number

/-- Digits with or without a point among them, the number that the digits make, and how many of them
stand behind the point. -/
inductive DenotesDigits : List Char → Nat → Nat → Prop
  | whole {digits : List Char} (hne : digits ≠ []) (hd : ∀ c ∈ digits, c.isDigit) :
    DenotesDigits digits (Decimal.digitsValue 0 digits) 0
  | pointed {whole fraction : List Char} (hne : whole ++ fraction ≠ [])
    (hwhole : ∀ c ∈ whole, c.isDigit) (hfraction : ∀ c ∈ fraction, c.isDigit) :
    DenotesDigits (whole ++ '.' :: fraction) (Decimal.digitsValue 0 (whole ++ fraction))
      fraction.length

inductive DenotesExponent : List Char → Int → Prop
  | none : DenotesExponent [] 0
  | marked {mark : Char} {cs : List Char} {e : Int} (hmark : mark = 'e' ∨ mark = 'E')
    (he : DenotesInteger cs e) : DenotesExponent (mark :: cs) e

/-- The value of a literal without its sign. -/
inductive DenotesUnsigned : List Char → Nat → Int → Prop
  | mk {digits exponent : List Char} {coefficient places : Nat} {e : Int}
    (hdigits : DenotesDigits digits coefficient places) (he : DenotesExponent exponent e) :
    DenotesUnsigned (digits ++ exponent) coefficient (e - places)

/-- The value that a decimal literal stands for: an optional sign, digits with an optional point,
an optional exponent. -/
inductive DenotesDecimal : List Char → ℚ → Prop
  | plain {cs : List Char} {coefficient : Nat} {e : Int} (h : DenotesUnsigned cs coefficient e) :
    DenotesDecimal cs (coefficient * 10 ^ e)
  | plus {cs : List Char} {coefficient : Nat} {e : Int} (h : DenotesUnsigned cs coefficient e) :
    DenotesDecimal ('+' :: cs) (coefficient * 10 ^ e)
  | minus {cs : List Char} {coefficient : Nat} {e : Int} (h : DenotesUnsigned cs coefficient e) :
    DenotesDecimal ('-' :: cs) (-(coefficient * 10 ^ e))

/-- An exponent does not begin as digits do. -/
theorem DenotesExponent.head? {cs : List Char} {e : Int} (h : DenotesExponent cs e) :
    ∀ c ∈ cs.head?, c.isDigit = false ∧ c ≠ '.' := by
  intro c hc
  cases h with
  | none => cases hc
  | marked hmark _ =>
    cases hc
    rcases hmark with rfl | rfl <;> decide

namespace Decimal

theorem digitsValue_append (value : Nat) (xs ys : List Char) :
    digitsValue value (xs ++ ys) = digitsValue (digitsValue value xs) ys :=
  List.foldl_append

theorem takeWhile_digits {digits rest : List Char} (hd : ∀ c ∈ digits, c.isDigit)
    (hrest : ∀ c ∈ rest.head?, c.isDigit = false) :
    (digits ++ rest).takeWhile Char.isDigit = digits ∧
      (digits ++ rest).dropWhile Char.isDigit = rest := by
  rw [List.takeWhile_append_of_pos hd, List.dropWhile_append_of_pos hd]
  cases rest with
  | nil => simp
  | cons c cs =>
    have hc : c.isDigit = false := hrest c rfl
    simp [hc]

/-- Nothing is lost between the digits in front and what follows them. -/
theorem exists_digits (cs : List Char) :
    cs = cs.takeWhile Char.isDigit ++ cs.dropWhile Char.isDigit ∧
      ∀ c ∈ cs.takeWhile Char.isDigit, c.isDigit :=
  ⟨List.takeWhile_append_dropWhile.symm, fun c hc => List.all_eq_true.1 List.all_takeWhile c hc⟩

theorem readExponent_eq_some {cs : List Char} {e : Int} :
    readExponent cs = some e ↔ DenotesInteger cs e := by
  have hdigits (digits : List Char) (n : Int) :
      (if digits ≠ [] ∧ digits.all Char.isDigit then some n else none) = some e ↔
        digits ≠ [] ∧ (∀ c ∈ digits, c.isDigit) ∧ n = e := by
    simp only [List.all_eq_true]
    split
    · next h => rw [Option.some.injEq, and_iff_right h.1, and_iff_right h.2]
    · next h =>
      simp only [reduceCtorEq, false_iff]
      exact fun hgiven => h ⟨hgiven.1, hgiven.2.1⟩
  unfold readExponent
  split
  case h_1 => exact (hdigits _ _).trans denotesInteger_minus_iff.symm
  case h_2 => exact (hdigits _ _).trans denotesInteger_plus_iff.symm
  case h_3 hminus hplus =>
    refine (hdigits _ _).trans (denotesInteger_plain_iff ?_).symm
    rintro c rest rfl
    exact ⟨fun h => hplus rest (by rw [h]), fun h => hminus rest (by rw [h])⟩

/-- What stands behind the digits of a literal is its exponent. -/
theorem exponent_eq_some {negative : Bool} {coefficient places : Nat} {rest : List Char}
    {d : Decimal} :
    (match rest with
      | [] => some (finite negative coefficient (-Int.ofNat places))
      | mark :: tail =>
        if mark = 'e' ∨ mark = 'E' then
          (readExponent tail).map fun e => finite negative coefficient (e + -Int.ofNat places)
        else none) = some d ↔
      ∃ e, DenotesExponent rest e ∧ d = .finite negative coefficient (e - places) := by
  cases rest with
  | nil =>
    constructor
    · intro h
      cases h
      exact ⟨0, .none, by simp⟩
    · rintro ⟨e, he, rfl⟩
      cases he
      simp
  | cons mark tail =>
    dsimp only
    split
    · next hmark =>
      simp only [Option.map_eq_some_iff, readExponent_eq_some]
      constructor
      · rintro ⟨e, he, rfl⟩
        exact ⟨e, .marked hmark he, rfl⟩
      · rintro ⟨e, he, rfl⟩
        cases he with
        | marked _ he => exact ⟨e, he, rfl⟩
    · next hmark =>
      simp only [reduceCtorEq, false_iff]
      rintro ⟨e, he, -⟩
      cases he with
      | marked hmarked _ => exact hmark hmarked

/-- The digits of a literal with a point go on behind the point. -/
theorem readUnsigned_of_point {negative : Bool} {cs tail : List Char} {d : Decimal}
    (h : cs.dropWhile Char.isDigit = '.' :: tail) :
    readUnsigned negative cs = some d ↔
      cs.takeWhile Char.isDigit ++ tail.takeWhile Char.isDigit ≠ [] ∧
        ∃ e, DenotesExponent (tail.dropWhile Char.isDigit) e ∧
          d = .finite negative
            (digitsValue 0 (cs.takeWhile Char.isDigit ++ tail.takeWhile Char.isDigit))
            (e - (tail.takeWhile Char.isDigit).length) := by
  unfold readUnsigned
  dsimp only
  split
  case h_1 other hother =>
    cases h.symm.trans hother
    split
    · next hnil => simp [hnil]
    · next hne =>
      rw [and_iff_right hne, digitsValue_append]
      exact exponent_eq_some
  case h_2 hnone => exact absurd h (hnone tail)

theorem readUnsigned_of_no_point {negative : Bool} {cs : List Char} {d : Decimal}
    (h : ∀ tail, cs.dropWhile Char.isDigit ≠ '.' :: tail) :
    readUnsigned negative cs = some d ↔
      cs.takeWhile Char.isDigit ≠ [] ∧ ∃ e, DenotesExponent (cs.dropWhile Char.isDigit) e ∧
        d = .finite negative (digitsValue 0 (cs.takeWhile Char.isDigit)) (e - (0 : Nat)) := by
  unfold readUnsigned
  dsimp only
  split
  case h_1 tail htail => exact absurd htail (h tail)
  case h_2 =>
    rw [List.append_nil]
    split
    · next hnil => simp [hnil]
    · next hne =>
      rw [and_iff_right hne]
      exact exponent_eq_some

theorem readUnsigned_eq_some_iff {negative : Bool} {cs : List Char} {d : Decimal} :
    readUnsigned negative cs = some d ↔
      ∃ coefficient e, DenotesUnsigned cs coefficient e ∧ d = .finite negative coefficient e := by
  constructor
  · intro h
    obtain ⟨hsplit, hwhole⟩ := exists_digits cs
    by_cases hpoint : ∃ tail, cs.dropWhile Char.isDigit = '.' :: tail
    · obtain ⟨tail, htail⟩ := hpoint
      obtain ⟨htsplit, hfraction⟩ := exists_digits tail
      obtain ⟨hne, e, he, rfl⟩ := (readUnsigned_of_point htail).1 h
      have hcs : cs = (cs.takeWhile Char.isDigit ++ '.' :: tail.takeWhile Char.isDigit) ++
          tail.dropWhile Char.isDigit := by
        rw [List.append_assoc, List.cons_append, ← htsplit, ← htail, ← hsplit]
      have hall := DenotesUnsigned.mk (.pointed hne hwhole hfraction) he
      rw [← hcs] at hall
      exact ⟨_, _, hall, rfl⟩
    · obtain ⟨hne, e, he, rfl⟩ :=
        (readUnsigned_of_no_point fun tail htail => hpoint ⟨tail, htail⟩).1 h
      have hall := DenotesUnsigned.mk (.whole hne hwhole) he
      rw [← hsplit] at hall
      exact ⟨_, _, hall, rfl⟩
  · rintro ⟨coefficient, e, hcs, rfl⟩
    cases hcs with
    | @mk digits exponent _ _ _ hdigits he =>
    -- What follows the digits is a mark or nothing, so they end where they should.
    have hhead := he.head?
    cases hdigits with
    | whole hne hd =>
      obtain ⟨htake, hdrop⟩ := takeWhile_digits hd fun c hc => (hhead c hc).1
      have hpoint : ∀ tail, (digits ++ exponent).dropWhile Char.isDigit ≠ '.' :: tail := by
        rw [hdrop]
        rintro tail rfl
        exact (hhead '.' rfl).2 rfl
      rw [readUnsigned_of_no_point hpoint, htake, hdrop]
      exact ⟨hne, _, he, rfl⟩
    | @pointed whole fraction hne hwhole hfraction =>
      have hdot : ∀ c ∈ ('.' :: (fraction ++ exponent)).head?, c.isDigit = false := by
        intro c hc
        cases hc
        rfl
      obtain ⟨htake, hdrop⟩ := takeWhile_digits hwhole hdot
      obtain ⟨htake', hdrop'⟩ := takeWhile_digits hfraction fun c hc => (hhead c hc).1
      rw [List.append_assoc, List.cons_append, readUnsigned_of_point hdrop, htake, htake', hdrop']
      exact ⟨hne, _, he, rfl⟩

/-- A literal without its sign begins with a digit or a point. -/
theorem ne_sign_of_denotesUnsigned {c : Char} {cs : List Char} {coefficient : Nat} {e : Int}
    (h : DenotesUnsigned (c :: cs) coefficient e) : c ≠ '+' ∧ c ≠ '-' := by
  have hdigit {c : Char} (hc : c.isDigit = true) : c ≠ '+' ∧ c ≠ '-' := by
    constructor <;> rintro rfl <;> cases hc
  generalize hcs : c :: cs = text at h
  cases h with
  | mk hdigits _ =>
    cases hdigits with
    | whole hne hd =>
      obtain ⟨d, ds, rfl⟩ := List.exists_cons_of_ne_nil hne
      cases hcs
      exact hdigit (hd _ List.mem_cons_self)
    | @pointed whole fraction _ hwhole _ =>
      cases whole with
      | nil =>
        cases hcs
        decide
      | cons d ds =>
        cases hcs
        exact hdigit (hwhole _ List.mem_cons_self)

end Decimal

/-- From here on the nearest binary number of 64 bits is infinite: the middle between the greatest
finite one and the next power of two. -/
def overflow : ℚ := 2 ^ 1024 - 2 ^ 970

/-- Up to here, which is half of the least positive binary number of 64 bits, the nearest one is
zero. -/
def underflow : ℚ := 1 / 2 ^ 1075

/-- The nearest binary number of 64 bits is finite and not below zero. -/
def IsQuantity (v : ℚ) : Prop := -underflow ≤ v ∧ v < overflow

theorem one_le_overflow : 1 ≤ overflow := by
  have hsplit : (2 : ℚ) ^ 1024 = 2 ^ 970 * 2 ^ 54 := pow_add 2 970 54
  have hpow : (1 : ℚ) ≤ 2 ^ 970 := one_le_pow₀ (by norm_num)
  have hrest : (1 : ℚ) ≤ 2 ^ 54 - 1 := by norm_num
  calc (1 : ℚ) ≤ 2 ^ 970 * (2 ^ 54 - 1) := one_le_mul_of_one_le_of_one_le hpow hrest
    _ = overflow := by rw [overflow, hsplit, mul_sub, mul_one]

theorem overflow_le : overflow ≤ 10 ^ 310 := by
  have hbase : (2 : ℚ) ^ 205 ≤ 10 ^ 62 := by norm_num
  calc overflow ≤ 2 ^ 1024 := sub_le_self _ (by positivity)
    _ ≤ 2 ^ (205 * 5) := pow_le_pow_right₀ (by norm_num) (by norm_num)
    _ = (2 ^ 205) ^ 5 := pow_mul 2 205 5
    _ ≤ (10 ^ 62) ^ 5 := pow_le_pow_left₀ (by positivity) hbase 5
    _ = 10 ^ 310 := (pow_mul 10 62 5).symm

theorem underflow_pos : 0 < underflow := by
  unfold underflow
  positivity

theorem underflow_lt : underflow < 1 / 10 := by
  have hpow : (10 : ℚ) < 2 ^ 1075 :=
    lt_of_lt_of_le (by norm_num : (10 : ℚ) < 2 ^ 4) (pow_le_pow_right₀ (by norm_num) (by norm_num))
  exact one_div_lt_one_div_of_lt (by norm_num) hpow

theorem le_underflow : 1 / 10 ^ 400 ≤ underflow := by
  have hbase : (2 : ℚ) ^ 215 ≤ 10 ^ 65 := by norm_num
  have hpow : (2 : ℚ) ^ 1075 ≤ 10 ^ 400 := by
    calc (2 : ℚ) ^ 1075 = (2 ^ 215) ^ 5 := pow_mul 2 215 5
      _ ≤ (10 ^ 65) ^ 5 := pow_le_pow_left₀ (by positivity) hbase 5
      _ = 10 ^ 325 := (pow_mul 10 65 5).symm
      _ ≤ 10 ^ 400 := pow_le_pow_right₀ (by norm_num) (by norm_num)
  exact one_div_le_one_div_of_le (by positivity) hpow

namespace Decimal

/-- A number has as many digits as its size asks for. -/
theorem length_toDigits_bounds {n : Nat} (hn : n ≠ 0) :
    10 ^ ((Nat.toDigits 10 n).length - 1) ≤ n ∧ n < 10 ^ (Nat.toDigits 10 n).length := by
  have hpos : 0 < (Nat.toDigits 10 n).length := Nat.length_toDigits_pos
  refine ⟨?_, (Nat.length_toDigits_le_iff (by norm_num) hpos).1 le_rfl⟩
  by_cases hone : (Nat.toDigits 10 n).length = 1
  · rw [hone]
    exact Nat.one_le_iff_ne_zero.2 hn
  · by_contra hlt
    have hshort := (Nat.length_toDigits_le_iff (b := 10) (k := (Nat.toDigits 10 n).length - 1)
      (by norm_num) (by omega)).2 (not_le.1 hlt)
    omega

theorem magnitude_bounds {coefficient : Nat} (hc : coefficient ≠ 0) (exponent : Int) :
    (10 : ℚ) ^ (magnitude coefficient exponent - 1) ≤ coefficient * 10 ^ exponent ∧
      (coefficient : ℚ) * 10 ^ exponent < 10 ^ magnitude coefficient exponent := by
  obtain ⟨hlow, hhigh⟩ := length_toDigits_bounds hc
  have hpos : 0 < (Nat.toDigits 10 coefficient).length := Nat.length_toDigits_pos
  have hten : (0 : ℚ) < 10 ^ exponent := by positivity
  have hsplit : magnitude coefficient exponent - 1 =
      ((Nat.toDigits 10 coefficient).length - 1 : Nat) + exponent := by
    unfold magnitude
    simp only [Int.ofNat_eq_natCast]
    omega
  constructor
  · rw [hsplit, zpow_add₀ (by norm_num), zpow_natCast]
    exact mul_le_mul_of_nonneg_right (by exact_mod_cast hlow) hten.le
  · unfold magnitude
    rw [zpow_add₀ (by norm_num), Int.ofNat_eq_natCast, zpow_natCast]
    exact mul_lt_mul_of_pos_right (by exact_mod_cast hhigh) hten

theorem ratio_eq (coefficient : Nat) (exponent : Int) :
    0 < (ratio coefficient exponent).2 ∧
      (coefficient : ℚ) * 10 ^ exponent =
        (ratio coefficient exponent).1 / (ratio coefficient exponent).2 := by
  cases exponent with
  | ofNat n => simp [ratio]
  | negSucc n => simp [ratio, zpow_negSucc, div_eq_mul_inv]

theorem cast_shiftLeft_sub {m n : Nat} (h : n ≤ m) :
    (((1 <<< m) - (1 <<< n) : Nat) : ℚ) = 2 ^ m - 2 ^ n := by
  rw [Nat.one_shiftLeft, Nat.one_shiftLeft, Nat.cast_sub (Nat.pow_le_pow_right two_pos h)]
  push_cast
  rfl

theorem shiftLeft_le_iff {num den k : Nat} (hden : 0 < den) :
    num <<< k ≤ den ↔ (num : ℚ) / den ≤ 1 / 2 ^ k := by
  have hden' : (0 : ℚ) < den := by exact_mod_cast hden
  rw [div_le_div_iff₀ hden' (by positivity), one_mul, Nat.shiftLeft_eq]
  norm_cast

/-- The test for a finite number compares the exact value; that it looks at the number of digits
first only spares it great powers. -/
theorem staysFinite_iff {coefficient : Nat} {exponent : Int} :
    staysFinite coefficient exponent = true ↔ (coefficient : ℚ) * 10 ^ exponent < overflow := by
  have hlimit : (((1 <<< 1024) - (1 <<< 970) : Nat) : ℚ) = overflow :=
    cast_shiftLeft_sub (by norm_num)
  obtain ⟨hden, hvalue⟩ := ratio_eq coefficient exponent
  have hexact : (ratio coefficient exponent).1 <
      (ratio coefficient exponent).2 * ((1 <<< 1024) - (1 <<< 970)) ↔
        (coefficient : ℚ) * 10 ^ exponent < overflow := by
    rw [hvalue, ← hlimit, div_lt_iff₀' (by exact_mod_cast hden)]
    norm_cast
  by_cases hc : coefficient = 0
  · subst hc
    simpa [staysFinite] using lt_of_lt_of_le one_pos one_le_overflow
  · obtain ⟨hlow, hhigh⟩ := magnitude_bounds hc exponent
    by_cases hgreat : magnitude coefficient exponent ≤ 310
    · by_cases hsmall : magnitude coefficient exponent < 0
      · have hone : (10 : ℚ) ^ magnitude coefficient exponent ≤ 1 :=
          zpow_le_one_of_nonpos₀ (by norm_num) hsmall.le
        have hlt := lt_of_lt_of_le hhigh (hone.trans one_le_overflow)
        simp [staysFinite, hc, hgreat, hsmall, hlt]
      · simpa [staysFinite, hc, hgreat, hsmall] using hexact
    · have hpow : (10 : ℚ) ^ (310 : Int) ≤ 10 ^ (magnitude coefficient exponent - 1) :=
        zpow_le_zpow_right₀ (by norm_num) (by omega)
      have hge : overflow ≤ (coefficient : ℚ) * 10 ^ exponent :=
        (overflow_le.trans hpow).trans hlow
      simp [staysFinite, hc, hgreat, hge]

theorem roundsToZero_iff {coefficient : Nat} {exponent : Int} :
    roundsToZero coefficient exponent = true ↔
      (coefficient : ℚ) * 10 ^ exponent ≤ underflow := by
  obtain ⟨hden, hvalue⟩ := ratio_eq coefficient exponent
  have hexact : (ratio coefficient exponent).1 <<< 1075 ≤ (ratio coefficient exponent).2 ↔
      (coefficient : ℚ) * 10 ^ exponent ≤ underflow := by
    rw [hvalue]
    exact shiftLeft_le_iff hden
  by_cases hc : coefficient = 0
  · subst hc
    simpa [roundsToZero] using underflow_pos.le
  · obtain ⟨hlow, hhigh⟩ := magnitude_bounds hc exponent
    by_cases hsmall : magnitude coefficient exponent < 0
    · by_cases htiny : magnitude coefficient exponent < -400
      · have hpow : (10 : ℚ) ^ magnitude coefficient exponent ≤ 10 ^ (-400 : Int) :=
          zpow_le_zpow_right₀ (by norm_num) htiny.le
        have hle : (coefficient : ℚ) * 10 ^ exponent ≤ underflow := by
          refine (hhigh.le.trans hpow).trans (le_trans (le_of_eq ?_) le_underflow)
          rw [zpow_neg, one_div]
          rfl
        simp [roundsToZero, hc, hsmall, htiny, hle]
      · simpa [roundsToZero, hc, hsmall, htiny] using hexact
    · have hpow : (10 : ℚ) ^ (-1 : Int) ≤ 10 ^ (magnitude coefficient exponent - 1) :=
        zpow_le_zpow_right₀ (by norm_num) (by omega)
      have hlt : underflow < (coefficient : ℚ) * 10 ^ exponent := by
        refine lt_of_lt_of_le underflow_lt (le_trans (le_of_eq ?_) (hpow.trans hlow))
        norm_num
      simp [roundsToZero, hc, hsmall, hlt]

theorem isNonNegative_finite_iff {negative : Bool} {coefficient : Nat} {exponent : Int} :
    (finite negative coefficient exponent).isNonNegative = true ↔
      IsQuantity
        (if negative then -(coefficient * 10 ^ exponent) else coefficient * 10 ^ exponent) := by
  have hvalue : (0 : ℚ) ≤ coefficient * 10 ^ exponent := by positivity
  have hunder := underflow_pos
  have hover := one_le_overflow
  have hlt := underflow_lt
  unfold isNonNegative IsQuantity
  cases negative with
  | false =>
    simp only [Bool.not_false, Bool.true_or, Bool.and_true, staysFinite_iff, Bool.false_eq_true,
      if_false]
    constructor
    · exact fun h => ⟨by linarith, h⟩
    · exact fun h => h.2
  | true =>
    simp only [Bool.not_true, Bool.false_or, Bool.and_eq_true, staysFinite_iff, roundsToZero_iff,
      if_true]
    constructor
    · exact fun h => ⟨by linarith, by linarith⟩
    · exact fun h => ⟨by linarith, by linarith⟩

/-- The words that are read are no finite numbers. -/
theorem any_readWord (negative : Bool) (cs : List Char) :
    (readWord negative cs).any isNonNegative = false := by
  unfold readWord
  dsimp only
  split
  · rfl
  · split <;> rfl

theorem any_read_iff {negative : Bool} {cs : List Char} :
    ((readUnsigned negative cs).or (readWord negative cs)).any isNonNegative = true ↔
      ∃ (coefficient : Nat) (e : Int), DenotesUnsigned cs coefficient e ∧
        IsQuantity (if negative then -(coefficient * 10 ^ e) else coefficient * 10 ^ e) := by
  cases hread : readUnsigned negative cs with
  | none =>
    rw [Option.none_or, any_readWord]
    simp only [Bool.false_eq_true, false_iff]
    rintro ⟨coefficient, e, hdenotes, -⟩
    rw [readUnsigned_eq_some_iff.2 ⟨_, _, hdenotes, rfl⟩] at hread
    cases hread
  | some d =>
    obtain ⟨coefficient, e, hdenotes, rfl⟩ := readUnsigned_eq_some_iff.1 hread
    rw [Option.some_or, Option.any_some, isNonNegative_finite_iff]
    constructor
    · exact fun h => ⟨coefficient, e, hdenotes, h⟩
    · rintro ⟨coefficient', e', hdenotes', h⟩
      rw [readUnsigned_eq_some_iff.2 ⟨_, _, hdenotes', rfl⟩] at hread
      cases hread
      exact h

/-- A text is read as a number that is finite and not below zero if it is a decimal literal whose
value is in the range of these. -/
theorem any_ofChars?_iff {cs : List Char} :
    (ofChars? cs).any isNonNegative = true ↔ ∃ v, DenotesDecimal cs v ∧ IsQuantity v := by
  unfold ofChars?
  dsimp only
  split
  case h_1 tail =>
    rw [any_read_iff]
    constructor
    · rintro ⟨coefficient, e, h, hv⟩
      exact ⟨_, .minus h, hv⟩
    · rintro ⟨v, h, hv⟩
      cases h with
      | plain h => exact absurd rfl (ne_sign_of_denotesUnsigned h).2
      | minus h => exact ⟨_, _, h, hv⟩
  case h_2 tail =>
    rw [any_read_iff]
    constructor
    · rintro ⟨coefficient, e, h, hv⟩
      exact ⟨_, .plus h, hv⟩
    · rintro ⟨v, h, hv⟩
      cases h with
      | plain h => exact absurd rfl (ne_sign_of_denotesUnsigned h).1
      | plus h => exact ⟨_, _, h, hv⟩
  case h_3 hminus hplus =>
    rw [any_read_iff]
    constructor
    · rintro ⟨coefficient, e, h, hv⟩
      exact ⟨_, .plain h, hv⟩
    · rintro ⟨v, h, hv⟩
      cases h with
      | plain h => exact ⟨_, _, h, hv⟩
      | plus h => exact absurd rfl (hplus _)
      | minus h => exact absurd rfl (hminus _)

end Decimal
end Admission.Number
