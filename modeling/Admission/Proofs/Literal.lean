import Admission.Number.Decimal
import Admission.Proofs.Success
import Admission.Settings.Value

/-!
What counts as a literal. Main statements: the integers that are read are exactly those that a sign
and digits denote within 64 bits, and a count is such an integer, not below zero, between blanks.
-/

namespace Admission.Number

/-- The integer that an optional sign and at least one digit denote. -/
inductive DenotesInteger : List Char → Int → Prop
  | plain {digits : List Char} (hne : digits ≠ []) (hd : ∀ c ∈ digits, c.isDigit) :
    DenotesInteger digits (Decimal.digitsValue 0 digits)
  | plus {digits : List Char} (hne : digits ≠ []) (hd : ∀ c ∈ digits, c.isDigit) :
    DenotesInteger ('+' :: digits) (Decimal.digitsValue 0 digits)
  | minus {digits : List Char} (hne : digits ≠ []) (hd : ∀ c ∈ digits, c.isDigit) :
    DenotesInteger ('-' :: digits) (-(Decimal.digitsValue 0 digits : Int))

theorem le_digitsValue (value : Nat) (digits : List Char) :
    value ≤ Decimal.digitsValue value digits := by
  induction digits generalizing value with
  | nil => exact Nat.le_refl value
  | cons c cs ih =>
    have h := ih (value * 10 + (c.toNat - '0'.toNat))
    change value ≤ Decimal.digitsValue (value * 10 + (c.toNat - '0'.toNat)) cs
    omega

/-- Overflow on the way is overflow at the end, since a digit more never makes the value smaller. -/
theorem readDigits_eq_ok {limit value n : Nat} {overflow : IntegerFault} {cs : List Char}
    (hv : value ≤ limit) :
    readDigits limit overflow value cs = .ok n ↔
      (∀ c ∈ cs, c.isDigit) ∧ Decimal.digitsValue value cs = n ∧ n ≤ limit := by
  -- `value` is what the digits before have come to; it is never above the limit.
  induction cs generalizing value with
  | nil =>
    simp only [readDigits, Decimal.digitsValue, List.foldl_nil, Except.ok.injEq]
    constructor
    · rintro rfl
      exact ⟨by simp, rfl, hv⟩
    · exact fun h => h.2.1
  | cons c cs ih =>
    have hvalue : Decimal.digitsValue value (c :: cs) =
        Decimal.digitsValue (value * 10 + (c.toNat - '0'.toNat)) cs := rfl
    rw [readDigits, hvalue, List.forall_mem_cons]
    by_cases hc : c.isDigit
    · rw [if_pos hc]
      dsimp only
      split
      · next hle => rw [ih hle]; simp [hc]
      · next hgt =>
        have hle := le_digitsValue (value * 10 + (c.toNat - '0'.toNat)) cs
        simp only [reduceCtorEq, false_iff]
        intro hgiven
        obtain ⟨-, rfl, hn⟩ := hgiven
        omega
    · simp [hc]

/-- Without a sign the digits are all there is. -/
theorem denotesInteger_plain_iff {cs : List Char} {n : Int}
    (hs : ∀ c rest, cs = c :: rest → c ≠ '+' ∧ c ≠ '-') :
    DenotesInteger cs n ↔
      cs ≠ [] ∧ (∀ c ∈ cs, c.isDigit) ∧ (Decimal.digitsValue 0 cs : Int) = n := by
  constructor
  · intro hgiven
    rcases hgiven with ⟨hne, hd⟩ | ⟨hne, hd⟩ | ⟨hne, hd⟩
    · exact ⟨hne, hd, rfl⟩
    · exact absurd rfl (hs _ _ rfl).1
    · exact absurd rfl (hs _ _ rfl).2
  · intro hgiven
    obtain ⟨hne, hd, rfl⟩ := hgiven
    exact .plain hne hd

theorem denotesInteger_plus_iff {cs : List Char} {n : Int} :
    DenotesInteger ('+' :: cs) n ↔
      cs ≠ [] ∧ (∀ c ∈ cs, c.isDigit) ∧ (Decimal.digitsValue 0 cs : Int) = n := by
  constructor
  · intro hgiven
    rcases hgiven with ⟨hne, hd⟩ | ⟨hne, hd⟩ | ⟨hne, hd⟩
    · exact absurd (hd '+' (by simp)) (by decide)
    · exact ⟨hne, hd, rfl⟩
  · intro hgiven
    obtain ⟨hne, hd, rfl⟩ := hgiven
    exact .plus hne hd

theorem denotesInteger_minus_iff {cs : List Char} {n : Int} :
    DenotesInteger ('-' :: cs) n ↔
      cs ≠ [] ∧ (∀ c ∈ cs, c.isDigit) ∧ -(Decimal.digitsValue 0 cs : Int) = n := by
  constructor
  · intro hgiven
    rcases hgiven with ⟨hne, hd⟩ | ⟨hne, hd⟩ | ⟨hne, hd⟩
    · exact absurd (hd '-' (by simp)) (by decide)
    · exact ⟨hne, hd, rfl⟩
  · intro hgiven
    obtain ⟨hne, hd, rfl⟩ := hgiven
    exact .minus hne hd

/-- Digits up to the greatest integer stand for an integer within the bounds. -/
theorem readDigits_map_ofNat_eq_ok {cs : List Char} {n : Int} :
    (readDigits maxInteger.toNat .tooLarge 0 cs).map Int.ofNat = .ok n ↔
      ((∀ c ∈ cs, c.isDigit) ∧ (Decimal.digitsValue 0 cs : Int) = n) ∧
        minInteger ≤ n ∧ n ≤ maxInteger := by
  simp only [map_eq_ok, readDigits_eq_ok (Nat.zero_le _), minInteger, maxInteger]
  constructor
  · intro hgiven
    obtain ⟨k, ⟨hd, rfl, hk⟩, rfl⟩ := hgiven
    refine ⟨⟨hd, rfl⟩, ?_, ?_⟩ <;> simp only [Int.ofNat_eq_natCast] <;> omega
  · intro hgiven
    obtain ⟨⟨hd, rfl⟩, -, hn⟩ := hgiven
    exact ⟨_, ⟨hd, rfl, by omega⟩, rfl⟩

theorem readDigits_map_neg_eq_ok {cs : List Char} {n : Int} :
    ((readDigits minInteger.natAbs .tooSmall 0 cs).map fun k => -Int.ofNat k) = .ok n ↔
      ((∀ c ∈ cs, c.isDigit) ∧ -(Decimal.digitsValue 0 cs : Int) = n) ∧
        minInteger ≤ n ∧ n ≤ maxInteger := by
  simp only [map_eq_ok, readDigits_eq_ok (Nat.zero_le _), minInteger, maxInteger]
  constructor
  · intro hgiven
    obtain ⟨k, ⟨hd, rfl, hk⟩, rfl⟩ := hgiven
    refine ⟨⟨hd, rfl⟩, ?_, ?_⟩ <;> simp only [Int.ofNat_eq_natCast] <;> omega
  · intro hgiven
    obtain ⟨⟨hd, rfl⟩, hn, -⟩ := hgiven
    exact ⟨_, ⟨hd, rfl, by omega⟩, rfl⟩

theorem readInteger_eq_ok {cs : List Char} {n : Int} :
    readInteger cs = .ok n ↔ DenotesInteger cs n ∧ minInteger ≤ n ∧ n ≤ maxInteger := by
  unfold readInteger
  split
  case h_1 =>
    rw [denotesInteger_plain_iff (by simp)]
    simp
  case h_2 =>
    rw [denotesInteger_plus_iff]
    simp
  case h_3 =>
    rw [denotesInteger_minus_iff]
    simp
  -- Behind a sign, and without one, the digits decide.
  case h_4 digits hne =>
    rw [readDigits_map_ofNat_eq_ok, denotesInteger_plus_iff]
    have : digits ≠ [] := hne
    simp [this]
  case h_5 digits hne =>
    rw [readDigits_map_neg_eq_ok, denotesInteger_minus_iff]
    have : digits ≠ [] := hne
    simp [this]
  case h_6 hnil _ _ hplus hminus =>
    have hs : ∀ c rest, cs = c :: rest → c ≠ '+' ∧ c ≠ '-' := by
      rintro c rest rfl
      exact ⟨fun h => hplus rest (by rw [h]), fun h => hminus rest (by rw [h])⟩
    rw [readDigits_map_ofNat_eq_ok, denotesInteger_plain_iff hs]
    have : cs ≠ [] := hnil
    simp [this]

end Admission.Number

namespace Admission.Settings

open Number

theorem boolean_eq_ok {value : String} {b : Bool} :
    boolean value = .ok b ↔ value ∈ bif b then trueLiterals else falseLiterals := by
  have hdisj : value ∈ falseLiterals → value ∉ trueLiterals := by
    revert value
    decide
  unfold boolean
  split
  · cases b <;> simp_all
  · split <;> cases b <;> simp_all

theorem succeeds_boolean {value : String} :
    Succeeds (boolean value) ↔ value ∈ trueLiterals ++ falseLiterals := by
  simp only [Succeeds, boolean_eq_ok, Bool.exists_bool, List.mem_append, cond_true, cond_false]
  exact or_comm

theorem succeeds_items {c : Criterion} : Succeeds (items c) ↔ c.items ≠ [] := by
  simp [Succeeds, items_eq_ok_iff]

theorem count_eq_ok_iff_readInteger {c : Criterion} {n : Int} :
    count c = .ok n ↔ readInteger (Text.trimChars c.value.toList) = .ok n ∧ 0 ≤ n := by
  unfold count
  cases readInteger (Text.trimChars c.value.toList) with
  | error fault => simp
  | ok k =>
    dsimp only
    split
    · next hneg =>
      simp only [reduceCtorEq, Except.ok.injEq, false_iff]
      intro hgiven
      obtain ⟨rfl, h0⟩ := hgiven
      omega
    · next hpos =>
      simp only [Except.ok.injEq]
      constructor
      · rintro rfl
        exact ⟨rfl, by omega⟩
      · exact fun h => h.1

/-- A count is the integer that the value denotes between its blanks, if it is not below zero. -/
theorem count_eq_ok {c : Criterion} {n : Int} :
    count c = .ok n ↔
      DenotesInteger (Text.trimChars c.value.toList) n ∧ 0 ≤ n ∧ n ≤ maxInteger := by
  rw [count_eq_ok_iff_readInteger, readInteger_eq_ok]
  constructor
  · intro hgiven
    obtain ⟨⟨hd, -, hmax⟩, h0⟩ := hgiven
    exact ⟨hd, h0, hmax⟩
  · intro hgiven
    obtain ⟨hd, h0, hmax⟩ := hgiven
    refine ⟨⟨hd, ?_, hmax⟩, h0⟩
    unfold minInteger
    omega

end Admission.Settings
