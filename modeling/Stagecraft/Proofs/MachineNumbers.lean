/-
Module: Stagecraft.Proofs.MachineNumbers
Purpose: The machine numbers that values are rounded to and that numerals are read as: no
  number of the format is nearer to the value, and numbers that the format holds stay the same.
Main exports:
  Decimal.number, Format.Proper.rounds_nearestDecimal, Written.number?, IsNearestSingle,
  exists_isNearestSingle_singleOf, Format.Proper.holds_intCast, number_doubleOfInt,
  Exact.exists_int_of_isWhole, toInt_int32OfSingle,
  isWholeSingle_singleOf_of_number?_eq_none, exists_written_of_single?
-/
import Stagecraft.Number.Reading
import Stagecraft.Proofs.BitPatterns
import Stagecraft.Proofs.Rounding

namespace Stagecraft.Number

/-! ### Decimals -/

/-- The number that a decimal is. -/
def Decimal.number (d : Decimal) : ℚ := d.significand * 10 ^ d.exponent

theorem Decimal.number_nonneg (d : Decimal) : 0 ≤ d.number := by
  unfold number
  positivity

theorem cast_tenTo (exponent : Nat) : (tenTo exponent : ℚ) = 10 ^ (exponent : ℤ) := by
  simp [tenTo]

/-- A number is less than the power of ten with one more place. -/
theorem lt_ten_zpow_decimalLength (n : Nat) : (n : ℚ) < 10 ^ (decimalLength n : ℤ) := by
  have below : n < 10 ^ decimalLength n :=
    (Nat.length_toDigits_le_iff (by decide) Nat.length_toDigits_pos).mp (le_refl _)
  exact_mod_cast below

/-- It is no less than the power of ten with as many places. -/
theorem ten_zpow_decimalLength_le {n : Nat} (positive : 0 < n) :
    (10 : ℚ) ^ (decimalLength n - 1 : ℤ) ≤ n := by
  have long : 0 < decimalLength n := Nat.length_toDigits_pos
  obtain ⟨rest, length⟩ : ∃ rest, decimalLength n = rest + 1 := ⟨decimalLength n - 1, by omega⟩
  have above : 10 ^ rest ≤ n := by
    rcases Nat.eq_zero_or_pos rest with rfl | more
    · exact positive
    · by_contra less
      have short := (Nat.length_toDigits_le_iff (by decide) more).mpr (not_le.mp less)
      change decimalLength n ≤ rest at short
      omega
  rw [length, Nat.cast_add, Nat.cast_one, add_sub_cancel_right, zpow_natCast]
  exact_mod_cast above

/-- A decimal lies below its power of ten, and not below the next smaller one. -/
theorem Decimal.number_bounds (d : Decimal) (positive : 0 < d.significand) :
    (10 : ℚ) ^ (d.exponent + decimalLength d.significand - 1) ≤ d.number ∧
      d.number < 10 ^ (d.exponent + decimalLength d.significand) := by
  unfold Decimal.number
  constructor
  · calc (10 : ℚ) ^ (d.exponent + decimalLength d.significand - 1)
      _ = 10 ^ (decimalLength d.significand - 1 : ℤ) * 10 ^ d.exponent := by
          rw [← zpow_add₀ (by norm_num)]; ring_nf
      _ ≤ d.significand * 10 ^ d.exponent := by
          gcongr
          exact ten_zpow_decimalLength_le positive
  · calc (d.significand : ℚ) * 10 ^ d.exponent
      _ < 10 ^ (decimalLength d.significand : ℤ) * 10 ^ d.exponent := by
          gcongr
          exact lt_ten_zpow_decimalLength _
      _ = 10 ^ (d.exponent + decimalLength d.significand) := by
          rw [← zpow_add₀ (by norm_num), add_comm]

/-- A decimal is a fraction of whole numbers. -/
theorem Decimal.number_eq_fraction (d : Decimal) :
    d.number =
      (d.significand * tenTo d.exponent.toNat : Nat) / (tenTo (-d.exponent).toNat : Nat) := by
  rw [number, Nat.cast_mul, cast_tenTo, cast_tenTo]
  rcases le_or_gt 0 d.exponent with up | down
  · rw [Int.toNat_of_nonneg up, Int.toNat_of_nonpos (by omega)]
    simp
  · rw [Int.toNat_of_nonpos down.le, Int.toNat_of_nonneg (by omega), Nat.cast_zero, zpow_zero,
      mul_one, zpow_neg, div_inv_eq_mul]

namespace Format

variable {format : Format}

/-- The smallest positive number that a format holds. -/
theorem Proper.two_zpow_le_of_holds (proper : format.Proper) {r : ℚ} (held : format.Holds r)
    (nonzero : r ≠ 0) : (2 : ℚ) ^ format.leastExponent ≤ |r| := by
  obtain ⟨significand, exponent, -, least, size⟩ := proper.exists_of_holds held
  have counts : 1 ≤ significand := by
    rcases Nat.eq_zero_or_pos significand with rfl | counts
    · rw [Nat.cast_zero, zero_mul, abs_eq_zero] at size
      exact absurd size nonzero
    · exact counts
  have one : (1 : ℚ) ≤ significand := by exact_mod_cast counts
  rw [size]
  calc (2 : ℚ) ^ format.leastExponent
    _ ≤ 2 ^ exponent := zpow_le_zpow_right₀ one_le_two least
    _ = 1 * 2 ^ exponent := (one_mul _).symm
    _ ≤ significand * 2 ^ exponent := by gcongr

/-- A decimal with a very small power of ten is nearer to zero than to any other number. -/
theorem Proper.two_mul_number_le (proper : format.Proper) {d : Decimal}
    (positive : 0 < d.significand)
    (tiny : d.exponent + decimalLength d.significand < -(twoTo format.exponentBits : Int)) :
    2 * d.number ≤ 2 ^ format.leastExponent := by
  have half := proper.two_mul_half
  have narrow := proper.precision_lt
  have least := format.leastExponent_eq
  calc 2 * d.number
    _ ≤ 2 * 10 ^ (d.exponent + decimalLength d.significand) := by
        have := (d.number_bounds positive).2
        linarith
    _ ≤ 2 * 10 ^ (-(twoTo format.exponentBits : Int)) := by
        gcongr
        · norm_num
    _ ≤ 2 * 4 ^ (-(twoTo format.exponentBits : Int)) := by
        rw [zpow_neg, zpow_neg, zpow_natCast, zpow_natCast]
        gcongr
        norm_num
    _ = 2 ^ (1 - 2 * (twoTo format.exponentBits : Int)) := by
        rw [show (4 : ℚ) = 2 ^ (2 : ℤ) by norm_num, ← zpow_mul, ← zpow_one_add₀ two_ne_zero]
        ring_nf
    _ ≤ 2 ^ format.leastExponent := zpow_le_zpow_right₀ one_le_two (by omega)

/-- A decimal with a very large power of ten is beyond the reach of a format. -/
theorem reach_le_number {d : Decimal} (positive : 0 < d.significand)
    (huge : (twoTo format.exponentBits : Int) < d.exponent + decimalLength d.significand) :
    format.reach ≤ d.number := by
  have wide : twoTo (format.exponentBits - 1) ≤ twoTo format.exponentBits :=
    Nat.pow_le_pow_right Nat.two_pos (Nat.sub_le _ _)
  calc format.reach
    _ = 2 ^ ((twoTo (format.exponentBits - 1) - 1 : Nat) : ℤ) := (zpow_natCast _ _).symm
    _ ≤ 2 ^ (twoTo format.exponentBits : ℤ) := zpow_le_zpow_right₀ one_le_two (by omega)
    _ ≤ 10 ^ (twoTo format.exponentBits : ℤ) := by
        rw [zpow_natCast, zpow_natCast]
        gcongr
        norm_num
    _ ≤ 10 ^ (d.exponent + decimalLength d.significand - 1) :=
        zpow_le_zpow_right₀ (by norm_num) (by omega)
    _ ≤ d.number := (d.number_bounds positive).1

/-- Reading a decimal within reach gives a pattern of a nearest number. -/
theorem Proper.rounds_nearestDecimal (proper : format.Proper) (negative : Bool) {d : Decimal}
    (within : d.number < format.reach) :
    format.Rounds ((if negative then -1 else 1) * d.number)
      (format.signed negative (format.nearestDecimal d)) := by
  simp only [nearestDecimal]
  by_cases zero : d.significand = 0
  · rw [if_pos zero]
    refine rounds_signed negative proper.infinityBits_pos fun r held => ?_
    simp [magnitudeValue_zero, Decimal.number, zero]
  rw [if_neg zero]
  have positive : 0 < d.significand := Nat.pos_of_ne_zero zero
  by_cases huge : (twoTo format.exponentBits : Int) < d.exponent + decimalLength d.significand
  · exact absurd within (not_lt.mpr (reach_le_number positive huge))
  rw [if_neg huge]
  by_cases tiny : d.exponent + decimalLength d.significand < -(twoTo format.exponentBits : Int)
  · rw [if_pos tiny]
    refine rounds_signed negative proper.infinityBits_pos fun r held => ?_
    rw [magnitudeValue_zero, zero_sub, abs_neg]
    by_cases zero : r = 0
    · simp [zero]
    · -- The number is less than half of the smallest one of the format, so zero is nearest.
      have far := proper.two_zpow_le_of_holds held zero
      have close := proper.two_mul_number_le positive tiny
      have size : |d.number| = d.number := abs_of_nonneg d.number_nonneg
      have apart := abs_sub_abs_le_abs_sub r d.number
      linarith
  · have fraction := Decimal.number_eq_fraction d
    rw [if_neg tiny, fraction]
    rw [fraction] at within
    exact proper.rounds_nearest negative _ (Nat.pow_pos (by decide)) within

end Format

/-- The number that was written.  Infinities and "not a number" are none. -/
def Written.number? : Written → Option ℚ
  | .finite negative value => some ((if negative then -1 else 1) * value.number)
  | _ => none

/-- What is made of a written number in a format is that number, rounded. -/
theorem Format.Proper.rounds_ofWritten {format : Format} (proper : format.Proper)
    {written : Written} {q : ℚ} (number : written.number? = some q) (within : |q| < format.reach) :
    format.Rounds q (format.ofWritten written) := by
  cases written with
  | notANumber => cases number
  | infinite negative => cases number
  | finite negative value =>
      obtain rfl := Option.some.inj number
      rw [abs_sign_mul _ value.number_nonneg] at within
      exact proper.rounds_nearestDecimal negative within

/-! ### Machine numbers -/

/-- No single-precision number is nearer to `q` than `x`, which is the number `m`. -/
structure IsNearestSingle (q m : ℚ) (x : Float32) : Prop where
  number : (exactSingle x).number? = some m
  near : Format.single.IsNearest q m

theorem exists_isNearestSingle {q : ℚ} {bits : Nat} (rounds : Format.single.Rounds q bits) :
    ∃ m, IsNearestSingle q m (Float32.ofBits (.ofNat bits)) := by
  obtain ⟨fits, number, m, read, near⟩ := rounds
  refine ⟨m, ?_, near⟩
  rw [exactSingle_ofBits (fits.trans_eq (by decide)) number.le]
  exact read

theorem exists_isNearestSingle_singleOf {value : Exact} {q : ℚ} (number : value.number? = some q)
    (within : |q| < Format.single.reach) : ∃ m, IsNearestSingle q m (singleOf value) :=
  exists_isNearestSingle (Format.single_proper.rounds_write number within)

/-- An integer stands for itself. -/
theorem Exact.number?_ofInt (k : Int) : (Exact.ofInt k).number? = some (k : ℚ) := by
  have size : ((k.natAbs : ℕ) : ℚ) = |(k : ℚ)| := by
    rw [← Int.cast_natCast, Int.natCast_natAbs, Int.cast_abs]
  simp only [Exact.number?, Exact.ofInt, zpow_zero, mul_one, Option.some.injEq, decide_eq_true_eq,
    size]
  split
  · next negative =>
    have negative : (k : ℚ) < 0 := by exact_mod_cast negative
    rw [abs_of_neg negative]
    ring
  · next positive =>
    have positive : (0 : ℚ) ≤ k := by exact_mod_cast not_lt.mp positive
    rw [abs_of_nonneg positive, one_mul]

theorem abs_intCast (k : Int) : |(k : ℚ)| = (k.natAbs : ℕ) * 2 ^ (0 : ℤ) := by
  rw [zpow_zero, mul_one, ← Int.cast_natCast, Int.natCast_natAbs, Int.cast_abs]

section Whole

variable {format : Format} {k : Int}

/-- Integers as short as the precision are within the reach of a format. -/
theorem Format.Proper.abs_intCast_lt_reach (proper : format.Proper)
    (short : k.natAbs < twoTo format.precision) : |(k : ℚ)| < format.reach := by
  have narrow := proper.precision_lt
  rw [abs_intCast, zpow_zero, mul_one]
  calc ((k.natAbs : ℕ) : ℚ)
    _ < (twoTo format.precision : ℕ) := by exact_mod_cast short
    _ = 2 ^ format.precision := by rw [twoTo, Nat.pow_eq, Nat.cast_pow, Nat.cast_ofNat]
    _ ≤ format.reach := pow_le_pow_right₀ one_le_two (by omega)

/-- A format holds the whole numbers that are no longer than its significands. -/
theorem Format.Proper.holds_intCast (proper : format.Proper)
    (short : k.natAbs < twoTo format.precision) : format.Holds k := by
  have least := format.leastExponent_eq
  have narrow := proper.precision_lt
  have precise := proper.precision_pos
  exact proper.holds_of_short (abs_intCast k) short (by omega) (proper.abs_intCast_lt_reach short)

end Whole

/-- Whole numbers of at most 53 binary digits are kept in double precision. -/
theorem number_doubleOfInt {k : Int} (short : k.natAbs < 2 ^ 53) :
    (exactDouble (doubleOfInt k)).number? = some (k : ℚ) := by
  obtain ⟨fits, number, m, read, near⟩ := Format.double_proper.rounds_write
    (Exact.number?_ofInt k) (Format.double_proper.abs_intCast_lt_reach short)
  rw [doubleOfInt, doubleOf, exactDouble_ofBits (fits.trans_eq (by decide)) number.le, read,
    near.eq_of_holds (Format.double_proper.holds_intCast short)]

/-! ### Whole numbers among machine numbers -/

/-- A value that is a whole number. -/
theorem Exact.exists_int_of_isWhole {value : Exact} (whole : value.isWhole = true) :
    ∃ k : ℤ, value.number? = some (k : ℚ) ∧
      ∀ least greatest, value.truncateWithin least greatest = max least (min greatest k) := by
  cases value with
  | notANumber => cases whole
  | infinite negative => cases whole
  | finite negative significand exponent =>
      simp only [isWhole, Bool.or_eq_true, decide_eq_true_eq] at whole
      have size : ∃ n : Nat, (significand : ℚ) * 2 ^ exponent = n ∧
          (if 0 ≤ exponent then significand * twoTo exponent.toNat
            else significand / twoTo (-exponent).toNat) = n := by
        by_cases up : 0 ≤ exponent
        · refine ⟨significand * twoTo exponent.toNat, ?_, if_pos up⟩
          rw [Nat.cast_mul, cast_twoTo, Int.toNat_of_nonneg up]
        · obtain ⟨n, rfl⟩ := Nat.dvd_of_mod_eq_zero (whole.resolve_left up)
          refine ⟨n, ?_, ?_⟩
          · rw [Nat.cast_mul, cast_twoTo, Int.toNat_of_nonneg (by omega), mul_right_comm,
              ← zpow_add₀ two_ne_zero, neg_add_cancel, zpow_zero, one_mul]
          · rw [if_neg up, Nat.mul_div_cancel_left _ (twoTo_pos _)]
      obtain ⟨n, number, truncated⟩ := size
      refine ⟨if negative then -n else n, ?_, ?_⟩
      · rw [number?, number]
        cases negative <;> simp
      · intro least greatest
        simp only [truncateWithin, truncated]

/-- A whole number of single precision that fits 32 bits is kept. -/
theorem toInt_int32OfSingle {x : Float32} {m : ℚ} (whole : isWholeSingle x = true)
    (number : (exactSingle x).number? = some m) (least : -2147483648 ≤ m)
    (greatest : m ≤ 2147483647) : ((int32OfSingle x).toInt : ℚ) = m := by
  obtain ⟨k, same, truncated⟩ := Exact.exists_int_of_isWhole whole
  obtain rfl : (k : ℚ) = m := Option.some.inj (same.symm.trans number)
  have least : -2147483648 ≤ k := by exact_mod_cast least
  have greatest : k ≤ 2147483647 := by exact_mod_cast greatest
  have kept : (int32OfSingle x).toInt = k := by
    rw [int32OfSingle, truncated, min_eq_right greatest, max_eq_right least]
    exact Int32.toInt_ofInt_of_le least (by omega)
  rw [kept]

/-! ### Values that are no numbers -/

/-- Infinities and "not a number" are no whole numbers in single precision. -/
theorem isWholeSingle_singleOf_of_number?_eq_none {value : Exact}
    (infinite : value.number? = none) :
    isWholeSingle (singleOf value) = false := by
  cases value with
  | notANumber => decide +kernel
  | infinite negative => cases negative <;> decide +kernel
  | finite negative significand exponent => cases infinite

/-- What a text is read as in single precision is what its numeral is rounded to. -/
theorem exists_written_of_single? {text : String} {x : Float32} (read : single? text = some x) :
    ∃ written, readNumeral? text.toList = some written ∧
      (∀ q, written.number? = some q → |q| < Format.single.reach → ∃ m, IsNearestSingle q m x) ∧
      (written.number? = none → isWholeSingle x = false) := by
  obtain ⟨written, numeral, rfl⟩ := Option.map_eq_some_iff.mp read
  refine ⟨written, numeral, ?_, ?_⟩
  · intro q number within
    exact exists_isNearestSingle (Format.single_proper.rounds_ofWritten number within)
  · intro infinite
    cases written with
    | notANumber => decide +kernel
    | infinite negative => cases negative <;> decide +kernel
    | finite negative value => cases infinite

end Stagecraft.Number
