/-
Module: Stagecraft.Proofs.Rounding
Purpose: Rounding a fraction to a binary format gives a number of the format, and the format
  holds no other number that is nearer.
Main exports:
  roundToEven_nearest, Format.magnitude_bounds, Exact.number?, Format.Proper, Format.Holds,
  Format.IsNearest, Format.magnitudeValue, Format.Proper.exists_of_holds, Format.units,
  Format.Proper.magnitudeValue_nearest, Format.Proper.abs_magnitudeValue_nearest_sub_le,
  Format.Rounds, Format.Proper.rounds_nearest, Format.Proper.rounds_write,
  Format.Proper.holds_of_short
-/
import Stagecraft.Number.Binary
import Mathlib.Algebra.Order.Field.Power
import Mathlib.Tactic.FieldSimp
import Mathlib.Tactic.Linarith
import Mathlib.Tactic.Positivity
import Mathlib.Tactic.Ring

namespace Stagecraft.Number

/-! ### Dividing to the nearest whole number -/

section Division

variable {numerator denominator : Nat}

/-- A quotient is rounded down, or up where the remainder is half or more. -/
theorem roundToEven_eq_or (numerator denominator : Nat) :
    roundToEven numerator denominator = numerator / denominator ∧
        2 * (numerator % denominator) ≤ denominator ∨
      roundToEven numerator denominator = numerator / denominator + 1 ∧
        denominator ≤ 2 * (numerator % denominator) := by
  unfold roundToEven
  grind

/-- Twice the error of a rounded quotient is at most the denominator. -/
theorem abs_roundToEven_sub_le (numerator : Nat) (positive : 0 < denominator) :
    |(roundToEven numerator denominator : ℚ) - numerator / denominator| ≤ 1 / 2 := by
  have whole : (denominator : ℚ) * (numerator / denominator : Nat) +
      (numerator % denominator : Nat) = numerator := by
    exact_mod_cast Nat.div_add_mod numerator denominator
  have below : (0 : ℚ) < denominator := by exact_mod_cast positive
  have exact : (numerator : ℚ) / denominator =
      (numerator / denominator : Nat) + (numerator % denominator : Nat) / denominator := by
    field_simp
    linarith
  rw [exact, abs_le]
  -- The error is the remainder if the quotient is rounded down, and what it lacks of one
  -- otherwise.
  rcases roundToEven_eq_or numerator denominator with ⟨down, close⟩ | ⟨up, close⟩
  · have close : (2 : ℚ) * (numerator % denominator : Nat) ≤ denominator := by exact_mod_cast close
    have part : ((numerator % denominator : Nat) : ℚ) / denominator ≤ 1 / 2 := by
      rw [div_le_iff₀ below]
      linarith
    have nonnegative : (0 : ℚ) ≤ ((numerator % denominator : Nat) : ℚ) / denominator := by
      positivity
    rw [down]
    constructor <;> linarith
  · have close : (denominator : ℚ) ≤ 2 * (numerator % denominator : Nat) := by exact_mod_cast close
    have part : 1 / 2 ≤ ((numerator % denominator : Nat) : ℚ) / denominator := by
      rw [le_div_iff₀ below]
      linarith
    have rest : ((numerator % denominator : Nat) : ℚ) / denominator ≤ 1 := by
      rw [div_le_one below]
      exact_mod_cast (Nat.mod_lt _ positive).le
    rw [up]
    push_cast
    constructor <;> linarith

/-- No whole number is nearer to a quotient than the rounded one. -/
theorem roundToEven_nearest (positive : 0 < denominator) (other : ℤ) :
    |(roundToEven numerator denominator : ℚ) - numerator / denominator| ≤
      |(other : ℚ) - numerator / denominator| := by
  have close := abs_roundToEven_sub_le numerator positive
  by_cases same : other = roundToEven numerator denominator
  · rw [same, Int.cast_natCast]
  · have apart : (1 : ℚ) ≤ |(other : ℚ) - roundToEven numerator denominator| := by
      have away : (1 : ℤ) ≤ |other - roundToEven numerator denominator| :=
        Int.one_le_abs (sub_ne_zero.mpr same)
      exact_mod_cast away
    have through := abs_sub_le (other : ℚ) (numerator / denominator)
      (roundToEven numerator denominator)
    rw [abs_sub_comm (numerator / denominator : ℚ)] at through
    linarith

/-- What is no greater than the quotient is no greater than the quotient rounded. -/
theorem le_roundToEven {bound : Nat} (below : bound * denominator ≤ numerator)
    (positive : 0 < denominator) : bound ≤ roundToEven numerator denominator := by
  have whole : bound ≤ numerator / denominator := (Nat.le_div_iff_mul_le positive).mpr below
  rcases roundToEven_eq_or numerator denominator with ⟨down, -⟩ | ⟨up, -⟩ <;> omega

/-- What is no less than the quotient is no less than the quotient rounded. -/
theorem roundToEven_le {bound : Nat} (above : numerator ≤ bound * denominator)
    (positive : 0 < denominator) : roundToEven numerator denominator ≤ bound := by
  rcases roundToEven_eq_or numerator denominator with ⟨down, -⟩ | ⟨up, close⟩
  · rw [down]
    exact Nat.div_le_of_le_mul (by rwa [Nat.mul_comm])
  · have whole := Nat.div_add_mod numerator denominator
    have less : denominator * (numerator / denominator) < denominator * bound := by
      rw [Nat.mul_comm denominator bound]
      omega
    rw [up]
    exact Nat.lt_of_mul_lt_mul_left less

end Division

/-! ### The leading power of two -/

theorem twoTo_pos (exponent : Nat) : 0 < twoTo exponent := Nat.two_pow_pos exponent

theorem two_mul_twoTo_sub_one {exponent : Nat} (positive : 1 ≤ exponent) :
    2 * twoTo (exponent - 1) = twoTo exponent := by
  rw [twoTo, twoTo, Nat.pow_eq, Nat.pow_eq, mul_comm, pow_sub_one_mul (by omega)]

theorem cast_twoTo (exponent : Nat) : (twoTo exponent : ℚ) = 2 ^ (exponent : ℤ) := by
  simp [twoTo]

/-- The leading bit of a number is no greater than it. -/
theorem two_zpow_log2_le {n : Nat} (positive : 0 < n) : (2 : ℚ) ^ (n.log2 : ℤ) ≤ n := by
  rw [zpow_natCast]
  exact_mod_cast Nat.log2_self_le (Nat.ne_of_gt positive)

/-- The next bit is greater. -/
theorem lt_two_zpow_log2 (n : Nat) : (n : ℚ) < 2 ^ (n.log2 + 1 : ℤ) := by
  have above : n < 2 ^ (n.log2 + 1) := Nat.lt_log2_self
  exact_mod_cast above

namespace Format

variable {numerator denominator : Nat}

/-- The power of two that a fraction reaches, but whose double it does not reach. -/
theorem magnitude_bounds (above : 0 < numerator) (below : 0 < denominator) :
    (2 : ℚ) ^ magnitude numerator denominator ≤ numerator / denominator ∧
      (numerator / denominator : ℚ) < 2 ^ (magnitude numerator denominator + 1) := by
  have positive : (0 : ℚ) < denominator := by exact_mod_cast below
  have numerator_le := two_zpow_log2_le above
  have lt_numerator := lt_two_zpow_log2 numerator
  have denominator_le := two_zpow_log2_le below
  have lt_denominator := lt_two_zpow_log2 denominator
  -- the guess is at most one too high
  set guess : Int := (numerator.log2 : Int) - denominator.log2 with difference
  have log : (numerator.log2 : Int) = denominator.log2 + guess := by omega
  rw [log] at numerator_le lt_numerator
  have low : (2 : ℚ) ^ (guess - 1) ≤ numerator / denominator := by
    rw [le_div_iff₀ positive]
    calc (2 : ℚ) ^ (guess - 1) * denominator
      _ ≤ 2 ^ (guess - 1) * 2 ^ (denominator.log2 + 1 : ℤ) := by gcongr
      _ = 2 ^ (denominator.log2 + guess : ℤ) := by rw [← zpow_add₀ two_ne_zero]; ring_nf
      _ ≤ numerator := numerator_le
  have high : (numerator / denominator : ℚ) < 2 ^ (guess + 1) := by
    rw [div_lt_iff₀ positive]
    calc (numerator : ℚ)
      _ < 2 ^ (denominator.log2 + guess + 1 : ℤ) := lt_numerator
      _ = 2 ^ (guess + 1) * 2 ^ (denominator.log2 : ℤ) := by rw [← zpow_add₀ two_ne_zero]; ring_nf
      _ ≤ 2 ^ (guess + 1) * denominator := by gcongr
  have reached : (if 0 ≤ guess then denominator * twoTo guess.toNat ≤ numerator
      else denominator ≤ numerator * twoTo (-guess).toNat) ↔
      (2 : ℚ) ^ guess ≤ numerator / denominator := by
    rw [le_div_iff₀ positive]
    split
    · next up =>
      rw [← Nat.cast_le (α := ℚ), Nat.cast_mul, cast_twoTo, Int.toNat_of_nonneg up, mul_comm]
    · next down =>
      rw [← Nat.cast_le (α := ℚ), Nat.cast_mul, cast_twoTo, Int.toNat_of_nonneg (by omega),
        zpow_neg, ← div_eq_mul_inv, le_div_iff₀ (by positivity), mul_comm]
  rw [magnitude, ← difference]
  simp only [reached]
  split
  · next holds => exact ⟨holds, high⟩
  · next fails => exact ⟨low, by rw [sub_add_cancel]; exact not_le.mp fails⟩

end Format

/-! ### The numbers that a format holds -/

/-- The number that an exact value is.  Infinities and "not a number" are none. -/
def Exact.number? : Exact → Option ℚ
  | .finite negative significand exponent =>
      some ((if negative then -1 else 1) * (significand * 2 ^ exponent))
  | _ => none

/-- A sign does not change the size of a number. -/
theorem abs_sign_mul (negative : Prop) [Decidable negative] {q : ℚ} (positive : 0 ≤ q) :
    |(if negative then -1 else 1) * q| = q := by
  rw [abs_mul, abs_of_nonneg positive]
  split <;> simp

namespace Format

/-- The widths of a format are large enough for its patterns to count upwards with their
values, and for decimals far out of its reach to be settled by their powers of ten. -/
structure Proper (format : Format) : Prop where
  precision_pos : 1 ≤ format.precision
  wide : 2 ≤ format.exponentBits
  precision_lt : format.precision < twoTo (format.exponentBits - 1)

theorem single_proper : single.Proper := ⟨by decide, by decide, by decide⟩

theorem double_proper : double.Proper := ⟨by decide, by decide, by decide⟩

/-- The numbers that a format holds. -/
def Holds (format : Format) (q : ℚ) : Prop :=
  ∃ bits, (format.read bits).number? = some q

/-- A format holds no number that is nearer to `q` than `m`, which it holds. -/
structure IsNearest (format : Format) (q m : ℚ) : Prop where
  held : format.Holds m
  nearest : ∀ r, format.Holds r → |m - q| ≤ |r - q|

/-- A number that the format holds is nearest to itself, and no other is. -/
theorem IsNearest.eq_of_holds {format : Format} {q m : ℚ} (near : format.IsNearest q m)
    (held : format.Holds q) : m = q := by
  have least := near.nearest q held
  rw [sub_self, abs_zero] at least
  exact sub_eq_zero.mp (abs_nonpos_iff.mp least)

/-- Numbers from here on are beyond the reach of a format. -/
def reach (format : Format) : ℚ := 2 ^ (twoTo (format.exponentBits - 1) - 1)

variable {format : Format} {numerator denominator : Nat}

theorem leading_pos (format : Format) : 0 < format.leading := twoTo_pos _

theorem Proper.two_mul_leading (proper : format.Proper) :
    2 * format.leading = twoTo format.precision :=
  two_mul_twoTo_sub_one proper.precision_pos

theorem Proper.two_mul_half (proper : format.Proper) :
    2 * twoTo (format.exponentBits - 1) = twoTo format.exponentBits :=
  two_mul_twoTo_sub_one (one_le_two.trans proper.wide)

theorem leastExponent_eq (format : Format) :
    format.leastExponent = 3 - (twoTo (format.exponentBits - 1) : Int) - format.precision := rfl

/-- The number that magnitude bits below those of infinity stand for. -/
def magnitudeValue (format : Format) (bits : Nat) : ℚ :=
  if bits < format.leading then bits * 2 ^ format.leastExponent
  else
    (bits % format.leading + format.leading : Nat) *
      2 ^ (format.leastExponent + ((bits / format.leading : Nat) - 1))

theorem magnitudeValue_nonneg (format : Format) (bits : Nat) : 0 ≤ format.magnitudeValue bits := by
  unfold magnitudeValue
  split <;> positivity

/-- Reading takes the sign and the magnitude bits apart. -/
theorem number_read (format : Format) (bits : Nat) :
    (format.read bits).number? =
      if bits % format.signBit < format.infinityBits then
        some ((if format.signBit ≤ bits then -1 else 1) *
          format.magnitudeValue (bits % format.signBit))
      else none := by
  have leading := format.leading_pos
  simp only [read, magnitudeValue]
  rcases Nat.lt_trichotomy (bits % format.signBit) format.infinityBits with small | same | large
  · rw [if_neg (by omega), if_neg (by omega), if_pos small]
    by_cases few : bits % format.signBit < format.leading
    · rw [if_pos (Nat.div_eq_of_lt few), if_pos few, Nat.mod_eq_of_lt few]
      simp [Exact.number?]
    · have field : bits % format.signBit / format.leading ≠ 0 := by
        rw [Nat.div_ne_zero_iff]
        omega
      rw [if_neg field, if_neg few]
      simp [Exact.number?]
  · rw [if_neg (by omega), if_pos same, if_neg (by omega)]
    rfl
  · rw [if_pos large, if_neg (by omega)]
    rfl

/-- A significand that rounds up to the next power of two carries into the exponent. -/
theorem magnitudeValue_add {steps significand : Nat}
    (normal : steps = 0 ∨ format.leading ≤ significand)
    (small : significand ≤ 2 * format.leading) :
    format.magnitudeValue (steps * format.leading + significand) =
      significand * 2 ^ (format.leastExponent + steps) := by
  have leading := format.leading_pos
  unfold magnitudeValue
  by_cases few : significand < format.leading
  · obtain rfl : steps = 0 := by omega
    simp [few]
  · rw [if_neg (by omega)]
    by_cases carry : significand = 2 * format.leading
    · -- A carry makes the exponent one more and leaves a fraction of zero.
      have whole : steps * format.leading + significand = (steps + 2) * format.leading := by
        rw [carry]; ring
      rw [whole, Nat.mul_mod_left, Nat.mul_div_cancel _ leading, carry]
      push_cast
      have next : format.leastExponent + ((steps : ℤ) + 2 - 1) =
          format.leastExponent + steps + 1 := by ring
      rw [next, zpow_add_one₀ two_ne_zero]
      ring
    · obtain ⟨fraction, rfl⟩ : ∃ fraction, significand = format.leading + fraction :=
        ⟨significand - format.leading, by omega⟩
      have less : fraction < format.leading := by omega
      have whole : steps * format.leading + (format.leading + fraction) =
          fraction + format.leading * (steps + 1) := by ring
      rw [whole, Nat.add_mul_mod_self_left, Nat.mod_eq_of_lt less,
        Nat.add_mul_div_left _ _ leading, Nat.div_eq_of_lt less]
      push_cast
      have same : format.leastExponent + (0 + ((steps : ℤ) + 1) - 1) =
          format.leastExponent + steps := by ring
      rw [same]
      ring

/-- What a format holds is a short significand over an exponent that is not too small. -/
theorem Proper.exists_of_holds (proper : format.Proper) {q : ℚ} (held : format.Holds q) :
    ∃ (significand : Nat) (exponent : Int), significand < twoTo format.precision ∧
      format.leastExponent ≤ exponent ∧ |q| = significand * 2 ^ exponent := by
  obtain ⟨bits, read⟩ := held
  rw [number_read] at read
  split at read
  swap
  · cases read
  have size : |q| = format.magnitudeValue (bits % format.signBit) := by
    rw [← Option.some.inj read]
    exact abs_sign_mul _ (format.magnitudeValue_nonneg _)
  have leading := format.leading_pos
  have double := proper.two_mul_leading
  rw [size, magnitudeValue]
  split
  · next few => exact ⟨_, _, by omega, le_refl _, rfl⟩
  · next many =>
    have fraction := Nat.mod_lt (bits % format.signBit) leading
    have field : 1 ≤ bits % format.signBit / format.leading :=
      (Nat.one_le_div_iff leading).mpr (by omega)
    exact ⟨_, _, by omega, by omega, rfl⟩

/-! ### Rounding a fraction -/

/-- The exponent of the last place of a fraction in a format. -/
def lastPlace (format : Format) (numerator denominator : Nat) : Int :=
  max (magnitude numerator denominator - (format.precision - 1)) format.leastExponent

/-- A fraction in units of two to the `exponent`, rounded. -/
def units (numerator denominator : Nat) (exponent : Int) : Nat :=
  if 0 ≤ exponent then roundToEven numerator (denominator * twoTo exponent.toNat)
  else roundToEven (numerator * twoTo (-exponent).toNat) denominator

/-- The pattern of the nearest number: the exponent and the significand side by side, up to
infinity. -/
theorem nearest_eq (format : Format) {numerator : Nat} (above : 0 < numerator)
    (denominator : Nat) :
    format.nearest numerator denominator =
      min ((format.lastPlace numerator denominator - format.leastExponent).toNat * format.leading +
        units numerator denominator (format.lastPlace numerator denominator))
      format.infinityBits :=
  if_neg (Nat.ne_of_gt above)

/-- The units are a rounded quotient. -/
theorem exists_units_eq (numerator : Nat) {denominator : Nat} (below : 0 < denominator)
    (exponent : Int) :
    ∃ dividend divisor, 0 < divisor ∧ units numerator denominator exponent =
        roundToEven dividend divisor ∧
      (dividend / divisor : ℚ) * 2 ^ exponent = numerator / denominator := by
  have positive : (0 : ℚ) < denominator := by exact_mod_cast below
  by_cases up : 0 ≤ exponent
  · refine ⟨numerator, denominator * twoTo exponent.toNat,
      Nat.mul_pos below (twoTo_pos _), if_pos up, ?_⟩
    rw [Nat.cast_mul, cast_twoTo, Int.toNat_of_nonneg up]
    field_simp
  · refine ⟨numerator * twoTo (-exponent).toNat, denominator, below, if_neg up, ?_⟩
    rw [Nat.cast_mul, cast_twoTo, Int.toNat_of_nonneg (by omega), zpow_neg]
    field_simp

/-- No other multiple of the unit is nearer to a fraction. -/
theorem units_nearest (numerator : Nat) (below : 0 < denominator) (exponent other : Int) :
    |(units numerator denominator exponent : ℚ) * 2 ^ exponent - numerator / denominator| ≤
      |(other : ℚ) * 2 ^ exponent - numerator / denominator| := by
  obtain ⟨dividend, divisor, positive, same, quotient⟩ := exists_units_eq numerator below exponent
  have unit : (0 : ℚ) ≤ |2 ^ exponent| := abs_nonneg _
  rw [← quotient, ← sub_mul, ← sub_mul, abs_mul, abs_mul, same]
  exact mul_le_mul_of_nonneg_right (roundToEven_nearest positive other) unit

/-- As many units as fit below a fraction are counted. -/
theorem le_units (below : 0 < denominator) {exponent : Int} {bound : Nat}
    (reached : (bound : ℚ) * 2 ^ exponent ≤ numerator / denominator) :
    bound ≤ units numerator denominator exponent := by
  obtain ⟨dividend, divisor, positive, same, quotient⟩ := exists_units_eq numerator below exponent
  rw [← quotient, mul_le_mul_iff_left₀ (by positivity), le_div_iff₀ (by exact_mod_cast positive)]
    at reached
  rw [same]
  exact le_roundToEven (by exact_mod_cast reached) positive

/-- No more are counted than reach the fraction. -/
theorem units_le (below : 0 < denominator) {exponent : Int} {bound : Nat}
    (reached : (numerator / denominator : ℚ) ≤ bound * 2 ^ exponent) :
    units numerator denominator exponent ≤ bound := by
  obtain ⟨dividend, divisor, positive, same, quotient⟩ := exists_units_eq numerator below exponent
  rw [← quotient, mul_le_mul_iff_left₀ (by positivity), div_le_iff₀ (by exact_mod_cast positive)]
    at reached
  rw [same]
  exact roundToEven_le (by exact_mod_cast reached) positive

/-- The last place is that of the smallest numbers, or the one for which the fraction has as
many digits as the format. -/
theorem lastPlace_cases (format : Format) (above : 0 < numerator) (below : 0 < denominator) :
    (numerator / denominator : ℚ) <
        2 ^ (format.lastPlace numerator denominator + format.precision) ∧
      (format.lastPlace numerator denominator = format.leastExponent ∨
        format.leastExponent < format.lastPlace numerator denominator ∧
          (2 : ℚ) ^ (format.lastPlace numerator denominator + format.precision - 1) ≤
            numerator / denominator) := by
  obtain ⟨low, high⟩ := magnitude_bounds above below
  unfold lastPlace
  constructor
  · exact high.trans_le (zpow_le_zpow_right₀ one_le_two (by omega))
  · rcases le_or_gt (magnitude numerator denominator - (format.precision - 1))
      format.leastExponent with small | large
    · exact .inl (max_eq_right small)
    · refine .inr ⟨by omega, ?_⟩
      rw [max_eq_left large.le]
      exact (zpow_le_zpow_right₀ one_le_two (by omega)).trans low

theorem Proper.cast_leading (proper : format.Proper) :
    (format.leading : ℚ) = 2 ^ (format.precision - 1 : ℤ) := by
  rw [leading, cast_twoTo, Nat.cast_sub proper.precision_pos, Nat.cast_one]

/-- At its last place a fraction has no more digits than the format. -/
theorem Proper.units_lastPlace_le (proper : format.Proper) (above : 0 < numerator)
    (below : 0 < denominator) :
    units numerator denominator (format.lastPlace numerator denominator) ≤ 2 * format.leading := by
  apply units_le below
  rw [proper.two_mul_leading, cast_twoTo, ← zpow_add₀ two_ne_zero, add_comm]
  exact (lastPlace_cases format above below).1.le

/-- Above the last place of the smallest numbers it has all of them. -/
theorem Proper.leading_le_units (proper : format.Proper) (above : 0 < numerator)
    (below : 0 < denominator)
    (high : format.leastExponent < format.lastPlace numerator denominator) :
    format.leading ≤ units numerator denominator (format.lastPlace numerator denominator) := by
  obtain ⟨-, bottom | ⟨-, reached⟩⟩ := lastPlace_cases format above below
  · omega
  · apply le_units below
    rw [proper.cast_leading, ← zpow_add₀ two_ne_zero]
    exact (zpow_le_zpow_right₀ one_le_two (by omega)).trans reached

/-- Within reach, the exponents of a format suffice, also when rounding carries. -/
theorem Proper.steps_lt (proper : format.Proper) (above : 0 < numerator)
    (below : 0 < denominator) (within : (numerator / denominator : ℚ) < format.reach) :
    (format.lastPlace numerator denominator - format.leastExponent).toNat + 2 <
      twoTo format.exponentBits - 1 := by
  have half := proper.two_mul_half
  have precision := proper.precision_pos
  have narrow := proper.precision_lt
  obtain ⟨-, bottom | ⟨-, reached⟩⟩ := lastPlace_cases format above below
  · omega
  · have short := reached.trans_lt within
    rw [reach, ← zpow_natCast, zpow_lt_zpow_iff_right₀ one_lt_two] at short
    have least := leastExponent_eq format
    omega

/-- Rounding gives magnitude bits below those of infinity for fractions within reach, and
these stand for the rounded units. -/
theorem Proper.magnitudeValue_nearest (proper : format.Proper) (above : 0 < numerator)
    (below : 0 < denominator) (within : (numerator / denominator : ℚ) < format.reach) :
    format.nearest numerator denominator < format.infinityBits ∧
      format.magnitudeValue (format.nearest numerator denominator) =
        units numerator denominator (format.lastPlace numerator denominator) *
          2 ^ format.lastPlace numerator denominator := by
  have small := proper.units_lastPlace_le above below
  have few := proper.steps_lt above below within
  have normal := proper.leading_le_units above below
  have least : format.leastExponent ≤ format.lastPlace numerator denominator := le_max_right ..
  rw [nearest_eq format above]
  set steps := (format.lastPlace numerator denominator - format.leastExponent).toNat with counted
  set significand := units numerator denominator (format.lastPlace numerator denominator)
  have finite : steps * format.leading + significand < format.infinityBits := by
    calc steps * format.leading + significand
      _ ≤ (steps + 2) * format.leading := by rw [Nat.add_mul]; omega
      _ < (twoTo format.exponentBits - 1) * format.leading :=
          Nat.mul_lt_mul_of_pos_right few format.leading_pos
  have place : format.leastExponent + (steps : ℤ) = format.lastPlace numerator denominator := by
    omega
  rw [min_eq_left finite.le, magnitudeValue_add (by omega) small, place]
  exact ⟨finite, rfl⟩

/-- A multiple of a large power of two is one of a smaller power. -/
theorem exists_multiple (significand : Nat) {place exponent : Int} (le : place ≤ exponent) :
    ∃ whole : ℤ, (whole : ℚ) * 2 ^ place = significand * 2 ^ exponent := by
  refine ⟨significand * 2 ^ (exponent - place).toNat, ?_⟩
  push_cast
  rw [mul_assoc, ← zpow_natCast, ← zpow_add₀ two_ne_zero, Int.toNat_of_nonneg (by omega),
    sub_add_cancel]

/-- No number that a format holds is nearer to a fraction than the one it is rounded to. -/
theorem Proper.abs_magnitudeValue_nearest_sub_le (proper : format.Proper) (above : 0 < numerator)
    (below : 0 < denominator) (within : (numerator / denominator : ℚ) < format.reach) {r : ℚ}
    (held : format.Holds r) :
    |format.magnitudeValue (format.nearest numerator denominator) - numerator / denominator| ≤
      |r - numerator / denominator| := by
  obtain ⟨significand, exponent, short, least, size⟩ := proper.exists_of_holds held
  rw [(proper.magnitudeValue_nearest above below within).2]
  have nearest := units_nearest numerator below (format.lastPlace numerator denominator)
  -- the sign of the other number only takes it further away
  suffices near : |(units numerator denominator (format.lastPlace numerator denominator) : ℚ) *
      2 ^ format.lastPlace numerator denominator - numerator / denominator| ≤
        |(|r|) - numerator / denominator| by
    refine near.trans ?_
    have positive : |(numerator / denominator : ℚ)| = numerator / denominator :=
      abs_of_nonneg (by positivity)
    simpa only [positive] using abs_abs_sub_abs_le_abs_sub r (numerator / denominator : ℚ)
  rw [size]
  rcases le_or_gt (format.lastPlace numerator denominator) exponent with coarse | fine
  · -- the other number is a whole number of units
    obtain ⟨whole, same⟩ := exists_multiple significand coarse
    rw [← same]
    exact nearest whole
  · -- a number with more places than the fraction is below the power of two that the
    -- fraction reaches, and this power is a whole number of units
    obtain ⟨-, bottom | ⟨-, reached⟩⟩ := lastPlace_cases format above below
    · omega
    have power : ((2 ^ (format.precision - 1) : ℤ) : ℚ) *
        2 ^ format.lastPlace numerator denominator =
          2 ^ (format.lastPlace numerator denominator + format.precision - 1) := by
      push_cast
      rw [← zpow_natCast, ← zpow_add₀ two_ne_zero]
      have := proper.precision_pos
      congr 1
      omega
    have less : (significand : ℚ) * 2 ^ exponent ≤
        2 ^ (format.lastPlace numerator denominator + format.precision - 1) := by
      calc (significand : ℚ) * 2 ^ exponent
        _ ≤ 2 ^ (format.precision : ℤ) * 2 ^ exponent := by
            rw [← cast_twoTo]
            gcongr
        _ = 2 ^ (format.precision + exponent) := (zpow_add₀ two_ne_zero _ _).symm
        _ ≤ 2 ^ (format.lastPlace numerator denominator + format.precision - 1) :=
            zpow_le_zpow_right₀ one_le_two (by omega)
    refine (nearest (2 ^ (format.precision - 1))).trans ?_
    rw [power, abs_of_nonpos (by linarith), abs_of_nonpos (by linarith)]
    linarith

/-! ### Patterns -/

theorem infinityBits_lt_signBit (format : Format) : format.infinityBits < format.signBit :=
  Nat.mul_lt_mul_of_pos_right (Nat.sub_lt (twoTo_pos _) Nat.one_pos) format.leading_pos

/-- A pattern below infinity is read as its magnitude with its sign. -/
theorem number_read_signed (negative : Bool) {bits : Nat} (finite : bits < format.infinityBits) :
    (format.read (format.signed negative bits)).number? =
      some ((if negative then -1 else 1) * format.magnitudeValue bits) := by
  have less := format.infinityBits_lt_signBit
  rw [number_read]
  cases negative with
  | false =>
      simp only [signed, Bool.false_eq_true, if_false]
      rw [Nat.mod_eq_of_lt (by omega), if_pos finite, if_neg (by omega)]
  | true =>
      simp only [signed, if_true]
      rw [Nat.add_mod_left, Nat.mod_eq_of_lt (by omega), if_pos finite, if_pos (by omega)]

theorem Holds.neg {q : ℚ} (held : format.Holds q) : format.Holds (-q) := by
  obtain ⟨bits, read⟩ := held
  rw [number_read] at read
  split at read
  swap
  · cases read
  next finite =>
    refine ⟨format.signed (decide (bits < format.signBit)) (bits % format.signBit), ?_⟩
    rw [number_read_signed _ finite, ← Option.some.inj read]
    by_cases positive : bits < format.signBit
    · simp [positive]
    · simp [positive, not_lt.mp positive]

/-- What is nearest to a number is, with the other sign, nearest to its negative. -/
theorem IsNearest.neg {q m : ℚ} (near : format.IsNearest q m) : format.IsNearest (-q) (-m) where
  held := near.held.neg
  nearest r held := by
    have := near.nearest (-r) held.neg
    rw [show -m - -q = -(m - q) by ring, show r - -q = -(-r - q) by ring, abs_neg, abs_neg]
    exact this

/-- A pattern stands for a number, and none that the format holds is nearer to `q`. -/
structure Rounds (format : Format) (q : ℚ) (bits : Nat) : Prop where
  fits : bits < 2 * format.signBit
  number : bits % format.signBit < format.infinityBits
  near : ∃ m, (format.read bits).number? = some m ∧ format.IsNearest q m

/-- Magnitude bits of the nearest number and a sign make up a pattern. -/
theorem rounds_signed (negative : Bool) {q : ℚ} {bits : Nat} (finite : bits < format.infinityBits)
    (nearest : ∀ r, format.Holds r → |format.magnitudeValue bits - q| ≤ |r - q|) :
    format.Rounds ((if negative then -1 else 1) * q) (format.signed negative bits) := by
  have less := format.infinityBits_lt_signBit
  have near : format.IsNearest q (format.magnitudeValue bits) :=
    ⟨⟨_, by simpa using number_read_signed false finite⟩, nearest⟩
  refine ⟨?_, ?_, _, number_read_signed negative finite, ?_⟩
  · unfold signed
    split <;> omega
  · cases negative with
    | false => simpa [signed, Nat.mod_eq_of_lt (finite.trans less)] using finite
    | true => simpa [signed, Nat.mod_eq_of_lt (finite.trans less)] using finite
  · cases negative with
    | false => simpa using near
    | true => simpa using near.neg

theorem magnitudeValue_zero (format : Format) : format.magnitudeValue 0 = 0 := by
  simp [magnitudeValue, format.leading_pos]

theorem Proper.infinityBits_pos (proper : format.Proper) : 0 < format.infinityBits := by
  have wide := proper.wide
  have many : 2 ^ 2 ≤ 2 ^ format.exponentBits := Nat.pow_le_pow_right Nat.two_pos wide
  refine Nat.mul_pos ?_ format.leading_pos
  rw [twoTo, Nat.pow_eq]
  omega

/-- Rounding a fraction within reach gives a pattern of a nearest number. -/
theorem Proper.rounds_nearest (proper : format.Proper) (negative : Bool) (numerator : Nat)
    (below : 0 < denominator) (within : (numerator / denominator : ℚ) < format.reach) :
    format.Rounds ((if negative then -1 else 1) * (numerator / denominator))
      (format.signed negative (format.nearest numerator denominator)) := by
  rcases Nat.eq_zero_or_pos numerator with rfl | above
  · have zero : format.nearest 0 denominator = 0 := if_pos rfl
    rw [zero]
    refine rounds_signed negative proper.infinityBits_pos fun r held => ?_
    simp [magnitudeValue_zero]
  · exact rounds_signed negative (proper.magnitudeValue_nearest above below within).1
      fun r held => proper.abs_magnitudeValue_nearest_sub_le above below within held

/-- Writing a value within reach gives a pattern of a nearest number. -/
theorem Proper.rounds_write (proper : format.Proper) {value : Exact} {q : ℚ}
    (number : value.number? = some q) (within : |q| < format.reach) :
    format.Rounds q (format.write value) := by
  cases value with
  | notANumber => cases number
  | infinite negative => cases number
  | finite negative significand exponent =>
      simp only [Exact.number?, Option.some.injEq] at number
      have size : |q| = significand * 2 ^ exponent := by
        rw [← number]
        exact abs_sign_mul _ (by positivity)
      rw [size] at within
      simp only [write]
      by_cases up : 0 ≤ exponent
      · have fraction : (significand : ℚ) * 2 ^ exponent =
            (significand * twoTo exponent.toNat : Nat) / (1 : Nat) := by
          rw [Nat.cast_mul, cast_twoTo, Int.toNat_of_nonneg up, Nat.cast_one, div_one]
        rw [if_pos up, ← number, fraction]
        exact proper.rounds_nearest negative _ Nat.one_pos (by rwa [← fraction])
      · have fraction : (significand : ℚ) * 2 ^ exponent =
            significand / (twoTo (-exponent).toNat : Nat) := by
          rw [cast_twoTo, Int.toNat_of_nonneg (by omega), zpow_neg, div_inv_eq_mul]
        rw [if_neg up, ← number, fraction]
        exact proper.rounds_nearest negative _ (twoTo_pos _) (by rwa [← fraction])

/-- A fraction with a short significand is rounded to itself. -/
theorem Proper.magnitudeValue_nearest_of_short (proper : format.Proper) (above : 0 < numerator)
    (below : 0 < denominator) (within : (numerator / denominator : ℚ) < format.reach)
    {significand : Nat} {exponent : Int} (short : significand < twoTo format.precision)
    (least : format.leastExponent ≤ exponent)
    (same : (numerator / denominator : ℚ) = significand * 2 ^ exponent) :
    format.magnitudeValue (format.nearest numerator denominator) = numerator / denominator := by
  have place : format.lastPlace numerator denominator ≤ exponent := by
    obtain ⟨-, bottom | ⟨-, reached⟩⟩ := lastPlace_cases format above below
    · exact bottom.trans_le least
    · have less : (significand : ℚ) * 2 ^ exponent < 2 ^ (format.precision + exponent) := by
        rw [zpow_add₀ two_ne_zero, ← cast_twoTo]
        gcongr
      have power := (same ▸ reached).trans_lt less
      rw [zpow_lt_zpow_iff_right₀ one_lt_two] at power
      omega
  obtain ⟨whole, multiple⟩ := exists_multiple significand place
  have near := units_nearest numerator below (format.lastPlace numerator denominator) whole
  rw [multiple, ← same, sub_self, abs_zero, abs_nonpos_iff, sub_eq_zero] at near
  rw [(proper.magnitudeValue_nearest above below within).2, near]

/-- A short significand within reach makes a number that a format holds. -/
theorem Proper.holds_of_short (proper : format.Proper) {q : ℚ} {significand : Nat}
    {exponent : Int} (size : |q| = significand * 2 ^ exponent)
    (short : significand < twoTo format.precision) (least : format.leastExponent ≤ exponent)
    (within : |q| < format.reach) : format.Holds q := by
  have fraction :
      |q| = (significand * twoTo exponent.toNat : Nat) / (twoTo (-exponent).toNat : Nat) := by
    rw [size, Nat.cast_mul, cast_twoTo, cast_twoTo]
    rcases le_or_gt 0 exponent with up | down
    · rw [Int.toNat_of_nonneg up, Int.toNat_of_nonpos (by omega)]
      simp
    · rw [Int.toNat_of_nonpos down.le, Int.toNat_of_nonneg (by omega), Nat.cast_zero, zpow_zero,
        mul_one, zpow_neg, div_inv_eq_mul]
  have below : 0 < twoTo (-exponent).toNat := twoTo_pos _
  have held : format.Holds |q| := by
    rcases Nat.eq_zero_or_pos (significand * twoTo exponent.toNat) with zero | above
    · rw [fraction, zero, Nat.cast_zero, zero_div]
      exact ⟨_, by
        simpa [magnitudeValue_zero] using number_read_signed false proper.infinityBits_pos⟩
    · rw [fraction] at within size ⊢
      rw [← proper.magnitudeValue_nearest_of_short above below within short least size]
      exact ⟨_, by simpa using
        number_read_signed false (proper.magnitudeValue_nearest above below within).1⟩
  rcases abs_choice q with positive | negative
  · rwa [positive] at held
  · rw [negative] at held
    simpa using held.neg

end Format

end Stagecraft.Number
