/-
Module: Stagecraft.Proofs.SingleParts
Purpose: The sign, the significand and the exponent of single-precision numbers: what rounding
  makes of them, and that packing them into a pattern loses none.
Main exports:
  roundedMantissa_shiftRight, roundToEven_eq_zero_iff, IsSingle, roundWithAccuracy_cases,
  round_cases, unpack_pack, isSingle_of_unpack, exactSingle_of_unpack, exactSingle_of_infinity
-/
import Stagecraft.Proofs.MachineNumbers

namespace Stagecraft.Number

open Float.Model (UnpackedFloat totalExponent)
open Float.Model.UnpackedFloat
open Float.Model.Format (binary32)

/-! ### Shifts to the right -/

/-- What a significand becomes when it is shifted: its upper bits, the bit behind them, and
whether anything is left behind that bit. -/
structure IsShifted (shifted : ExtendedMantissa) (m k : Nat) : Prop where
  upper : 2 * shifted.mantissa + shifted.roundBit.toNat = 2 * m / 2 ^ k
  lower : shifted.stickyBit = true ↔ 2 * m % 2 ^ k ≠ 0

/-- Bit by bit, a shift to the right keeps the bit behind and whether anything follows it. -/
theorem isShifted_shiftRight (m k : Nat) :
    IsShifted (ExtendedMantissa.ofMantissaAndAccuracy m .exact >>> k) m k := by
  induction k with
  | zero =>
      have same : ExtendedMantissa.ofMantissaAndAccuracy m .exact >>> 0 = ⟨m, false, false⟩ := rfl
      rw [same]
      exact ⟨by simp, by simp [Nat.mod_one]⟩
  | succ k ih =>
      change IsShifted
        (ExtendedMantissa.ofMantissaAndAccuracy m .exact >>> k).shiftRightOne m (k + 1)
      generalize ExtendedMantissa.ofMantissaAndAccuracy m .exact >>> k = shifted at ih ⊢
      rcases shifted with ⟨mantissa, roundBit, stickyBit⟩
      obtain ⟨upper, lower⟩ := ih
      simp only at upper lower
      have bit : (mantissa % 2 != 0).toNat = mantissa % 2 := by
        rcases Nat.mod_two_eq_zero_or_one mantissa with even | odd
        · simp [even]
        · simp [odd]
      have small := roundBit.toNat_lt
      have behind : 2 * m % 2 ^ (k + 1) = 2 * m % 2 ^ k + 2 ^ k * roundBit.toNat := by
        rw [Nat.mod_pow_succ, ← upper, Nat.mul_add_mod, Nat.mod_eq_of_lt small]
      constructor
      · simp only [ExtendedMantissa.shiftRightOne, bit]
        rw [Nat.pow_succ, ← Nat.div_div_eq_div_mul, ← upper]
        omega
      · simp only [ExtendedMantissa.shiftRightOne, behind, Bool.or_eq_true, lower]
        cases roundBit <;> simp

/-- A shifted significand is the whole part of a quotient.  Its two bits tell the rest. -/
theorem IsShifted.quotient {shifted : ExtendedMantissa} {m k : Nat}
    (shift : IsShifted shifted m k) :
    shifted.mantissa = m / 2 ^ k ∧ shifted.roundBit.toNat = 2 * (m % 2 ^ k) / 2 ^ k ∧
      (shifted.stickyBit = true ↔ 2 * (m % 2 ^ k) % 2 ^ k ≠ 0) := by
  obtain ⟨upper, lower⟩ := shift
  have power : 0 < 2 ^ k := Nat.two_pow_pos k
  have double : 2 * m = 2 * (m % 2 ^ k) + 2 ^ k * (2 * (m / 2 ^ k)) := by
    have whole := Nat.mod_add_div m (2 ^ k)
    rw [Nat.mul_left_comm]
    omega
  rw [double, Nat.add_mul_div_left _ _ power] at upper
  rw [double, Nat.add_mul_mod_self_left] at lower
  have bit := shifted.roundBit.toNat_lt
  have half : 2 * (m % 2 ^ k) / 2 ^ k < 2 :=
    Nat.div_lt_of_lt_mul (by have := Nat.mod_lt m power; omega)
  generalize shifted.roundBit.toNat = r at upper bit ⊢
  generalize 2 * (m % 2 ^ k) / 2 ^ k = q at upper half ⊢
  exact ⟨by omega, by omega, lower⟩

/-- A shifted significand is rounded to the nearest whole number, a tie to the even one. -/
theorem roundedMantissa_shiftRight (m k : Nat) :
    (ExtendedMantissa.ofMantissaAndAccuracy m .exact >>> k).roundedMantissa =
      roundToEven m (2 ^ k) := by
  obtain ⟨whole, half, rest⟩ := (isShifted_shiftRight m k).quotient
  generalize ExtendedMantissa.ofMantissaAndAccuracy m .exact >>> k = shifted at whole half rest ⊢
  rcases shifted with ⟨mantissa, roundBit, stickyBit⟩
  simp only at whole half rest
  subst whole
  have less : m % 2 ^ k < 2 ^ k := Nat.mod_lt m (Nat.two_pow_pos k)
  rcases Nat.lt_or_ge (2 * (m % 2 ^ k)) (2 ^ k) with under | beyond
  · rw [Nat.div_eq_of_lt under, Bool.toNat_eq_zero] at half
    rw [roundToEven, if_pos under, half]
    cases stickyBit <;> rfl
  · have once : 2 * (m % 2 ^ k) / 2 ^ k = 1 := Nat.div_eq_of_lt_le (by omega) (by omega)
    have left : 2 * (m % 2 ^ k) % 2 ^ k = 2 * (m % 2 ^ k) - 2 ^ k := by
      rw [Nat.mod_eq_sub_mod beyond, Nat.mod_eq_of_lt (by omega)]
    rw [once, Bool.toNat_eq_one] at half
    rw [left] at rest
    rw [roundToEven, if_neg (by omega), half]
    cases stickyBit with
    | true =>
        rw [if_pos (by have := rest.mp rfl; omega)]
        rfl
    | false =>
        have tied : ¬ 2 * (m % 2 ^ k) - 2 ^ k ≠ 0 := fun remains => nomatch rest.mpr remains
        rw [if_neg (by omega)]
        rfl

/-- What is at most half of a divisor is rounded to zero, and nothing else is. -/
theorem roundToEven_eq_zero_iff {m d : Nat} (positive : 0 < d) :
    roundToEven m d = 0 ↔ 2 * m ≤ d := by
  constructor
  · intro vanishes
    rcases roundToEven_eq_or m d with ⟨down, close⟩ | ⟨up, -⟩
    · have small : m < d := by
        rw [← Nat.div_eq_zero_iff_lt positive, ← down, vanishes]
      rwa [Nat.mod_eq_of_lt small] at close
    · exact absurd (up.symm.trans vanishes) (Nat.succ_ne_zero _)
  · intro half
    have small : m < d := by omega
    rcases roundToEven_eq_or m d with ⟨down, -⟩ | ⟨-, close⟩
    · rw [down, Nat.div_eq_of_lt small]
    · -- half of the divisor exactly: the tie goes to zero, which is even
      rw [Nat.mod_eq_of_lt small] at close
      rw [roundToEven, Nat.mod_eq_of_lt small, Nat.div_eq_of_lt small, if_neg (by omega),
        if_neg (by omega)]

/-! ### The parts of rounded numbers -/

/-- How far a significand is shifted before it is rounded. -/
def shiftOf (m : Nat) (e : Int) : Nat := (binary32.targetExponent (totalExponent m e) - e).toNat

/-- A significand is shifted until it is short enough and its exponent is not below the
least. -/
theorem shiftOf_eq (m : Nat) (e : Int) :
    shiftOf m e = (max ((m.log2 : Int) + e - 23) (-149) - e).toNat := by
  simp only [shiftOf, Float.Model.Format.targetExponent, totalExponent,
    Float.Model.Format.mantissaBits, Float.Model.Format.minExponent]
  congr 1
  omega

/-- After the shift both are so. -/
theorem shift_reaches (m : Nat) (e : Int) :
    -149 ≤ e + shiftOf m e ∧ (m.log2 : Int) + e ≤ e + shiftOf m e + 23 := by
  rw [shiftOf_eq]
  omega

/-- A rounded significand has at most the bits of the format, or is the next power of two. -/
theorem rounded_le (m : Nat) (e : Int) : roundToEven m (2 ^ shiftOf m e) ≤ 2 ^ 24 := by
  have reach := (shift_reaches m e).2
  have log : m.log2 + 1 ≤ 24 + shiftOf m e := by omega
  refine roundToEven_le ?_ (Nat.two_pow_pos _)
  calc m
    _ ≤ 2 ^ (m.log2 + 1) := Nat.lt_log2_self.le
    _ ≤ 2 ^ (24 + shiftOf m e) := Nat.pow_le_pow_right (by decide) log
    _ = 2 ^ 24 * 2 ^ shiftOf m e := Nat.pow_add ..

/-- A number of a sign, a significand and an exponent, which may be zero. -/
def ofParts (sign : Sign) (m : Nat) (e : Int) : UnpackedFloat :=
  if h : m = 0 then .zero sign else .finite sign m e (Nat.pos_of_ne_zero h)

/-- A significand is rounded once.  One that is rounded up to the next power of two is
shifted once more. -/
theorem roundWithAccuracy_eq (sign : Sign) (m : Nat) (e : Int) :
    roundWithAccuracy binary32 sign m e .exact =
      if roundToEven m (2 ^ shiftOf m e) < 2 ^ 24 then
        ofParts sign (roundToEven m (2 ^ shiftOf m e)) (e + shiftOf m e)
      else ofParts sign (2 ^ 23) (e + shiftOf m e + 1) := by
  have low := (shift_reaches m e).1
  have high := rounded_le m e
  have twice : roundWithAccuracy binary32 sign m e .exact =
      let r := (ExtendedMantissa.ofMantissaAndAccuracy m .exact >>> shiftOf m e).roundedMantissa
      let f := e + shiftOf m e
      ofParts sign (ExtendedMantissa.ofMantissaAndAccuracy r .exact >>> shiftOf r f).mantissa
        (f + shiftOf r f) := rfl
  rw [twice, roundedMantissa_shiftRight]
  generalize roundToEven m (2 ^ shiftOf m e) = r at high ⊢
  generalize e + (shiftOf m e : Int) = f at low ⊢
  rcases Nat.lt_or_ge r (2 ^ 24) with few | many
  · have log : r.log2 ≤ 23 := by
      rcases Nat.eq_zero_or_pos r with rfl | positive
      · decide
      · exact Nat.le_of_lt_succ ((Nat.log2_lt (Nat.ne_of_gt positive)).mpr few)
    have still : shiftOf r f = 0 := by
      rw [shiftOf_eq]
      omega
    have same : ExtendedMantissa.ofMantissaAndAccuracy r .exact >>> 0 = ⟨r, false, false⟩ := rfl
    simp only [still, same, Nat.cast_zero, Int.add_zero, if_pos few]
  · obtain rfl : r = 2 ^ 24 := Nat.le_antisymm high many
    have once : shiftOf (2 ^ 24) f = 1 := by
      rw [shiftOf_eq, Nat.log2_two_pow]
      omega
    simp only [once]
    rfl

/-! ### Numbers too small for the format -/

/-- A significand and an exponent as single precision has them. -/
structure IsSingle (m : Nat) (e : Int) : Prop where
  short : m < 2 ^ 24
  least : -149 ≤ e
  normal : 2 ^ 23 ≤ m ∨ e = -149

section Rounded

variable {m : Nat} {e : Int}

/-- A number whose digits reach far enough is rounded at its 24th bit, or at the last place
of the format. -/
theorem place_of_fine (fine : 23 ≤ m.log2 ∨ e ≤ -149) :
    shiftOf m e + 23 = m.log2 ∨ (e + shiftOf m e : Int) = -149 := by
  rw [shiftOf_eq]
  omega

/-- A significand that is shifted to full length stays at full length when it is rounded. -/
theorem normal_rounded (positive : 0 < m) (place : shiftOf m e + 23 = m.log2) :
    2 ^ 23 ≤ roundToEven m (2 ^ shiftOf m e) := by
  refine le_roundToEven ?_ (Nat.two_pow_pos _)
  rw [← Nat.pow_add, Nat.add_comm, place]
  exact Nat.log2_self_le (Nat.ne_of_gt positive)

/-- A number is rounded to zero if it is at most half of the smallest positive one of the
format. -/
theorem rounded_eq_zero_iff (positive : 0 < m) (fine : 23 ≤ m.log2 ∨ e ≤ -149) :
    roundToEven m (2 ^ shiftOf m e) = 0 ↔ (m : ℚ) * 2 ^ e ≤ 2 ^ (-150 : ℤ) := by
  have low := (shift_reaches m e).1
  have power : (0 : ℚ) < 2 ^ e := by positivity
  have scaled : ((2 ^ shiftOf m e : ℕ) : ℚ) * 2 ^ e = 2 * 2 ^ (e + shiftOf m e - 1 : ℤ) := by
    rw [Nat.cast_pow, Nat.cast_ofNat, ← zpow_natCast, ← zpow_add₀ two_ne_zero,
      ← zpow_one_add₀ two_ne_zero]
    congr 1
    ring
  rw [roundToEven_eq_zero_iff (Nat.two_pow_pos _)]
  constructor
  · intro half
    have place : (e + shiftOf m e : Int) = -149 := by
      refine (place_of_fine fine).resolve_left fun normal => ?_
      have large := normal_rounded positive normal
      rw [(roundToEven_eq_zero_iff (Nat.two_pow_pos _)).mpr half] at large
      omega
    have half : (2 : ℚ) * m ≤ (2 ^ shiftOf m e : ℕ) := by exact_mod_cast half
    have product := mul_le_mul_of_nonneg_right half power.le
    rw [scaled, place] at product
    norm_num at product ⊢
    linarith
  · intro small
    by_contra more
    have more : ((2 ^ shiftOf m e : ℕ) : ℚ) < 2 * m := by exact_mod_cast not_le.mp more
    have product := mul_lt_mul_of_pos_right more power
    rw [scaled] at product
    have least : (2 : ℚ) ^ (-150 : ℤ) ≤ 2 ^ (e + shiftOf m e - 1 : ℤ) :=
      zpow_le_zpow_right₀ one_le_two (by omega)
    linarith

/-- Rounding does not pass a power of two on the way down. -/
theorem two_zpow_le_rounded (nonzero : roundToEven m (2 ^ shiftOf m e) ≠ 0) {p : ℤ}
    (above : (2 : ℚ) ^ p ≤ m * 2 ^ e) :
    (2 : ℚ) ^ p ≤ roundToEven m (2 ^ shiftOf m e) * 2 ^ (e + shiftOf m e : ℤ) := by
  rcases le_or_gt p (e + shiftOf m e) with under | beyond
  · have one : (1 : ℚ) ≤ roundToEven m (2 ^ shiftOf m e) := by
      exact_mod_cast Nat.pos_of_ne_zero nonzero
    calc (2 : ℚ) ^ p
      _ ≤ 2 ^ (e + shiftOf m e : ℤ) := zpow_le_zpow_right₀ one_le_two under
      _ = 1 * 2 ^ (e + shiftOf m e : ℤ) := (one_mul _).symm
      _ ≤ roundToEven m (2 ^ shiftOf m e) * 2 ^ (e + shiftOf m e : ℤ) := by gcongr
  · obtain ⟨n, rfl⟩ : ∃ n : Nat, p = n + (e + shiftOf m e) :=
      ⟨(p - (e + shiftOf m e)).toNat, by omega⟩
    have reached : 2 ^ n * 2 ^ shiftOf m e ≤ m := by
      have power : (0 : ℚ) < 2 ^ e := by positivity
      have scaled : (2 : ℚ) ^ (n + (e + shiftOf m e) : ℤ) =
          ((2 ^ n * 2 ^ shiftOf m e : ℕ) : ℚ) * 2 ^ e := by
        push_cast
        rw [zpow_add₀ two_ne_zero, zpow_add₀ two_ne_zero, zpow_natCast, zpow_natCast]
        ring
      rw [scaled] at above
      exact_mod_cast le_of_mul_le_mul_right above power
    have rounded : ((2 ^ n : ℕ) : ℚ) ≤ roundToEven m (2 ^ shiftOf m e) := by
      exact_mod_cast le_roundToEven reached (Nat.two_pow_pos _)
    calc (2 : ℚ) ^ (n + (e + shiftOf m e) : ℤ)
      _ = ((2 ^ n : ℕ) : ℚ) * 2 ^ (e + shiftOf m e : ℤ) := by
          rw [zpow_add₀ two_ne_zero, zpow_natCast, Nat.cast_pow, Nat.cast_ofNat]
      _ ≤ roundToEven m (2 ^ shiftOf m e) * 2 ^ (e + shiftOf m e : ℤ) := by gcongr

/-- What a number may be rounded to that is not too small: a number of the format that is
hardly longer, and that lies above the same powers of two. -/
structure IsRounded (m : Nat) (e : Int) (r : Nat) (f : Int) : Prop where
  single : IsSingle r f
  place : f ≤ max (m.log2 + e) (-126) - 22
  above : ∀ p : ℤ, (2 : ℚ) ^ p ≤ m * 2 ^ e → (2 : ℚ) ^ p ≤ r * 2 ^ f

/-- A number is rounded to zero if it is at most half of the smallest positive one of the
format, and else to another number of the format. -/
theorem roundWithAccuracy_cases (sign : Sign) (positive : 0 < m)
    (fine : 23 ≤ m.log2 ∨ e ≤ -149) :
    (m : ℚ) * 2 ^ e ≤ 2 ^ (-150 : ℤ) ∧ roundWithAccuracy binary32 sign m e .exact = .zero sign ∨
      (2 : ℚ) ^ (-150 : ℤ) < m * 2 ^ e ∧ ∃ r f, ∃ positive : 0 < r,
        roundWithAccuracy binary32 sign m e .exact = .finite sign r f positive ∧
          IsRounded m e r f := by
  rw [roundWithAccuracy_eq]
  have low := (shift_reaches m e).1
  have high := rounded_le m e
  have zero := rounded_eq_zero_iff positive fine
  have place := place_of_fine fine
  by_cases vanishes : roundToEven m (2 ^ shiftOf m e) = 0
  · refine .inl ⟨zero.mp vanishes, ?_⟩
    rw [vanishes, if_pos (by decide)]
    rfl
  · have stays {p : ℤ} := two_zpow_le_rounded (p := p) vanishes
    refine .inr ⟨not_le.mp fun small => vanishes (zero.mpr small), ?_⟩
    rcases Nat.lt_or_ge (roundToEven m (2 ^ shiftOf m e)) (2 ^ 24) with few | many
    · refine ⟨_, _, Nat.pos_of_ne_zero vanishes, ?_, ⟨few, low, ?_⟩, by omega, fun p => stays⟩
      · rw [if_pos few, ofParts, dif_neg vanishes]
      · exact place.imp_left (normal_rounded positive)
    · -- Rounding up has carried into a new digit, so the significand is shifted once more.
      refine ⟨2 ^ 23, e + shiftOf m e + 1, by decide, ?_, ⟨by decide, by omega, .inl le_rfl⟩,
        by omega, ?_⟩
      · rw [if_neg (by omega)]
        rfl
      · intro p above
        have same : (2 : ℚ) ^ (24 : ℕ) * 2 ^ (e + shiftOf m e : ℤ) =
            (2 ^ 23 : ℕ) * 2 ^ (e + shiftOf m e + 1 : ℤ) := by
          rw [zpow_add_one₀ two_ne_zero]
          push_cast
          ring
        have rounded : roundToEven m (2 ^ shiftOf m e) = 2 ^ 24 := Nat.le_antisymm high many
        have reached := stays above
        rw [rounded, Nat.cast_pow, Nat.cast_ofNat, same] at reached
        exact reached

end Rounded

theorem log2_shiftLeft {n : Nat} (positive : 0 < n) (j : Nat) :
    (n <<< j).log2 = n.log2 + j := by
  have log := (Nat.log2_eq_iff (Nat.ne_of_gt positive)).mp rfl
  have power : 0 < 2 ^ j := Nat.two_pow_pos j
  have shifted : 0 < n * 2 ^ j := Nat.mul_pos positive power
  rw [Nat.shiftLeft_eq, Nat.log2_eq_iff (Nat.ne_of_gt shifted), Nat.add_right_comm, Nat.pow_add,
    Nat.pow_add]
  exact ⟨Nat.mul_le_mul_right _ log.1, Nat.mul_lt_mul_of_pos_right log.2 power⟩

/-- Digits to the right do not change a number. -/
theorem cast_shiftLeft_mul (n j : Nat) (e : Int) :
    ((n <<< j : ℕ) : ℚ) * 2 ^ (e - j) = n * 2 ^ e := by
  rw [Nat.shiftLeft_eq, Nat.cast_mul, Nat.cast_pow, Nat.cast_ofNat, zpow_sub₀ two_ne_zero,
    zpow_natCast]
  field_simp

/-- A number with a place in the format is not too small.  It may get digits to the right
before it is rounded. -/
theorem round_cases (sign : Sign) {n : Nat} (positive : 0 < n) {e : Int} (least : -149 ≤ e) :
    ∃ r f, ∃ nonzero : 0 < r, UnpackedFloat.round binary32 sign n e = .finite sign r f nonzero ∧
      IsRounded n e r f := by
  obtain ⟨j, shift, once⟩ : ∃ j : Nat, (j = (e - max ((n.log2 : Int) + e - 23) (-149)).toNat) ∧
      UnpackedFloat.round binary32 sign n e =
        roundWithAccuracy binary32 sign (n <<< j) (e - j) .exact := by
    refine ⟨_, ?_, rfl⟩
    simp only [Float.Model.Format.targetExponent, totalExponent,
      Float.Model.Format.mantissaBits, Float.Model.Format.minExponent]
    congr 1
    omega
  have log := log2_shiftLeft positive j
  have longer : 0 < n <<< j := by
    rw [Nat.shiftLeft_eq]
    exact Nat.mul_pos positive (Nat.two_pow_pos j)
  rw [once]
  rcases roundWithAccuracy_cases sign longer (e := e - j) (by omega) with
    ⟨small, -⟩ | ⟨-, r, f, nonzero, made, rounded⟩
  · rw [cast_shiftLeft_mul] at small
    have one : (1 : ℚ) ≤ n := by exact_mod_cast positive
    have large : (2 : ℚ) ^ (-150 : ℤ) < n * 2 ^ e :=
      calc (2 : ℚ) ^ (-150 : ℤ)
        _ < 2 ^ e := zpow_lt_zpow_right₀ one_lt_two (by omega)
        _ = 1 * 2 ^ e := (one_mul _).symm
        _ ≤ n * 2 ^ e := by gcongr
    exact absurd small (not_le.mpr large)
  · refine ⟨r, f, nonzero, made, rounded.single, ?_, fun p above => rounded.above p ?_⟩
    · have place := rounded.place
      omega
    · rwa [cast_shiftLeft_mul]

/-! ### Patterns -/

theorem bias_eq :
    (binary32.exponentBias : Int) + (binary32.mantissaBitsWithoutImplicit : Nat) = 150 := rfl

theorem toNat_leading (fraction : BitVec 23) :
    (1#1 ++ fraction).toNat = 2 ^ 23 + fraction.toNat := by
  rw [BitVec.toNat_append, ← Nat.shiftLeft_add_eq_or_of_lt fraction.isLt]
  rfl

theorem ofBitVec_toBitVec (sign : Sign) : Sign.ofBitVec sign.toBitVec = sign := by
  cases sign <;> rfl

/-- A pattern whose exponent is neither zero nor all ones stands for a normal number. -/
theorem unpack_packComponents_normal (sign : Sign) {field : BitVec 8} (fraction : BitVec 23)
    (nonzero : field ≠ 0#8) (finite : field ≠ -1#8) :
    unpack binary32 (packComponents binary32 sign field fraction) =
      .finite sign (2 ^ 23 + fraction.toNat) (field.toNat - 150) (by omega) := by
  simp only [unpack, unpackExponent_packComponents, unpackMantissa_packComponents,
    unpackSign_packComponents, ofBitVec_toBitVec, toNat_leading, if_neg nonzero, if_neg finite]
  rfl

/-- A pattern without an exponent is read with the least one, and no leading bit is added. -/
theorem unpack_packComponents_subnormal (sign : Sign) {fraction : BitVec 23}
    (positive : 0 < fraction.toNat) :
    unpack binary32 (packComponents binary32 sign 0#8 fraction) =
      .finite sign fraction.toNat (-149) positive := by
  have nonzero : fraction ≠ 0#23 := by
    rintro rfl
    exact absurd positive (by decide)
  have finite : 0#8 ≠ -1#8 := by decide
  simp only [unpack, unpackExponent_packComponents, unpackMantissa_packComponents,
    unpackSign_packComponents, ofBitVec_toBitVec, if_neg finite, if_pos, dif_neg nonzero]
  rfl

/-- A number of the format is its pattern, unless it is too large. -/
theorem unpack_pack {m : Nat} {e : Int} (single : IsSingle m e) (sign : Sign) (positive : 0 < m) :
    (Float32.Model.pack (.finite sign m e positive)).unpack =
      if 104 < e then .infinity sign else .finite sign m e positive := by
  obtain ⟨short, least, normal⟩ := single
  have field : (e + (binary32.exponentBias : Nat) +
      (binary32.mantissaBitsWithoutImplicit : Nat)).toNat = (e + 150).toNat := by
    rw [Int.add_assoc, bias_eq]
  change unpack binary32 (pack binary32 (.finite sign m e positive)) = _
  simp only [pack, field]
  by_cases large : 104 < e
  · rw [if_pos (show 256 ≤ (e + 150).toNat + 1 by omega), if_pos large]
    cases sign <;> rfl
  · rw [if_neg (show ¬ 256 ≤ (e + 150).toNat + 1 by omega), if_neg large]
    have exponent : (BitVec.ofNat 8 (e + 150).toNat).toNat = (e + 150).toNat := by
      rw [BitVec.toNat_ofNat, Nat.mod_eq_of_lt (by omega)]
    by_cases many : 2 ^ 23 ≤ m
    · -- With its leading bit in place the significand is normal, and the field holds the
      -- other bits.
      have log : m.log2 = 23 := (Nat.log2_eq_iff (Nat.ne_of_gt positive)).mpr ⟨many, short⟩
      have fraction : 2 ^ 23 + (BitVec.ofNat 23 m).toNat = m := by
        rw [BitVec.toNat_ofNat]
        omega
      rw [log, if_pos (show 23 + 1 = binary32.mantissaBits from rfl)]
      rw [unpack_packComponents_normal]
      · simp only [fraction, exponent]
        congr 1
        omega
      · intro zero
        have value := congrArg BitVec.toNat zero
        rw [exponent] at value
        change (e + 150).toNat = 0 at value
        omega
      · intro ones
        have all := congrArg BitVec.toNat ones
        rw [exponent] at all
        change (e + 150).toNat = 255 at all
        omega
    · -- A shorter one has the least exponent, and the field holds all of its bits.
      have log : m.log2 < 23 := (Nat.log2_lt (Nat.ne_of_gt positive)).mpr (not_le.mp many)
      obtain rfl : e = -149 := normal.resolve_left many
      have fraction : (BitVec.ofNat 23 m).toNat = m := by
        rw [BitVec.toNat_ofNat, Nat.mod_eq_of_lt (not_le.mp many)]
      rw [if_neg (show ¬ m.log2 + 1 = binary32.mantissaBits by change ¬ _ = 24; omega)]
      rw [unpack_packComponents_subnormal sign (by rw [fraction]; exact positive)]
      simp only [fraction]

/-- What is unpacked is a number of the format. -/
theorem isSingle_of_unpack {x : Float32} {sign : Sign} {m : Nat} {e : Int} {positive : 0 < m}
    (parts : x.toModel.unpack = .finite sign m e positive) : IsSingle m e ∧ e ≤ 104 := by
  unfold Float32.Model.unpack UnpackedFloat.unpack at parts
  have short := (@unpackMantissa binary32 x.toModel.toBits.toBitVec).isLt
  simp only at parts
  split at parts
  · split at parts <;> cases parts
  · next finite =>
    split at parts
    · next zero =>
      split at parts
      · cases parts
      · rw [zero] at parts
        cases parts
        change _ < 2 ^ 23 at short
        exact ⟨⟨by omega, by decide, .inr rfl⟩, by decide⟩
    · next nonzero =>
      cases parts
      have field := (@unpackExponent binary32 x.toModel.toBits.toBitVec).isLt
      have low : (@unpackExponent binary32 x.toModel.toBits.toBitVec).toNat ≠ 0 :=
        fun vanishes => nonzero (BitVec.eq_of_toNat_eq vanishes)
      have high : (@unpackExponent binary32 x.toModel.toBits.toBitVec).toNat ≠ 255 :=
        fun ones => finite (BitVec.eq_of_toNat_eq ones)
      rw [toNat_leading, bias_eq]
      change _ < 2 ^ 23 at short
      change _ < 2 ^ 8 at field
      exact ⟨⟨by omega, by omega, .inl (by omega)⟩, by omega⟩

/-! ### Exact values -/

section ExactValues

variable (x : Float32)

theorem toNat_unpackMantissa :
    (@unpackMantissa binary32 x.toModel.toBits.toBitVec).toNat = x.toBits.toNat % 2 ^ 23 := by
  rw [unpackMantissa_def, BitVec.extractLsb'_toNat, Nat.shiftRight_zero]
  rfl

theorem toNat_unpackExponent :
    (@unpackExponent binary32 x.toModel.toBits.toBitVec).toNat =
      x.toBits.toNat / 2 ^ 23 % 2 ^ 8 := by
  rw [unpackExponent_def, BitVec.extractLsb'_toNat, Nat.shiftRight_eq_div_pow]
  rfl

variable {x}

/-- The pattern of a positive number does not have the bit of the sign. -/
theorem toNat_lt_of_positive
    (bit : Sign.ofBitVec (@unpackSign binary32 x.toModel.toBits.toBitVec) = .positive) :
    x.toBits.toNat < 2 ^ 31 := by
  have size : x.toBits.toNat < 2 ^ 32 := x.toBits.toNat_lt
  have signed : (@unpackSign binary32 x.toModel.toBits.toBitVec).toNat =
      x.toBits.toNat / 2 ^ 31 % 2 := by
    rw [unpackSign_def, BitVec.extractLsb'_toNat, Nat.shiftRight_eq_div_pow]
    rfl
  rw [Sign.ofBitVec] at bit
  split at bit
  · next zero =>
    have unsigned := signed.symm.trans (congrArg BitVec.toNat zero)
    change _ = 0 at unsigned
    omega
  · cases bit

/-- The fields of a pattern without a sign. -/
theorem exactSingle_eq (positive : x.toBits.toNat < 2 ^ 31) :
    exactSingle x =
      if 255 * 2 ^ 23 < x.toBits.toNat then .notANumber
      else if x.toBits.toNat = 255 * 2 ^ 23 then .infinite false
      else if x.toBits.toNat / 2 ^ 23 = 0 then .finite false (x.toBits.toNat % 2 ^ 23) (-149)
      else .finite false (x.toBits.toNat % 2 ^ 23 + 2 ^ 23)
        (-149 + ((x.toBits.toNat / 2 ^ 23 : Nat) - 1)) := by
  have read : exactSingle x = Format.single.read x.toBits.toNat := rfl
  have signBit : Format.single.signBit = 2 ^ 31 := by decide
  have infinityBits : Format.single.infinityBits = 255 * 2 ^ 23 := by decide
  have leading : Format.single.leading = 2 ^ 23 := by decide
  have least : Format.single.leastExponent = -149 := by decide
  have plain : decide (2 ^ 31 ≤ x.toBits.toNat) = false := decide_eq_false (not_le.mpr positive)
  simp only [read, Format.read, signBit, infinityBits, leading, least, plain,
    Nat.mod_eq_of_lt positive]

/-- The exact value of a positive number has its parts. -/
theorem exactSingle_of_unpack {m : Nat} {e : Int} {positive : 0 < m}
    (parts : x.toModel.unpack = .finite .positive m e positive) :
    exactSingle x = .finite false m e := by
  have fraction := toNat_unpackMantissa x
  have field := toNat_unpackExponent x
  unfold Float32.Model.unpack UnpackedFloat.unpack at parts
  simp only at parts
  split at parts
  · split at parts <;> cases parts
  · next finite =>
    have finite : x.toBits.toNat / 2 ^ 23 % 2 ^ 8 ≠ 255 := fun ones =>
      finite (BitVec.eq_of_toNat_eq (field.trans ones))
    split at parts
    · next zero =>
      have zero := field.symm.trans (congrArg BitVec.toNat zero)
      change _ = 0 at zero
      split at parts
      · cases parts
      · obtain ⟨sign, rfl, rfl⟩ := UnpackedFloat.finite.inj parts
        have positive := toNat_lt_of_positive sign
        rw [exactSingle_eq positive, if_neg (by omega), if_neg (by omega), if_pos (by omega),
          fraction, field, zero]
        rfl
    · next nonzero =>
      have nonzero : x.toBits.toNat / 2 ^ 23 % 2 ^ 8 ≠ 0 := fun vanishes =>
        nonzero (BitVec.eq_of_toNat_eq (field.trans vanishes))
      obtain ⟨sign, rfl, rfl⟩ := UnpackedFloat.finite.inj parts
      have positive := toNat_lt_of_positive sign
      rw [exactSingle_eq positive, if_neg (by omega), if_neg (by omega), if_neg (by omega),
        toNat_leading, fraction, bias_eq, field, Exact.finite.injEq]
      exact ⟨rfl, by omega, by omega⟩

/-- An infinity is exactly infinite. -/
theorem exactSingle_of_infinity (parts : x.toModel.unpack = .infinity .positive) :
    exactSingle x = .infinite false := by
  have fraction := toNat_unpackMantissa x
  have field := toNat_unpackExponent x
  unfold Float32.Model.unpack UnpackedFloat.unpack at parts
  simp only at parts
  split at parts
  · next ones =>
    have ones := field.symm.trans (congrArg BitVec.toNat ones)
    change _ = 255 at ones
    split at parts
    · next zero =>
      have zero := fraction.symm.trans (congrArg BitVec.toNat zero)
      change _ = 0 at zero
      have positive := toNat_lt_of_positive (UnpackedFloat.infinity.inj parts)
      rw [exactSingle_eq positive, if_neg (by omega), if_pos (by omega)]
    · cases parts
  · split at parts
    · split at parts <;> cases parts
    · cases parts

end ExactValues

end Stagecraft.Number
