/-
Module: Stagecraft.Proofs.Products
Purpose: When products of positive single-precision numbers are positive, and that what a
  number below one leaves of one is positive.
Main exports:
  IsPositive, zero_lt_iff, zero_lt_of_not_le, number?_of_unpack, mul_pos_iff_of_unpack,
  mul_pos_of_infinity, one_sub_of_zero, exists_one_sub
-/
import Stagecraft.Proofs.Comparisons
import Stagecraft.Proofs.SingleParts

namespace Stagecraft.Number

open Float.Model (UnpackedFloat)
open Float.Model.UnpackedFloat
open Float.Model.Format (binary32)

/-! ### Positive numbers -/

/-- The parts of a positive number. -/
inductive IsPositive : UnpackedFloat → Prop where
  | infinity : IsPositive (.infinity .positive)
  | finite {m : Nat} {e : Int} (positive : 0 < m) : IsPositive (.finite .positive m e positive)

/-- Whether a number is positive can be told from its parts. -/
theorem zero_lt_iff {x : Float32} : 0 < x ↔ IsPositive x.toModel.unpack := by
  rw [single_lt_iff]
  change UnpackedFloat.compare (.zero .positive) x.toModel.unpack = some .lt ↔ _
  generalize x.toModel.unpack = parts
  constructor
  · intro less
    cases parts with
    | infinity sign =>
        cases sign with
        | positive => exact .infinity
        | negative => cases less
    | notANumber => cases less
    | zero sign => cases less
    | finite sign m e positive =>
        cases sign with
        | positive => exact .finite positive
        | negative => cases less
  · intro positive
    cases positive <;> rfl

/-- So can which of two is no greater. -/
theorem single_le_iff (a b : Float32) :
    a ≤ b ↔ (a.toModel.unpack.compare b.toModel.unpack).any Ordering.isLE = true := by
  change decide ((a.toModel.unpack.compare b.toModel.unpack).any (fun order => order.isLE) =
    true) = true ↔ _
  rw [decide_eq_true_eq]

/-- A number is positive, or it is at most zero. -/
theorem zero_lt_of_not_le {x : Float32} (measured : x.isNaN = false) (above : ¬ x ≤ 0) :
    0 < x := by
  rw [zero_lt_iff]
  rw [single_le_iff] at above
  change x.toModel.unpack.isNaN = false at measured
  change ¬ (UnpackedFloat.compare x.toModel.unpack (.zero .positive)).any _ = true at above
  generalize x.toModel.unpack = parts at measured above ⊢
  cases parts with
  | infinity sign =>
      cases sign with
      | positive => exact .infinity
      | negative => exact absurd rfl above
  | notANumber => cases measured
  | zero sign => exact absurd rfl above
  | finite sign m e positive =>
      cases sign with
      | positive => exact .finite positive
      | negative => exact absurd rfl above

/-! ### Products -/

section Products

variable {x y : Float32} {m n : Nat} {e f : Int} {positive : 0 < m} {positiveOther : 0 < n}

/-- The number that a positive machine number is. -/
theorem number?_of_unpack (parts : x.toModel.unpack = .finite .positive m e positive) :
    (exactSingle x).number? = .some (m * 2 ^ e : ℚ) := by
  rw [exactSingle_of_unpack parts]
  simp [Exact.number?]

/-- No positive number is below the smallest one. -/
theorem two_zpow_le_of_unpack (parts : x.toModel.unpack = .finite .positive m e positive) :
    (2 : ℚ) ^ (-149 : ℤ) ≤ m * 2 ^ e := by
  have least := (isSingle_of_unpack parts).1.least
  have one : (1 : ℚ) ≤ m := by exact_mod_cast positive
  calc (2 : ℚ) ^ (-149 : ℤ)
    _ ≤ 2 ^ e := zpow_le_zpow_right₀ one_le_two least
    _ = 1 * 2 ^ e := (one_mul _).symm
    _ ≤ m * 2 ^ e := by gcongr

/-- An infinity stands for no number. -/
theorem number?_of_infinity (parts : x.toModel.unpack = .infinity .positive) :
    (exactSingle x).number? = none := by
  rw [exactSingle_of_infinity parts]
  rfl

/-- The product of two positive numbers is positive if it is more than half of the smallest
positive one.  At the half exactly the tie goes to zero. -/
theorem mul_pos_iff_of_unpack (first : x.toModel.unpack = .finite .positive m e positive)
    (second : y.toModel.unpack = .finite .positive n f positiveOther) :
    0 < x * y ↔ (2 : ℚ) ^ (-150 : ℤ) < m * 2 ^ e * (n * 2 ^ f) := by
  have both : 0 < m * n := Nat.mul_pos positive positiveOther
  have fine : 23 ≤ (m * n).log2 ∨ e + f ≤ -149 := by
    rw [Nat.le_log2 (Nat.ne_of_gt both)]
    rcases (isSingle_of_unpack first).1.normal with long | last
    · exact .inl (long.trans (Nat.le_mul_of_pos_right m positiveOther))
    · rcases (isSingle_of_unpack second).1.normal with long | least
      · exact .inl (long.trans (Nat.le_mul_of_pos_left n positive))
      · exact .inr (by omega)
  have size : ((m * n : ℕ) : ℚ) * 2 ^ (e + f) = m * 2 ^ e * (n * 2 ^ f) := by
    rw [Nat.cast_mul, zpow_add₀ two_ne_zero]
    ring
  have product : (x * y).toModel.unpack = (Float32.Model.pack
      (roundWithAccuracy binary32 .positive (m * n) (e + f) .exact)).unpack := by
    change (Float32.Model.pack
      (UnpackedFloat.mul binary32 x.toModel.unpack y.toModel.unpack)).unpack = _
    rw [first, second]
    rfl
  rw [zero_lt_iff, product, ← size]
  rcases roundWithAccuracy_cases .positive both fine with
    ⟨small, made⟩ | ⟨large, r, g, left, made, rounded⟩
  · refine iff_of_false ?_ (not_lt.mpr small)
    rw [made]
    change ¬ IsPositive (.zero .positive)
    exact nofun
  · refine iff_of_true ?_ large
    rw [made, unpack_pack rounded.single]
    split
    · exact .infinity
    · exact .finite left

/-- An infinity times a positive number is positive. -/
theorem mul_pos_of_infinity (first : x.toModel.unpack = .infinity .positive)
    (second : y.toModel.unpack = .finite .positive n f positiveOther) : 0 < x * y := by
  have product : (x * y).toModel.unpack = .infinity .positive := by
    change (Float32.Model.pack
      (UnpackedFloat.mul binary32 x.toModel.unpack y.toModel.unpack)).unpack = _
    rw [first, second]
    change (Float32.Model.pack (.infinity .positive)).unpack = _
    rfl
  rw [zero_lt_iff, product]
  exact .infinity

end Products

/-! ### What is left of one -/

theorem unpack_one :
    (1 : Float32).toModel.unpack = .finite .positive (2 ^ 23) (-23) (by decide) := by
  rfl

/-- The parts of a number that is not negative and below one. -/
theorem parts_below_one {x : Float32} (low : 0 ≤ x) (high : x < 1) :
    (∃ sign, x.toModel.unpack = .zero sign) ∨
      ∃ m e positive, x.toModel.unpack = .finite .positive m e positive ∧ e ≤ -24 := by
  rw [single_le_iff] at low
  rw [single_lt_iff, unpack_one] at high
  change (UnpackedFloat.compare (.zero .positive) x.toModel.unpack).any _ = true at low
  cases parts : x.toModel.unpack with
  | infinity sign =>
      rw [parts] at low high
      cases sign with
      | positive => cases high
      | negative => cases low
  | notANumber =>
      rw [parts] at low
      cases low
  | zero sign => exact .inl ⟨sign, rfl⟩
  | finite sign m e positive =>
      rw [parts] at low high
      cases sign with
      | negative => cases low
      | positive =>
          refine .inr ⟨m, e, positive, rfl, ?_⟩
          obtain ⟨single, -⟩ := isSingle_of_unpack parts
          have less : (compare e (-23)).then (compare m (2 ^ 23)) = .lt := Option.some.inj high
          rcases Ordering.then_eq_lt.mp less with below | ⟨same, few⟩
          · exact Int.le_sub_one_of_lt (Int.compare_eq_lt.mp below)
          · have same := Int.compare_eq_eq.mp same
            have few := Nat.compare_eq_lt.mp few
            rcases single.normal with many | least <;> omega

/-- Zero leaves all of one. -/
theorem one_sub_of_zero {x : Float32} {sign : Sign} (zero : x.toModel.unpack = .zero sign) :
    (1 - x).toModel.unpack = .finite .positive (2 ^ 23) (-23) (by decide) := by
  change (Float32.Model.pack
    (UnpackedFloat.sub binary32 (1 : Float32).toModel.unpack x.toModel.unpack)).unpack = _
  rw [zero, unpack_one]
  change (Float32.Model.pack (.finite .positive (2 ^ 23) (-23) _)).unpack = _
  rfl

/-- What is left of one has the digits down to the last one that is taken away. -/
theorem one_sub_eq_round {k m : Nat} (positive : 0 < m) (less : m < 2 ^ (24 + k)) :
    UnpackedFloat.sub binary32 (.finite .positive (2 ^ 23) (-23) (by decide))
        (.finite .positive m (-24 - k) positive) =
      UnpackedFloat.round binary32 .positive (2 ^ (24 + k) - m) (-24 - k) := by
  have aligned : UnpackedFloat.sub binary32 (.finite .positive (2 ^ 23) (-23) (by decide))
        (.finite .positive m (-24 - k) positive) =
      UnpackedFloat.normalize binary32
        ((2 ^ 23 <<< (-23 - min (-23) (-24 - k : Int)).toNat : Nat) -
          (m <<< ((-24 - k) - min (-23) (-24 - k : Int)).toNat : Nat) : Int)
        (min (-23) (-24 - k)) .positive := rfl
  have lower : min (-23) (-24 - k : Int) = -24 - k := by omega
  have first : (-23 - (-24 - k : Int)).toNat = k + 1 := by omega
  have power : 2 ^ 23 <<< (k + 1) = 2 ^ (24 + k) := by
    rw [Nat.shiftLeft_eq, ← Nat.pow_add]
    congr 1
    omega
  have above : compare (((2 ^ (24 + k) : Nat) : Int) - (m : Nat)) 0 = .gt :=
    Int.compare_eq_gt.mpr (by omega)
  rw [aligned, lower, first, power, Int.sub_self, Int.toNat_zero, Nat.shiftLeft_zero,
    UnpackedFloat.normalize, above]
  simp only [Int.toNat_sub]

/-- What a number below one leaves of one is positive.  It is at least the distance from one to
the next number below. -/
theorem exists_one_sub {x : Float32} (low : 0 ≤ x) (high : x < 1) :
    ∃ n f nonzero, (1 - x).toModel.unpack = .finite .positive n f nonzero ∧
      (2 : ℚ) ^ (-24 : ℤ) ≤ n * 2 ^ f := by
  rcases parts_below_one low high with ⟨sign, zero⟩ | ⟨m, e, nonzero, parts, small⟩
  · exact ⟨2 ^ 23, -23, by decide, one_sub_of_zero zero, by norm_num⟩
  · obtain ⟨single, -⟩ := isSingle_of_unpack parts
    have least := single.least
    -- Counted in the last place of the number, one is a power of two, and at least 2 ^ k of it
    -- is left.
    obtain ⟨k, rfl⟩ : ∃ k : Nat, e = -24 - k := ⟨(-24 - e).toNat, by omega⟩
    have left : 2 ^ k ≤ 2 ^ (24 + k) - m := by
      have short := single.short
      have power : 0 < 2 ^ k := Nat.two_pow_pos k
      rw [Nat.pow_add]
      omega
    have positive : 0 < 2 ^ (24 + k) - m := Nat.lt_of_lt_of_le (Nat.two_pow_pos k) left
    obtain ⟨r, f, more, rounds, rounded⟩ := round_cases .positive positive least
    have finite : ¬ 104 < f := by
      have place := rounded.place
      have short : (2 ^ (24 + k) - m).log2 < 24 + k + 1 :=
        (Nat.log2_lt (Nat.ne_of_gt positive)).mpr
          ((Nat.sub_le _ _).trans_lt (Nat.pow_lt_pow_right (by decide) (Nat.lt_succ_self _)))
      omega
    refine ⟨r, f, more, ?_, rounded.above _ ?_⟩
    · change (Float32.Model.pack
        (UnpackedFloat.sub binary32 (1 : Float32).toModel.unpack x.toModel.unpack)).unpack = _
      rw [unpack_one, parts, one_sub_eq_round nonzero (Nat.lt_of_sub_pos positive), rounds,
        unpack_pack rounded.single, if_neg finite]
    · have left : ((2 ^ k : ℕ) : ℚ) ≤ (2 ^ (24 + k) - m : ℕ) := by exact_mod_cast left
      calc (2 : ℚ) ^ (-24 : ℤ)
        _ = (2 ^ k : ℕ) * 2 ^ (-24 - k : ℤ) := by
            rw [Nat.cast_pow, Nat.cast_ofNat, ← zpow_natCast, ← zpow_add₀ two_ne_zero]
            congr 1
            ring
        _ ≤ (2 ^ (24 + k) - m : ℕ) * 2 ^ (-24 - k : ℤ) := by gcongr

end Stagecraft.Number
