/-
Module: Stagecraft.Proofs.BitPatterns
Purpose: Machine numbers keep the bit pattern that they are made of, as long as it is not one of
  the many patterns for "not a number".
Main exports:
  exactSingle_ofBits, exactDouble_ofBits
-/
import Stagecraft.Number.Conversion
import Mathlib

namespace Stagecraft.Number

open Float.Model (UnpackedFloat)
open Float.Model.UnpackedFloat (isNaNBits pack_unpack unpackExponent unpackMantissa
  unpackExponent_def unpackMantissa_def)

/-- In a pattern for "not a number" the exponent is all ones and the fraction is not zero. -/
theorem isNaNBits_iff {format : Float.Model.Format} (bits : BitVec format.numBits) :
    isNaNBits bits = true ↔
      bits.toNat / 2 ^ format.mantissaBitsWithoutImplicit % 2 ^ format.exponentBits =
          2 ^ format.exponentBits - 1 ∧
        bits.toNat % 2 ^ format.mantissaBitsWithoutImplicit ≠ 0 := by
  have ones : unpackExponent bits = -1#_ ↔
      bits.toNat / 2 ^ format.mantissaBitsWithoutImplicit % 2 ^ format.exponentBits =
        2 ^ format.exponentBits - 1 := by
    rw [← BitVec.toNat_inj, BitVec.neg_one_eq_allOnes, BitVec.toNat_allOnes, unpackExponent_def,
      BitVec.extractLsb'_toNat, Nat.shiftRight_eq_div_pow]
  have zeros : unpackMantissa bits = 0#_ ↔
      bits.toNat % 2 ^ format.mantissaBitsWithoutImplicit = 0 := by
    rw [← BitVec.toNat_inj, unpackMantissa_def, BitVec.extractLsb'_toNat]
    simp
  simp [isNaNBits, ones, zeros]

/-- The exact value of a single-precision number is that of the pattern it is made of. -/
theorem exactSingle_ofBits {bits : Nat} (fits : bits < 2 ^ 32)
    (number : bits % Format.single.signBit ≤ Format.single.infinityBits) :
    exactSingle (Float32.ofBits (.ofNat bits)) = Format.single.read bits := by
  have same : (UInt32.ofNat bits).toBitVec.toNat = bits := by
    simpa using Nat.mod_eq_of_lt fits
  have kept : (Float32.ofBits (.ofNat bits)).toBits = .ofNat bits := by
    apply UInt32.toBitVec_inj.mp
    refine (@pack_unpack .binary32 _ (by decide)).trans (if_neg ?_)
    rw [isNaNBits_iff, same]
    change bits % 2147483648 ≤ 2139095040 at number
    change ¬ (bits / 8388608 % 256 = 255 ∧ bits % 8388608 ≠ 0)
    omega
  rw [exactSingle, kept]
  exact congrArg _ same

/-- The exact value of a double-precision number is that of the pattern it is made of. -/
theorem exactDouble_ofBits {bits : Nat} (fits : bits < 2 ^ 64)
    (number : bits % Format.double.signBit ≤ Format.double.infinityBits) :
    exactDouble (Float.ofBits (.ofNat bits)) = Format.double.read bits := by
  have same : (UInt64.ofNat bits).toBitVec.toNat = bits := by
    simpa using Nat.mod_eq_of_lt fits
  have kept : (Float.ofBits (.ofNat bits)).toBits = .ofNat bits := by
    apply UInt64.toBitVec_inj.mp
    refine (@pack_unpack .binary64 _ (by decide)).trans (if_neg ?_)
    rw [isNaNBits_iff, same]
    change bits % 9223372036854775808 ≤ 9218868437227405312 at number
    change ¬ (bits / 4503599627370496 % 2048 = 2047 ∧ bits % 4503599627370496 ≠ 0)
    omega
  rw [exactDouble, kept]
  exact congrArg _ same

end Stagecraft.Number
