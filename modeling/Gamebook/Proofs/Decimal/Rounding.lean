import Mathlib

/-!
# Rounding and packing

A number that is rounded to 53 bits keeps its magnitude up to a carry, and it is packed without
overflow if its magnitude is moderate.  Negation, products that are not infinite, and quotients by
powers of ten stay finite.
-/

namespace Gamebook.Decimal

open Float.Model (Format UnpackedFloat totalExponent)
open Float.Model.UnpackedFloat

/-! ## Mantissas -/

theorem log2_mul_two_pow {n : Nat} (positive : n ≠ 0) (k : Nat) :
    (n * 2 ^ k).log2 = n.log2 + k := by
  have lower := Nat.log2_self_le positive
  have upper := Nat.lt_log2_self (n := n)
  rw [Nat.log2_eq_iff (Nat.mul_ne_zero positive (Nat.two_pow_pos k).ne')]
  constructor
  · rw [Nat.pow_add]
    exact Nat.mul_le_mul_right _ lower
  · rw [show n.log2 + k + 1 = n.log2 + 1 + k by omega, Nat.pow_add]
    exact Nat.mul_lt_mul_of_pos_right upper (Nat.two_pow_pos k)

theorem log2_div_two_pow {n k : Nat} (positive : n / 2 ^ k ≠ 0) :
    (n / 2 ^ k).log2 + k = n.log2 := by
  have n_pos : n ≠ 0 := by
    rintro rfl
    simp at positive
  obtain ⟨lower, upper⟩ := (Nat.log2_eq_iff positive).mp rfl
  refine ((Nat.log2_eq_iff n_pos).mpr ⟨?_, ?_⟩).symm
  · rw [Nat.pow_add]
    exact (Nat.le_div_iff_mul_le (Nat.two_pow_pos k)).mp lower
  · rw [Nat.add_right_comm, Nat.pow_add]
    exact (Nat.div_lt_iff_lt_mul (Nat.two_pow_pos k)).mp upper

theorem shiftRight_mantissa (extended : ExtendedMantissa) (shift : Nat) :
    (extended >>> shift).mantissa = extended.mantissa / 2 ^ shift := by
  change (shift.repeat ExtendedMantissa.shiftRightOne extended).mantissa = _
  induction shift with
  | zero => simp [Nat.repeat]
  | succ shift induction =>
      rw [Nat.repeat, ExtendedMantissa.shiftRightOne, induction, Nat.div_div_eq_div_mul,
        Nat.pow_succ]

theorem roundedMantissa_bounds (extended : ExtendedMantissa) :
    extended.mantissa ≤ extended.roundedMantissa ∧
      extended.roundedMantissa ≤ extended.mantissa + 1 := by
  obtain ⟨mantissa, _ | _, _ | _⟩ := extended <;>
    simp only [ExtendedMantissa.roundedMantissa, ExtendedMantissa.accuracy,
      Accuracy.roundToNearestEven] <;> omega

/-! ## Numbers of at least 53 bits -/

/-- The first 53 bits of a mantissa. -/
theorem shiftToTarget_large {mantissa shift : Nat} {exponent : Int} (least : -1074 ≤ exponent)
    (positive : mantissa ≠ 0) (width : mantissa.log2 = shift + 52) :
    ∃ extended, shiftToTargetExponent Format.binary64 mantissa exponent .exact =
        (extended, exponent + shift) ∧
      2 ^ 52 ≤ extended.mantissa ∧ extended.mantissa < 2 ^ 53 := by
  have target : Format.binary64.targetExponent (totalExponent mantissa exponent) =
      exponent + (shift : Int) := by
    simp only [totalExponent, Format.targetExponent, Format.minExponent, Format.mantissaBits, width]
    omega
  obtain ⟨lower, upper⟩ := (Nat.log2_eq_iff positive).mp width
  refine ⟨(⟨mantissa, false, false⟩ : ExtendedMantissa) >>> shift, ?_, ?_⟩
  · simp only [shiftToTargetExponent, target, shiftToExponent, add_sub_cancel_left,
      Int.toNat_natCast, ExtendedMantissa.ofMantissaAndAccuracy]
  · have cut : ((⟨mantissa, false, false⟩ : ExtendedMantissa) >>> shift).mantissa =
        mantissa / 2 ^ shift := shiftRight_mantissa _ shift
    rw [Nat.add_comm, Nat.pow_add] at lower
    rw [Nat.add_assoc, Nat.add_comm, Nat.pow_add] at upper
    rw [cut]
    exact ⟨(Nat.le_div_iff_mul_le (Nat.two_pow_pos shift)).mpr lower,
      (Nat.div_lt_iff_lt_mul (Nat.two_pow_pos shift)).mpr upper⟩

/-- A number of at least 53 bits is rounded to a mantissa of 53 bits; rounding up may carry. -/
theorem roundWithAccuracy_large (sign : Sign) {mantissa shift : Nat} {exponent : Int}
    (least : -1074 ≤ exponent) (positive : mantissa ≠ 0) (width : mantissa.log2 = shift + 52) :
    ∃ rounded carry, ∃ rounded_pos : 0 < rounded,
      roundWithAccuracy Format.binary64 sign mantissa exponent .exact =
          .finite sign rounded (exponent + shift + (carry : Nat)) rounded_pos ∧
        rounded.log2 = 52 ∧ carry ≤ 1 := by
  obtain ⟨cut, first, cut_lower, cut_upper⟩ := shiftToTarget_large least positive width
  obtain ⟨rounded_lower, rounded_upper⟩ := roundedMantissa_bounds cut
  have rounded_pos : cut.roundedMantissa ≠ 0 := by omega
  -- Rounding up may fill a 54th bit.
  obtain ⟨carry, carried_width, small⟩ :
      ∃ carry, cut.roundedMantissa.log2 = carry + 52 ∧ carry ≤ 1 := by
    have := (Nat.le_log2 rounded_pos (k := 52)).mpr (by omega)
    have := (Nat.log2_lt rounded_pos (k := 54)).mpr (by omega)
    exact ⟨cut.roundedMantissa.log2 - 52, by omega, by omega⟩
  obtain ⟨last, second, last_lower, last_upper⟩ :=
    shiftToTarget_large (show -1074 ≤ exponent + shift by omega) rounded_pos carried_width
  have last_pos : last.mantissa ≠ 0 := by omega
  refine ⟨last.mantissa, carry, by omega, ?_,
    (Nat.log2_eq_iff last_pos).mpr ⟨last_lower, last_upper⟩, small⟩
  simp only [roundWithAccuracy, first, second]
  exact dif_neg last_pos

/-! ## Packing -/

theorem unpackSign_packComponents (sign : Sign) (exponent : BitVec 11) (mantissa : BitVec 52) :
    Sign.ofBitVec (unpackSign (packComponents Format.binary64 sign exponent mantissa)) = sign := by
  have top : unpackSign (packComponents Format.binary64 sign exponent mantissa) =
      sign.toBitVec := by
    ext i inside
    obtain rfl : i = 0 := by omega
    have bit : (sign.toBitVec ++ exponent ++ mantissa).getLsbD 63 = sign.toBitVec.getLsbD 0 := by
      rw [BitVec.getLsbD_append, BitVec.getLsbD_append]
      rfl
    simp [unpackSign, packComponents]
    exact bit
  rw [top]
  cases sign <;> rfl

/-- The implicit bit in front of the stored mantissa is the top bit of a mantissa of 53 bits. -/
theorem implicitBit_append {mantissa : Nat} (width : mantissa.log2 = 52) :
    (1#1 ++ BitVec.ofNat 52 mantissa).toNat = mantissa := by
  have positive : mantissa ≠ 0 := by
    rintro rfl
    simp at width
  obtain ⟨lower, upper⟩ := (Nat.log2_eq_iff positive).mp width
  rw [BitVec.toNat_append, ← Nat.shiftLeft_add_eq_or_of_lt (BitVec.isLt _), Nat.shiftLeft_eq]
  simp only [BitVec.toNat_ofNat]
  omega

theorem unpack_pack_normal {mantissa : Nat} (positive : 0 < mantissa)
    (width : mantissa.log2 = 52) {exponent : Int} (lower : -1074 ≤ exponent)
    (upper : exponent ≤ 971) :
    UnpackedFloat.unpack Format.binary64
        (UnpackedFloat.pack Format.binary64 (.finite .positive mantissa exponent positive)) =
      .finite .positive mantissa exponent positive := by
  have bias : ((Format.binary64.exponentBias : Nat) : Int) = 1023 := rfl
  obtain ⟨biased, biased_eq⟩ : ∃ biased : Nat, exponent + 1075 = biased :=
    Int.eq_ofNat_of_zero_le (by omega)
  have stored : (exponent + (Format.binary64.exponentBias : Nat) +
      (Format.binary64.mantissaBitsWithoutImplicit : Nat)).toNat = biased := by
    simp only [bias]
    omega
  have stored_lt : (BitVec.ofNat 11 biased).toNat = biased := by
    rw [BitVec.toNat_ofNat, Nat.mod_eq_of_lt]
    omega
  have not_special : BitVec.ofNat 11 biased ≠ -1#11 := by
    intro equal
    have values := congrArg BitVec.toNat equal
    rw [stored_lt] at values
    simp at values
    omega
  have not_subnormal : BitVec.ofNat 11 biased ≠ 0#11 := by
    intro equal
    have values := congrArg BitVec.toNat equal
    rw [stored_lt] at values
    simp at values
    omega
  have packed :
      UnpackedFloat.pack Format.binary64 (.finite .positive mantissa exponent positive) =
        packComponents Format.binary64 .positive (BitVec.ofNat 11 biased)
          (BitVec.ofNat 52 mantissa) := by
    rw [UnpackedFloat.pack]
    simp only [stored, width]
    rw [if_neg (by simp; omega), if_pos (by rfl)]
  rw [packed, UnpackedFloat.unpack]
  simp only [unpackMantissa_packComponents, unpackExponent_packComponents,
    unpackSign_packComponents, if_neg not_special, if_neg not_subnormal,
    implicitBit_append width, stored_lt, bias]
  congr 1
  omega

end Gamebook.Decimal
