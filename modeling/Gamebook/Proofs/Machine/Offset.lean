import Gamebook.Machine.Whole
import Gamebook.Proofs.Decimal.Rounding
import Gamebook.Value

/-!
# Offsets as numbers

Programs compute with the offsets of their own instructions, and the numbers they compute with are
floating-point numbers.  A natural number below `2 ^ 53` is represented exactly: sums of such
numbers are exact as long as they stay below that bound, and the number an offset became is read
back as the same offset.
-/

namespace Gamebook.Machine

open Float.Model (Format UnpackedFloat totalExponent)
open Float.Model.UnpackedFloat
open Decimal

/-! ## Rounding of numbers that are exact -/

/-- Zeros that are shifted out of a mantissa leave no residue. -/
private theorem shiftRightOne_repeat (mantissa shift : Nat) :
    shift.repeat ExtendedMantissa.shiftRightOne ⟨mantissa * 2 ^ shift, false, false⟩ =
      ⟨mantissa, false, false⟩ := by
  induction shift generalizing mantissa with
  | zero => simp [Nat.repeat]
  | succ shift induction =>
      have halved := induction (mantissa * 2)
      rw [show mantissa * 2 * 2 ^ shift = mantissa * 2 ^ (shift + 1) by
        rw [Nat.pow_succ, Nat.mul_assoc, Nat.mul_comm 2]] at halved
      rw [Nat.repeat, halved]
      simp [ExtendedMantissa.shiftRightOne]

private theorem shiftToExponent_exact (mantissa shift : Nat) (exponent : Int) :
    shiftToExponent (mantissa * 2 ^ shift) (exponent - shift) .exact exponent =
      (⟨mantissa, false, false⟩, exponent) := by
  have amount : (exponent - (exponent - shift)).toNat = shift := by omega
  simp only [shiftToExponent, ExtendedMantissa.ofMantissaAndAccuracy, amount]
  refine Prod.ext ?_ (by simp)
  exact shiftRightOne_repeat mantissa shift

/-- A mantissa of 53 bits, followed by zeros that do not count, is rounded to itself. -/
private theorem roundWithAccuracy_exact (sign : Sign) {mantissa : Nat} (positive : 0 < mantissa)
    (width : mantissa.log2 = 52) (shift : Nat) {exponent : Int} (bounded : -1074 ≤ exponent) :
    roundWithAccuracy Format.binary64 sign (mantissa * 2 ^ shift) (exponent - shift) .exact =
      .finite sign mantissa exponent positive := by
  have target (zeros : Nat) :
      Format.binary64.targetExponent
        (totalExponent (mantissa * 2 ^ zeros) (exponent - zeros)) = exponent := by
    simp only [totalExponent, log2_mul_two_pow positive.ne', width, Format.targetExponent,
      Format.minExponent, Format.mantissaBits]
    omega
  have first :
      shiftToTargetExponent Format.binary64 (mantissa * 2 ^ shift) (exponent - shift) .exact =
        (⟨mantissa, false, false⟩, exponent) := by
    rw [shiftToTargetExponent, target shift]
    exact shiftToExponent_exact mantissa shift exponent
  have second :
      shiftToTargetExponent Format.binary64 mantissa exponent .exact =
        (⟨mantissa, false, false⟩, exponent) := by
    have unshifted := shiftToExponent_exact mantissa 0 exponent
    have aimed := target 0
    simp only [Nat.pow_zero, Nat.mul_one, Int.natCast_zero, Int.sub_zero] at unshifted aimed
    rw [shiftToTargetExponent, aimed]
    exact unshifted
  simp only [roundWithAccuracy, first, ExtendedMantissa.roundedMantissa,
    ExtendedMantissa.accuracy, Accuracy.roundToNearestEven, second]
  exact dif_neg positive.ne'

/-! ## The form of a natural number -/

/-- The mantissa of 53 bits with which a positive number below `2 ^ 53` is represented. -/
private def mantissaOf (n : Nat) : Nat := n * 2 ^ (52 - n.log2)

private theorem mantissaOf_pos {n : Nat} (positive : 0 < n) : 0 < mantissaOf n :=
  Nat.mul_pos positive (Nat.two_pow_pos _)

private theorem log2_le_of_exact {n : Nat} (exact : n < 2 ^ 53) : n.log2 ≤ 52 := by
  rcases Nat.eq_zero_or_pos n with rfl | positive
  · simp
  · exact Nat.lt_succ_iff.mp ((Nat.log2_lt positive.ne').mpr exact)

private theorem log2_mantissaOf {n : Nat} (positive : 0 < n) (exact : n < 2 ^ 53) :
    (mantissaOf n).log2 = 52 := by
  have := log2_le_of_exact exact
  rw [mantissaOf, log2_mul_two_pow positive.ne']
  omega

/-- The unpacked form of a natural number below `2 ^ 53`. -/
private def wholeForm (n : Nat) : UnpackedFloat :=
  if positive : 0 < n then
    .finite .positive (mantissaOf n) (n.log2 - 52) (mantissaOf_pos positive)
  else .zero .positive

/-- A positive number below `2 ^ 53` is rounded to its form, whatever power of two is taken out of
it. -/
private theorem round_scaled {n : Nat} (positive : 0 < n) (exact : n < 2 ^ 53) (scale : Nat) :
    UnpackedFloat.round Format.binary64 .positive (n * 2 ^ scale) (-scale) = wholeForm n := by
  have bounded := log2_le_of_exact exact
  have width := log2_mantissaOf positive exact
  have target :
      Format.binary64.targetExponent (totalExponent (n * 2 ^ scale) (-scale)) = n.log2 - 52 := by
    simp only [totalExponent, log2_mul_two_pow positive.ne', Format.targetExponent,
      Format.minExponent, Format.mantissaBits]
    omega
  rw [wholeForm, dif_pos positive]
  simp only [UnpackedFloat.round, target, decreaseExponent, Nat.shiftLeft_eq]
  by_cases short : scale ≤ 52 - n.log2
  · have amount : (-(scale : Int) - (n.log2 - 52)).toNat = 52 - n.log2 - scale := by omega
    have filled : n * 2 ^ scale * 2 ^ (52 - n.log2 - scale) = mantissaOf n * 2 ^ 0 := by
      rw [mantissaOf, Nat.mul_assoc, ← Nat.pow_add, Nat.add_sub_cancel' short, Nat.pow_zero,
        Nat.mul_one]
    rw [amount, filled,
      show (-(scale : Int) - (52 - n.log2 - scale : Nat)) = (n.log2 - 52 : Int) - (0 : Nat) by
        omega]
    exact roundWithAccuracy_exact .positive (mantissaOf_pos positive) width 0 (by omega)
  · have amount : (-(scale : Int) - (n.log2 - 52)).toNat = 0 := by omega
    have spare : n * 2 ^ scale = mantissaOf n * 2 ^ (scale - (52 - n.log2)) := by
      rw [mantissaOf, Nat.mul_assoc, ← Nat.pow_add]
      congr 2
      omega
    rw [amount, spare, Nat.pow_zero, Nat.mul_one,
      show (-(scale : Int) - (0 : Nat)) =
        (n.log2 - 52 : Int) - (scale - (52 - n.log2) : Nat) by omega]
    exact roundWithAccuracy_exact .positive (mantissaOf_pos positive) width _ (by omega)

private theorem normalize_scaled {n : Nat} (positive : 0 < n) (exact : n < 2 ^ 53)
    (scale : Nat) (zeroSign : Sign) :
    UnpackedFloat.normalize Format.binary64 ((n * 2 ^ scale : Nat) : Int) (-scale) zeroSign =
      wholeForm n := by
  have greater : compare ((n * 2 ^ scale : Nat) : Int) 0 = .gt := by
    rw [Int.compare_eq_gt]
    exact_mod_cast Nat.mul_pos positive (Nat.two_pow_pos scale)
  rw [UnpackedFloat.normalize, greater]
  exact round_scaled positive exact scale

private theorem ofNat_eq_wholeForm {n : Nat} (exact : n < 2 ^ 53) :
    UnpackedFloat.ofNat Format.binary64 n = wholeForm n := by
  rcases Nat.eq_zero_or_pos n with rfl | positive
  · rfl
  · simpa [UnpackedFloat.ofNat, UnpackedFloat.ofInt] using
      normalize_scaled positive exact 0 .positive

/-- The mantissas of two numbers over a common exponent add up to the mantissa of their sum. -/
private theorem add_wholeForm {m n : Nat} (exact : m + n < 2 ^ 53) :
    UnpackedFloat.add Format.binary64 (wholeForm m) (wholeForm n) = wholeForm (m + n) := by
  rcases Nat.eq_zero_or_pos m with rfl | m_pos
  · rcases Nat.eq_zero_or_pos n with rfl | n_pos
    · rfl
    · rw [Nat.zero_add]
      simp [wholeForm, n_pos, UnpackedFloat.add]
  · rcases Nat.eq_zero_or_pos n with rfl | n_pos
    · rw [Nat.add_zero]
      simp [wholeForm, m_pos, UnpackedFloat.add]
    · have m_bounded := log2_le_of_exact (n := m) (by omega)
      have n_bounded := log2_le_of_exact (n := n) (by omega)
      let scale := 52 - min m.log2 n.log2
      have common : min ((m.log2 : Int) - 52) (n.log2 - 52) = -(scale : Int) := by omega
      have scaled {k : Nat} (bounded : k.log2 ≤ 52) (least : min m.log2 n.log2 ≤ k.log2) :
          mantissaOf k * 2 ^ ((k.log2 : Int) - 52 - -(scale : Int)).toNat = k * 2 ^ scale := by
        rw [mantissaOf, Nat.mul_assoc, ← Nat.pow_add]
        congr 2
        omega
      simp only [wholeForm, m_pos, n_pos, dif_pos, UnpackedFloat.add, decreaseExponent, common,
        Nat.shiftLeft_eq, Sign.apply, scaled m_bounded (Nat.min_le_left _ _),
        scaled n_bounded (Nat.min_le_right _ _)]
      rw [← Int.natCast_add, ← Nat.add_mul]
      exact normalize_scaled (by omega) exact scale .positive

/-! ## The packed form of a natural number -/

private theorem unpack_toFloat_eq_ofNat {n : Nat} (bounded : n < 2 ^ 64) :
    n.toUInt64.toFloat.toModel.unpack =
      UnpackedFloat.unpack Format.binary64 (UnpackedFloat.pack Format.binary64
        (UnpackedFloat.ofNat Format.binary64 n)) := by
  have value : n.toUInt64.toNat = n := by
    rw [Nat.toUInt64, UInt64.toNat_ofNat']
    omega
  simp only [UInt64.toFloat, Float.Model.ofUInt64, UnpackedFloat.ofUInt64, value]
  rfl

private theorem unpack_toFloat {n : Nat} (exact : n < 2 ^ 53) :
    n.toUInt64.toFloat.toModel.unpack = wholeForm n := by
  rw [unpack_toFloat_eq_ofNat (by omega), ofNat_eq_wholeForm exact, wholeForm]
  split
  · rename_i positive
    have bounded := log2_le_of_exact exact
    exact unpack_pack_normal (mantissaOf_pos positive) (log2_mantissaOf positive exact)
      (by omega) (by omega)
  · rfl

/-! ## Offsets -/

/-- Sums of natural numbers are exact below `2 ^ 53`. -/
theorem toFloat_add {m n : Nat} (exact : m + n < 2 ^ 53) :
    m.toUInt64.toFloat + n.toUInt64.toFloat = (m + n).toUInt64.toFloat := by
  have sum : m.toUInt64.toFloat + n.toUInt64.toFloat =
      .ofModel (.pack (UnpackedFloat.add Format.binary64
        m.toUInt64.toFloat.toModel.unpack n.toUInt64.toFloat.toModel.unpack)) := rfl
  have value : (m + n).toUInt64.toNat = m + n := by
    rw [Nat.toUInt64, UInt64.toNat_ofNat']
    omega
  rw [sum, unpack_toFloat (n := m) (by omega), unpack_toFloat (n := n) (by omega),
    add_wholeForm exact, ← ofNat_eq_wholeForm exact]
  simp only [UInt64.toFloat, Float.Model.ofUInt64, UnpackedFloat.ofUInt64, value]

private theorem roundToInt_wholeForm {n : Nat} (exact : n < 2 ^ 53) (sign : Sign) :
    roundToInt sign (mantissaOf n) ((n.log2 : Int) - 52) = sign.apply n := by
  have bounded := log2_le_of_exact exact
  have exponent : (n.log2 : Int) - 52 = 0 - (52 - n.log2 : Nat) := by omega
  have aligned : decreaseExponent (mantissaOf n) ((n.log2 : Int) - 52) 0 =
      (mantissaOf n, 0 - ((52 - n.log2 : Nat) : Int)) := by
    simp [decreaseExponent, exponent]
  rw [roundToInt, aligned]
  simp only [mantissaOf, shiftToExponent_exact]

theorem toUInt64_toFloat {n : Nat} (exact : n < 2 ^ 53) :
    n.toUInt64.toFloat.toUInt64 = n.toUInt64 := by
  have value : n.toUInt64.toFloat.toUInt64 =
      UInt64.ofNatClamp ((wholeForm n).toInt 0 (UInt64.size - 1)).toNat := by
    rw [← unpack_toFloat exact]
    rfl
  have whole : (wholeForm n).toInt 0 (UInt64.size - 1) = n := by
    rw [wholeForm]
    split
    · exact roundToInt_wholeForm exact .positive
    · rename_i zero
      simp only [UnpackedFloat.toInt]
      omega
  rw [value, whole, Int.toNat_natCast, UInt64.ofNatClamp, dif_pos (by simp [UInt64.size]; omega)]
  apply UInt64.toNat.inj
  simp [Nat.toUInt64]
  omega

/-- The number that an offset became is read back as the offset. -/
theorem natural?_toFloat {n : Nat} (exact : n < 2 ^ 53) :
    natural? n.toUInt64.toFloat = some n := by
  have unpacked := unpack_toFloat exact
  have nonnegative : (0 : Float) ≤ n.toUInt64.toFloat := by
    refine decide_eq_true (p := UnpackedFloat.le (0 : Float).toModel.unpack
      n.toUInt64.toFloat.toModel.unpack = true) ?_
    rw [unpacked, wholeForm, show (0 : Float).toModel.unpack = .zero .positive from rfl]
    split <;> rfl
  have finite : n.toUInt64.toFloat.isFinite = true := by
    change n.toUInt64.toFloat.toModel.unpack.isFinite = true
    rw [unpacked, wholeForm]
    split <;> rfl
  have reflexive : (n.toUInt64.toFloat == n.toUInt64.toFloat) = true := by
    change UnpackedFloat.beq n.toUInt64.toFloat.toModel.unpack
      n.toUInt64.toFloat.toModel.unpack = true
    rw [unpacked, wholeForm]
    split
    · simp [UnpackedFloat.beq, UnpackedFloat.compare]
    · rfl
  rw [natural?, if_pos nonnegative, toUInt64_toFloat exact, if_pos (by simp [finite, reflexive])]
  simp [Nat.toUInt64]
  omega

/-! ## Numbers past 53 bits -/

/-- A natural number of more than 53 bits is rounded to a mantissa of 53 bits and a power of two. -/
private theorem ofNat_large {n : Nat} (large : 2 ^ 53 ≤ n) (bounded : n < 2 ^ 64) :
    ∃ mantissa exponent, ∃ positive : 0 < mantissa,
      UnpackedFloat.ofNat Format.binary64 n =
          .finite .positive mantissa (exponent : Nat) positive ∧
        mantissa.log2 = 52 ∧ 1 ≤ exponent ∧ exponent ≤ 12 := by
  have positive : n ≠ 0 := by omega
  have lower : 53 ≤ n.log2 := (Nat.le_log2 positive).mpr large
  have upper : n.log2 < 64 := (Nat.log2_lt positive).mpr bounded
  obtain ⟨shift, width⟩ : ∃ shift, n.log2 = shift + 52 := ⟨n.log2 - 52, by omega⟩
  obtain ⟨mantissa, carry, mantissa_pos, rounded, mantissa_width, small⟩ :=
    roundWithAccuracy_large .positive (show (-1074 : Int) ≤ 0 by omega) positive width
  refine ⟨mantissa, shift + carry, mantissa_pos, ?_, mantissa_width, by omega, by omega⟩
  have greater : compare (n : Int) 0 = .gt := by
    rw [Int.compare_eq_gt]
    omega
  have target : Format.binary64.targetExponent (totalExponent n 0) = shift := by
    simp only [totalExponent, Format.targetExponent, Format.minExponent, Format.mantissaBits, width]
    omega
  simp only [UnpackedFloat.ofNat, UnpackedFloat.ofInt, UnpackedFloat.normalize, greater,
    UnpackedFloat.round, Int.toNat_natCast, target, decreaseExponent, Int.zero_sub,
    Int.toNat_neg_natCast, Nat.shiftLeft_zero, Int.natCast_zero, Int.sub_zero, rounded]
  simp

/-- A number of more than 53 bits is read back as a number of more than 53 bits. -/
theorem le_of_natural?_toFloat {n m : Nat} (large : 2 ^ 53 ≤ n) (bounded : n < 2 ^ 64)
    (whole : natural? n.toUInt64.toFloat = some m) : 2 ^ 53 ≤ m := by
  obtain ⟨mantissa, exponent, positive, rounded, width, lower, upper⟩ := ofNat_large large bounded
  have unpacked : n.toUInt64.toFloat.toModel.unpack =
      .finite .positive mantissa exponent positive := by
    rw [unpack_toFloat_eq_ofNat bounded, rounded]
    exact unpack_pack_normal positive width (by omega) (by omega)
  have value : n.toUInt64.toFloat.toUInt64 =
      UInt64.ofNatClamp (mantissa * 2 ^ exponent) := by
    have read : n.toUInt64.toFloat.toUInt64 = UInt64.ofNatClamp
        (n.toUInt64.toFloat.toModel.unpack.toInt 0 (UInt64.size - 1)).toNat := rfl
    have scaled : decreaseExponent mantissa exponent 0 = (mantissa * 2 ^ exponent, 0) := by
      simp [decreaseExponent, Nat.shiftLeft_eq]
    have unshifted := shiftToExponent_exact (mantissa * 2 ^ exponent) 0 0
    simp only [Nat.pow_zero, Nat.mul_one, Int.natCast_zero, Int.sub_zero] at unshifted
    rw [read, unpacked, UnpackedFloat.toInt, roundToInt, scaled]
    simp only [unshifted, Sign.apply, Int.toNat_natCast]
  have wide : 2 ^ 53 ≤ mantissa * 2 ^ exponent := by
    have := Nat.mul_le_mul ((Nat.log2_eq_iff positive.ne').mp width).1
      (Nat.pow_le_pow_right (n := 2) (by omega) lower)
    omega
  have read : n.toUInt64.toFloat.toUInt64.toNat = m := by
    rw [natural?] at whole
    split at whole
    · split at whole
      · exact Option.some.inj whole
      · cases whole
    · cases whole
  rw [← read, value, UInt64.ofNatClamp]
  split
  · simpa using wide
  · decide

end Gamebook.Machine

namespace Gamebook.Value

open Machine

/-- Adding to an offset is exact while the sum is below `2 ^ 53`. -/
theorem ofOffset_add {m n : Nat} (exact : m + n < 2 ^ 53) :
    number (m.toUInt64.toFloat + n.toUInt64.toFloat) = ofOffset (m + n) := by
  rw [toFloat_add exact, ofOffset]

end Gamebook.Value
