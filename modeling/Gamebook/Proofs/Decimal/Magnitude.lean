import Gamebook.Proofs.Decimal.Rounding

/-!
# Magnitudes

The magnitude of a number is the place of its first binary digit.  Rounding raises it by one at
most, and a quotient by a number that is at least one is not larger than the dividend, so numbers
of moderate magnitude stay finite.  A product of finite numbers is finite unless it is infinite: it
is always a number.
-/

namespace Gamebook.Decimal

open Float.Model (Format UnpackedFloat totalExponent)
open Float.Model.UnpackedFloat

/-- An unpacked number is zero, or finite with its first digit at the given place or behind it. -/
inductive Below (place : Int) : UnpackedFloat → Prop
  | zero (sign : Sign) : Below place (.zero sign)
  | finite {sign : Sign} {mantissa : Nat} {exponent : Int} {positive : 0 < mantissa}
      (small : totalExponent mantissa exponent ≤ place) :
      Below place (.finite sign mantissa exponent positive)

/-- An unpacked number is finite with its first digit in front of the point. -/
inductive Whole : UnpackedFloat → Prop
  | finite {sign : Sign} {mantissa : Nat} {exponent : Int} {positive : 0 < mantissa}
      (large : 1 ≤ totalExponent mantissa exponent) :
      Whole (.finite sign mantissa exponent positive)

instance : DecidablePred Whole
  | .finite _ mantissa exponent _ =>
    if large : 1 ≤ totalExponent mantissa exponent then isTrue (.finite large)
    else isFalse fun | .finite larger => large larger
  | .infinity _ | .notANumber | .zero _ => isFalse (by rintro ⟨⟩)

theorem Below.mono {place further : Int} {value : UnpackedFloat} (below : Below place value)
    (le : place ≤ further) : Below further value := by
  cases below with
  | zero sign => exact .zero sign
  | finite small => exact .finite (Int.le_trans small le)

theorem Below.isFinite {place : Int} {value : UnpackedFloat} (below : Below place value) :
    value.isFinite = true := by
  cases below <;> rfl

theorem Whole.isFinite {value : UnpackedFloat} (whole : Whole value) : value.isFinite = true := by
  cases whole
  rfl

/-! ## Rounding -/

theorem totalExponent_div {mantissa shift : Nat} (exponent : Int)
    (some_digit : mantissa / 2 ^ shift ≠ 0) :
    totalExponent (mantissa / 2 ^ shift) (exponent + shift) = totalExponent mantissa exponent := by
  have := log2_div_two_pow some_digit
  simp only [totalExponent]
  omega

theorem ofMantissaAndAccuracy_mantissa (mantissa : Nat) (accuracy : Accuracy) :
    (ExtendedMantissa.ofMantissaAndAccuracy mantissa accuracy).mantissa = mantissa := by
  cases accuracy with
  | exact => rfl
  | inexact relative => cases relative <;> rfl

/-- A mantissa is cut to its target by dropping digits at its end. -/
theorem shiftToTargetExponent_cut (mantissa : Nat) (exponent : Int) (accuracy : Accuracy) :
    ∃ extended, ∃ shift : Nat,
      shiftToTargetExponent Format.binary64 mantissa exponent accuracy =
          (extended, exponent + shift) ∧
        extended.mantissa = mantissa / 2 ^ shift ∧
          exponent + shift ≤ max (totalExponent mantissa exponent - 1) (-1074) := by
  refine ⟨_, _, rfl, by rw [shiftRight_mantissa, ofMantissaAndAccuracy_mantissa], ?_⟩
  simp only [totalExponent, Format.targetExponent, Format.minExponent, Format.mantissaBits]
  omega

theorem log2_le_of_le_succ {n m : Nat} (le : n ≤ m + 1) (positive : m ≠ 0) :
    n.log2 ≤ m.log2 + 1 := by
  rw [← Nat.log2_two_mul positive]
  by_cases zero : n = 0
  · simp [zero]
  · exact (Nat.le_log2 (by omega)).mpr ((Nat.log2_self_le zero).trans (by omega))

/-- Rounding moves the first digit by one place at most. -/
theorem below_roundWithAccuracy {place exponent : Int} {mantissa : Nat} (sign : Sign)
    (accuracy : Accuracy) (small : totalExponent mantissa exponent ≤ place)
    (least : -1074 ≤ place) :
    Below (place + 1) (roundWithAccuracy Format.binary64 sign mantissa exponent accuracy) := by
  obtain ⟨cut, shift, first, cut_mantissa, higher_le⟩ :=
    shiftToTargetExponent_cut mantissa exponent accuracy
  have rounded_le := (roundedMantissa_bounds cut).2
  have rounded_small : totalExponent cut.roundedMantissa (exponent + shift) ≤ place + 1 := by
    rw [cut_mantissa] at rounded_le
    by_cases some_digit : mantissa / 2 ^ shift = 0
    · have width : cut.roundedMantissa.log2 = 0 := by
        have bit : cut.roundedMantissa ≤ 1 := by omega
        interval_cases cut.roundedMantissa <;> rfl
      simp only [totalExponent, width]
      omega
    · have width := log2_le_of_le_succ rounded_le some_digit
      rw [← totalExponent_div exponent some_digit] at small
      simp only [totalExponent] at small ⊢
      omega
  obtain ⟨last, carry, second, last_mantissa, -⟩ :=
    shiftToTargetExponent_cut cut.roundedMantissa (exponent + shift) .exact
  simp only [roundWithAccuracy, first, second]
  split
  · exact .zero sign
  · rename_i some_digit
    rw [last_mantissa] at some_digit
    refine .finite ?_
    rwa [last_mantissa, totalExponent_div _ some_digit]

theorem isFinite_roundWithAccuracy (sign : Sign) (mantissa : Nat) (exponent : Int)
    (accuracy : Accuracy) :
    (roundWithAccuracy Format.binary64 sign mantissa exponent accuracy).isFinite = true := by
  simp only [roundWithAccuracy]
  split <;> rfl

/-! ## Packing -/

/-- What is packed with an ordinary exponent is unpacked as a finite number. -/
theorem below_unpack_packComponents (sign : Sign) {field : BitVec 11} (mantissa : BitVec 52)
    (ordinary : field ≠ -1#11) :
    Below (field.toNat - 1022) (UnpackedFloat.unpack Format.binary64
      (packComponents Format.binary64 sign field mantissa)) := by
  have bias : ((Format.binary64.exponentBias : Nat) : Int) = 1023 := rfl
  rw [UnpackedFloat.unpack]
  simp only [unpackMantissa_packComponents, unpackExponent_packComponents, if_neg ordinary, bias]
  split
  · rename_i subnormal
    split
    · exact .zero _
    · rename_i some_digit
      have positive : mantissa.toNat ≠ 0 := by
        simpa [BitVec.toNat_eq] using some_digit
      have width := (Nat.log2_lt positive).mpr mantissa.isLt
      refine .finite ?_
      simp only [totalExponent, subnormal, BitVec.toNat_ofNat]
      omega
  · have positive : 0 < (1#1 ++ mantissa).toNat := by
      rw [BitVec.toNat_append, ← Nat.shiftLeft_add_eq_or_of_lt mantissa.isLt]
      simp
    have width := (Nat.log2_lt positive.ne').mpr (1#1 ++ mantissa).isLt
    refine .finite ?_
    simp only [totalExponent]
    omega

/-- A number whose exponent fits is packed and unpacked without becoming larger. -/
theorem below_unpack_pack_finite (sign : Sign) {mantissa : Nat} {exponent : Int}
    (positive : 0 < mantissa) (fits : exponent ≤ 971) :
    Below (max (totalExponent mantissa exponent) (-1022))
      (UnpackedFloat.unpack Format.binary64
        (UnpackedFloat.pack Format.binary64 (.finite sign mantissa exponent positive))) := by
  generalize biased_eq : (exponent + (Format.binary64.exponentBias : Nat) +
    (Format.binary64.mantissaBitsWithoutImplicit : Nat)).toNat = biased
  have bias : ((Format.binary64.exponentBias : Nat) : Int) = 1023 := rfl
  simp only [bias] at biased_eq
  have stored : (BitVec.ofNat 11 biased).toNat = biased := by
    rw [BitVec.toNat_ofNat, Nat.mod_eq_of_lt]
    omega
  have ordinary : BitVec.ofNat 11 biased ≠ -1#11 := by
    intro equal
    have values := congrArg BitVec.toNat equal
    rw [stored] at values
    simp at values
    omega
  rw [UnpackedFloat.pack]
  simp only [bias, biased_eq]
  rw [if_neg (by simp; omega)]
  split
  · rename_i normal
    refine (below_unpack_packComponents sign _ ordinary).mono ?_
    simp only [Format.mantissaBits] at normal
    simp only [stored, totalExponent]
    omega
  · exact (below_unpack_packComponents sign _ (by decide)).mono (by simp)

/-- A number of moderate magnitude is packed and unpacked without becoming larger. -/
theorem below_unpack_pack {place : Int} {value : UnpackedFloat} (below : Below place value)
    (least : -1022 ≤ place) (moderate : place ≤ 972) :
    Below place
      (UnpackedFloat.unpack Format.binary64 (UnpackedFloat.pack Format.binary64 value)) := by
  cases below with
  | @finite sign mantissa exponent positive small =>
      refine (below_unpack_pack_finite sign positive ?_).mono (by omega)
      simp only [totalExponent] at small
      omega
  | zero sign => cases sign <;> exact .zero _

/-- A finite number is packed as a finite number or as infinity. -/
theorem isFinite_or_isInf_unpack_pack {value : UnpackedFloat} (finite : value.isFinite = true) :
    let packed := UnpackedFloat.pack Format.binary64 value
    (UnpackedFloat.unpack Format.binary64 packed).isFinite = true ∨
      (UnpackedFloat.unpack Format.binary64 packed).isInf = true := by
  cases value with
  | finite sign mantissa exponent positive =>
      by_cases fits : exponent ≤ 971
      · exact Or.inl (below_unpack_pack_finite sign positive fits).isFinite
      · refine Or.inr ?_
        have bias : ((Format.binary64.exponentBias : Nat) : Int) = 1023 := rfl
        rw [UnpackedFloat.pack]
        simp only [bias]
        rw [if_pos (by simp; omega)]
        cases sign <;> rfl
  | zero sign => exact Or.inl (by cases sign <;> rfl)
  | infinity sign => cases finite
  | notANumber => cases finite

/-- The exponent of an unpacked number fits. -/
theorem exponent_le_of_unpack {bits : BitVec 64} {sign : Sign} {mantissa : Nat} {exponent : Int}
    {positive : 0 < mantissa}
    (unpacked : UnpackedFloat.unpack Format.binary64 bits =
      .finite sign mantissa exponent positive) : exponent ≤ 971 := by
  have bias : ((Format.binary64.exponentBias : Nat) : Int) = 1023 := rfl
  rw [UnpackedFloat.unpack] at unpacked
  simp only [bias] at unpacked
  have field_lt : (@unpackExponent Format.binary64 bits).toNat < 2048 :=
    (@unpackExponent Format.binary64 bits).isLt
  split at unpacked
  · split at unpacked <;> cases unpacked
  · rename_i ordinary
    have ordinary_field : (@unpackExponent Format.binary64 bits).toNat ≠ 2047 :=
      fun top => ordinary (BitVec.eq_of_toNat_eq (by simpa using top))
    split at unpacked
    · rename_i subnormal
      split at unpacked
      · cases unpacked
      · cases unpacked
        rw [subnormal]
        decide
    · cases unpacked
      omega

/-! ## Operations -/

theorem isFinite_neg {value : Float} (finite : value.isFinite = true) :
    (-value).isFinite = true := by
  have result : (-value).toModel.unpack = UnpackedFloat.unpack Format.binary64
      (UnpackedFloat.pack Format.binary64 value.toModel.unpack.neg) := rfl
  change (-value).toModel.unpack.isFinite = true
  change value.toModel.unpack.isFinite = true at finite
  rw [result]
  generalize unpacked : value.toModel.unpack = form at finite ⊢
  cases form with
  | finite sign mantissa exponent positive =>
      exact (below_unpack_pack_finite (-sign) positive (exponent_le_of_unpack unpacked)).isFinite
  | zero sign => cases sign <;> rfl
  | infinity sign => cases finite
  | notANumber => cases finite

theorem isFinite_mul_unpacked : {left right : UnpackedFloat} → left.isFinite = true →
    right.isFinite = true → (UnpackedFloat.mul Format.binary64 left right).isFinite = true
  | .finite .., .finite .., _, _ => isFinite_roundWithAccuracy _ _ _ _
  | .finite .., .zero _, _, _ | .zero _, .finite .., _, _ | .zero _, .zero _, _, _ => rfl

/-- A product of finite numbers is finite or infinite, but always a number. -/
theorem isFinite_mul {left right : Float} (left_finite : left.isFinite = true)
    (right_finite : right.isFinite = true) (bounded : (left * right).isInf = false) :
    (left * right).isFinite = true := by
  have product : (UnpackedFloat.mul Format.binary64 left.toModel.unpack
      right.toModel.unpack).isFinite = true := isFinite_mul_unpacked left_finite right_finite
  exact (isFinite_or_isInf_unpack_pack product).resolve_right (Bool.eq_false_iff.mp bounded)

/-- The digits of a quotient start where the exponents say, or one place in front of it. -/
theorem totalExponent_divCore {place exponent scale : Int} {mantissa divisor : Nat}
    (positive : 0 < divisor) (small : totalExponent mantissa exponent ≤ place)
    (large : 1 ≤ totalExponent divisor scale) (least : -1022 ≤ place) :
    totalExponent (divCore Format.binary64 mantissa exponent divisor scale).1
      (divCore Format.binary64 mantissa exponent divisor scale).2.1 ≤ place := by
  simp only [divCore]
  generalize target_eq : min (exponent - scale) (Format.binary64.targetExponent
    (totalExponent mantissa exponent - totalExponent divisor scale)) = target
  have target_le : target ≤ exponent - scale := by omega
  generalize shift_eq : (exponent - scale - target).toNat = shift
  rw [Nat.shiftLeft_eq]
  by_cases some_digit : mantissa * 2 ^ shift / divisor = 0
  · simp only [Format.targetExponent, Format.minExponent, Format.mantissaBits] at target_eq
    rw [some_digit]
    simp only [totalExponent, Nat.log2_zero] at small large target_eq ⊢
    omega
  · have mantissa_pos : mantissa ≠ 0 := by
      rintro rfl
      simp at some_digit
    have width : (mantissa * 2 ^ shift / divisor).log2 + divisor.log2 ≤ mantissa.log2 + shift := by
      rw [← log2_mul_two_pow mantissa_pos]
      refine (Nat.le_log2 (by positivity)).mpr ?_
      rw [Nat.pow_add]
      exact (Nat.mul_le_mul (Nat.log2_self_le some_digit) (Nat.log2_self_le positive.ne')).trans
        (Nat.div_mul_le_self _ _)
    simp only [totalExponent] at small large ⊢
    omega

/-- A number that is divided by a number of at least one does not become larger but for rounding. -/
theorem below_div {place : Int} {left right : UnpackedFloat} (below : Below place left)
    (whole : Whole right) (least : -1022 ≤ place) :
    Below (place + 1) (UnpackedFloat.div Format.binary64 left right) := by
  cases whole with
  | @finite _ divisor scale divisor_pos large =>
      cases below with
      | finite small =>
          exact below_roundWithAccuracy _ _ (totalExponent_divCore divisor_pos small large least)
            (by omega)
      | zero sign => exact .zero _

theorem below_div_float {place : Int} {value power : Float}
    (below : Below place value.toModel.unpack) (whole : Whole power.toModel.unpack)
    (least : -1022 ≤ place) (moderate : place ≤ 971) :
    Below (place + 1) (value / power).toModel.unpack := by
  have result : (value / power).toModel.unpack = UnpackedFloat.unpack Format.binary64
      (UnpackedFloat.pack Format.binary64
        (UnpackedFloat.div Format.binary64 value.toModel.unpack power.toModel.unpack)) := rfl
  rw [result]
  exact below_unpack_pack (below_div below whole least) (by omega) (by omega)

/-! ## Words and powers of ten -/

theorem below_ofNat {n : Nat} (bounded : n < 2 ^ 64) :
    Below 65 (UnpackedFloat.ofNat Format.binary64 n) := by
  rcases Nat.eq_zero_or_pos n with rfl | positive
  · exact .zero _
  · have greater : compare (n : Int) 0 = .gt := by
      rw [Int.compare_eq_gt]
      omega
    have width := (Nat.log2_lt positive.ne').mpr bounded
    simp only [UnpackedFloat.ofNat, UnpackedFloat.ofInt, UnpackedFloat.normalize, greater,
      UnpackedFloat.round, Int.toNat_natCast, decreaseExponent, Nat.shiftLeft_eq]
    rw [show (65 : Int) = 64 + 1 from rfl]
    refine below_roundWithAccuracy _ _ ?_ (by omega)
    simp only [totalExponent, log2_mul_two_pow positive.ne']
    omega

/-- Words have at most 64 digits, and one more after rounding. -/
theorem below_toFloat (word : UInt64) : Below 65 word.toFloat.toModel.unpack := by
  have result : word.toFloat.toModel.unpack = UnpackedFloat.unpack Format.binary64
      (UnpackedFloat.pack Format.binary64 (UnpackedFloat.ofNat Format.binary64 word.toNat)) := rfl
  rw [result]
  exact below_unpack_pack (below_ofNat word.toNat_lt) (by omega) (by omega)

theorem whole_ofScientific {power : Nat} (bounded : power < 308) :
    Whole (UnpackedFloat.unpack Format.binary64 (UnpackedFloat.pack Format.binary64
      (UnpackedFloat.ofScientific Format.binary64 1 power))) := by
  have ten_pos : 10 ^ power ≠ 0 := by positivity
  have width : (1 <<< Format.binary64.mantissaBits * 10 ^ power).log2 =
      (10 ^ power).log2 + 1 + 52 := by
    rw [Nat.shiftLeft_eq, Nat.one_mul, Nat.mul_comm, log2_mul_two_pow ten_pos]
    rfl
  have ten_width : (10 ^ power).log2 < 1023 := by
    refine (Nat.log2_lt ten_pos).mpr ?_
    calc 10 ^ power ≤ 10 ^ 307 := Nat.pow_le_pow_right (by decide) (by omega)
      _ < 2 ^ 1023 := by decide +kernel
  obtain ⟨mantissa, carry, positive, rounded, mantissa_width, small⟩ :=
    roundWithAccuracy_large .positive (show (-1074 : Int) ≤ -53 by omega)
      (Nat.mul_ne_zero (by decide) ten_pos) width
  have scaled : UnpackedFloat.ofScientific Format.binary64 1 power =
      .finite .positive mantissa (-53 + ((10 ^ power).log2 + 1 : Nat) + carry) positive := by
    rw [← rounded, UnpackedFloat.ofScientific]
    rw [dif_neg (by decide), if_neg (by simp; omega), if_neg (by simp; omega), if_pos (by omega)]
    rfl
  rw [scaled, unpack_pack_normal positive mantissa_width (by omega) (by omega)]
  refine .finite ?_
  simp only [totalExponent, mantissa_width]
  omega

/-- The powers of ten that scale a number are finite and at least one. -/
theorem whole_power {power : Nat} (bounded : power ≤ 308) :
    Whole (Float.ofScientific 1 false power).toModel.unpack := by
  by_cases tabled : power ≤ 22
  · revert power
    decide +kernel
  · rcases Nat.lt_or_eq_of_le bounded with lt | rfl
    · have slow : Float.ofScientific 1 false power =
          .ofModel (.ofScientific 1 (power : Int)) := by
        rw [Float.ofScientific, dif_neg (by omega)]
        rfl
      rw [slow]
      exact whole_ofScientific lt
    · decide +kernel

end Gamebook.Decimal
