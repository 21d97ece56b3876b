import Gamebook.Proofs.Decimal.Magnitude
import Gamebook.Proofs.Json.RoundTrip

/-!
# Numbers that are read

Every number that is read fits its kind: integers are of machine size, and other numbers are
finite.  A significand has at most 64 bits, and scaling it by a power of ten either fails or stays
finite.
-/

namespace Gamebook.Json

open Decimal

/-- Whether a number fits its kind. -/
def Number.Fits : Number → Prop
  | natural value => value ≤ maxWord
  | negative value => value < UInt64.size / 2
  | float value => value.isFinite = true

/-- A number that fits is finite as a floating-point number. -/
theorem Number.Fits.isFinite {number : Number} (fits : number.Fits) :
    number.toFloat.isFinite = true := by
  cases number with
  | natural value => exact (below_toFloat _).isFinite
  | negative value => exact isFinite_neg (below_toFloat _).isFinite
  | float value => exact fits

/-! ## The value of a numeral -/

theorem extendSignificand_le {digits : List Char} {significand : Nat}
    (sized : significand ≤ maxWord) : (extendSignificand significand digits).1 ≤ maxWord := by
  induction digits generalizing significand with
  | nil => exact sized
  | cons c digits induction =>
      rw [extendSignificand]
      split
      · exact sized
      · rename_i short
        exact induction (Nat.not_lt.mp short)

/-- A number of moderate magnitude stays finite when it is scaled. -/
theorem isFinite_scaleFloat {fuel : Nat} {value scaled : Float} {exponent place : Int}
    (scales : scaleFloat fuel value exponent = some scaled)
    (below : Below place value.toModel.unpack) (least : -1022 ≤ place)
    (moderate : place + fuel ≤ 972) : scaled.isFinite = true := by
  induction fuel generalizing value exponent place with
  | zero =>
      cases scales
      rfl
  | succ fuel induction =>
      rw [scaleFloat] at scales
      split at scales
      · rename_i tabled
        have whole := whole_power tabled
        split at scales
        · dsimp only at scales
          split at scales
          · cases scales
          · rename_i bounded
            cases scales
            exact isFinite_mul below.isFinite whole.isFinite (Bool.eq_false_iff.mpr bounded)
        · cases scales
          exact (below_div_float below whole least (by omega)).isFinite
      · split at scales
        · cases scales
          exact below.isFinite
        · split at scales
          · cases scales
          · have smaller := below_div_float below (whole_power (Nat.le_refl 308)) least (by omega)
            exact induction scales smaller (by omega) (by omega)

theorem fits_floatOfParts {negative : Bool} {significand : Nat} {exponent : Int} {number : Number}
    (reads : floatOfParts negative significand exponent = some number) : number.Fits := by
  obtain ⟨scaled, scales, rfl⟩ := Option.map_eq_some_iff.mp reads
  have finite := isFinite_scaleFloat scales (below_toFloat _) (by omega) (by omega)
  cases negative with
  | false => exact finite
  | true => exact isFinite_neg finite

/-- The number of a numeral with an exponent mark. -/
theorem fits_of_exponent {negative : Bool} {significand : Nat} {shift exponent : Int}
    {number : Number}
    (spells : (if maxExponent < exponent.natAbs then
        if significand ≠ 0 ∧ 0 < exponent then none
        else some (Number.float (if negative then -0.0 else 0.0))
      else floatOfParts negative significand (shift + exponent)) = some number) :
    number.Fits := by
  split at spells
  · split at spells
    · cases spells
    · cases spells
      cases negative <;> rfl
  · exact fits_floatOfParts spells

/-- The number that a numeral spells fits its kind. -/
theorem fits_value {numeral : Numeral} {number : Number} (spells : numeral.value = some number) :
    number.Fits := by
  obtain ⟨negative, whole, fraction, exponent⟩ := numeral
  rcases fraction with _ | digits <;> rcases exponent with _ | exponent <;>
    simp only [Numeral.value] at spells
  · split at spells
    · split at spells
      · cases spells
        exact extendSignificand_le (Nat.zero_le _)
      · split at spells
        · rename_i sized
          cases spells
          change (extendSignificand 0 whole).1 - 1 < UInt64.size / 2
          omega
        · cases spells
          exact isFinite_neg (below_toFloat _).isFinite
    · exact fits_floatOfParts spells
  · exact fits_of_exponent spells
  · exact fits_floatOfParts spells
  · exact fits_of_exponent spells

/-! ## The numbers of a value -/

mutual

/-- The numbers in the value of a form fit their kinds. -/
theorem fits_value? (view : View) (limit : Nat) : (form : Form) → {json : Json} →
    form.value? view limit = some json → ∀ number ∈ json.numbers, number.Fits
  | .null, _, evaluates
  | .bool _, _, evaluates => by
      cases evaluates
      rintro number ⟨⟩
  | .number numeral, _, evaluates => by
      obtain ⟨value, spells, rfl⟩ := Option.map_eq_some_iff.mp evaluates
      rw [numbers, List.forall_mem_singleton]
      exact fits_value spells
  | .string parts, _, evaluates => by
      obtain ⟨value, -, rfl⟩ := Option.map_eq_some_iff.mp evaluates
      rintro number ⟨⟩
  | .array items, _, evaluates => by
      rw [Form.value?] at evaluates
      split at evaluates
      · cases evaluates
      · obtain ⟨values, evaluates_items, rfl⟩ := Option.map_eq_some_iff.mp evaluates
        rw [numbers]
        exact fits_itemValues? view 0 (limit - 1) items evaluates_items
  | .object members, _, evaluates => by
      rw [Form.value?] at evaluates
      split at evaluates
      · cases evaluates
      · obtain ⟨values, evaluates_members, rfl⟩ := Option.map_eq_some_iff.mp evaluates
        rw [numbers]
        exact fits_memberValues? view (limit - 1) members evaluates_members

theorem fits_itemValues? (view : View) (index limit : Nat) : (items : List Form) →
    {values : List Json} → itemValues? view index limit items = some values →
      ∀ number ∈ itemNumbers values, number.Fits
  | [], _, evaluates => by
      cases evaluates
      rintro number ⟨⟩
  | item :: rest, _, evaluates => by
      obtain ⟨value, evaluates_item, evaluates⟩ := Option.bind_eq_some_iff.mp evaluates
      obtain ⟨values, evaluates_rest, same⟩ := Option.bind_eq_some_iff.mp evaluates
      cases same
      rw [itemNumbers, List.forall_mem_append]
      exact ⟨fits_value? (view.item index) limit item evaluates_item,
        fits_itemValues? view (index + 1) limit rest evaluates_rest⟩

theorem fits_memberValues? (view : View) (limit : Nat) :
    (members : List (List StringPart × Form)) → {values : List (String × Json)} →
      memberValues? view limit members = some values →
        ∀ number ∈ memberNumbers values, number.Fits
  | [], _, evaluates => by
      cases evaluates
      rintro number ⟨⟩
  | (parts, form) :: rest, _, evaluates => by
      obtain ⟨key, -, evaluates⟩ := Option.bind_eq_some_iff.mp evaluates
      split at evaluates
      · exact fits_memberValues? view limit rest evaluates
      · rename_i inner seen
        obtain ⟨value, evaluates_value, evaluates⟩ := Option.bind_eq_some_iff.mp evaluates
        obtain ⟨values, evaluates_rest, same⟩ := Option.bind_eq_some_iff.mp evaluates
        cases same
        rw [memberNumbers, List.forall_mem_append]
        exact ⟨fits_value? inner limit form evaluates_value,
          fits_memberValues? view limit rest evaluates_rest⟩

end

/-- The numbers of a text that is read fit their kinds. -/
theorem fits_of_readView {view : View} {text : String} {json : Json}
    (reads : readView view text = some json) : ∀ number ∈ json.numbers, number.Fits := by
  obtain ⟨form, -, evaluates⟩ := Option.bind_eq_some_iff.mp reads
  exact fits_value? view maxDepth form evaluates

end Gamebook.Json
