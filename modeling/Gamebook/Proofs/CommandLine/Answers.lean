import Gamebook.CommandLine.Prompt
import Gamebook.Proofs.Code.Printing
import Mathlib

/-!
# What a line of input selects

A line that is typed to answer a question may give the number of an option, counted from one and
written in any way in which numbers can be, or its title.  A line that reads as a number is never
taken for a title, even if no option has that number.
-/

namespace Gamebook

/-! ## Numbers -/

namespace Text

/-- Characters read as a number of at most 64 bits: they are its decimal digits, perhaps with zeros
in front of them, and perhaps with a plus sign in front of these. -/
def Reads (characters : List Char) (number : Nat) : Prop :=
  number < UInt64.size ∧ ∃ sign zeros, (sign = [] ∨ sign = ['+']) ∧
    characters = sign ++ (List.replicate zeros '0' ++ Nat.toDigits 10 number)

variable {digits sign : List Char} {text : String} {number : Nat}

theorem digitsValue_append_singleton (digits : List Char) (c : Char) :
    digitsValue (digits ++ [c]) = digitsValue digits * 10 + digitValue c := by
  rw [digitsValue, List.foldl_append]
  rfl

theorem digitsValue_zeros_append (zeros : Nat) (digits : List Char) :
    digitsValue (List.replicate zeros '0' ++ digits) = digitsValue digits := by
  induction zeros with
  | zero => rfl
  | succ zeros induction => exact induction

theorem toDigits_digitValue {c : Char} (digit : c.isDigit = true) :
    digitValue c < 10 ∧ Nat.toDigits 10 (digitValue c) = [c] := by
  have bounds : 48 ≤ c.toNat ∧ c.toNat ≤ 57 := Char.isDigit_iff_toNat.mp digit
  have zero : '0'.toNat = 48 := rfl
  have small : digitValue c < 10 := by rw [digitValue]; omega
  refine ⟨small, ?_⟩
  rw [Nat.toDigits_of_lt_base small, List.singleton_inj, ← Char.toNat_inj,
    Nat.toNat_digitChar_of_lt_ten small, digitValue]
  omega

/-- Digits are those of the number that they spell, with zeros in front of them. -/
theorem exists_zeros_toDigits (nonempty : digits ≠ []) (all : ∀ c ∈ digits, c.isDigit = true) :
    ∃ zeros, digits = List.replicate zeros '0' ++ Nat.toDigits 10 (digitsValue digits) := by
  induction digits using List.reverseRecOn with
  | nil => exact absurd rfl nonempty
  | append_singleton front c induction =>
      obtain ⟨all_front, last⟩ := List.forall_mem_append.mp all
      obtain ⟨small, spelled⟩ := toDigits_digitValue (last c (List.mem_singleton_self c))
      rw [digitsValue_append_singleton, Nat.mul_comm]
      by_cases alone : front = []
      · subst alone
        exact ⟨0, by simpa [digitsValue] using spelled.symm⟩
      · obtain ⟨zeros, split⟩ := induction alone all_front
        rcases Nat.eq_zero_or_pos (digitsValue front) with none | some
        · refine ⟨zeros + 1, ?_⟩
          rw [none, Nat.mul_zero, Nat.zero_add, spelled, split, none, List.replicate_succ']
          rfl
        · refine ⟨zeros, ?_⟩
          rw [← Nat.toDigits_append_toDigits (by decide) some small, spelled, ← List.append_assoc,
            ← split]

/-- A plus sign in front is no digit, and digits without it do not start with one. -/
theorem readWord?_signed (whole : text.toList = sign ++ digits)
    (signed : sign = ['+'] ∨ sign = [] ∧ digits.head? ≠ some '+') :
    readWord? text = some number ↔
      (digits ≠ [] ∧ ∀ c ∈ digits, c.isDigit = true) ∧
        digitsValue digits < UInt64.size ∧ digitsValue digits = number := by
  have bare : readWord? text =
      if !digits.isEmpty && digits.all Char.isDigit && digitsValue digits < UInt64.size then
        some (digitsValue digits)
      else none := by
    rw [readWord?, whole]
    rcases signed with rfl | ⟨rfl, first⟩
    · rfl
    · rw [List.nil_append]
      split
      · simp at first
      · rfl
  rw [bare]
  simp [and_assoc]

theorem exists_sign (characters : List Char) :
    ∃ sign digits, characters = sign ++ digits ∧
      (sign = ['+'] ∨ sign = [] ∧ digits.head? ≠ some '+') := by
  by_cases plus : characters.head? = some '+'
  · obtain ⟨rest, rfl⟩ := List.head?_eq_some_iff.mp plus
    exact ⟨['+'], rest, rfl, Or.inl rfl⟩
  · exact ⟨[], characters, rfl, Or.inr ⟨rfl, plus⟩⟩

theorem readWord?_eq_some_iff : readWord? text = some number ↔ Reads text.toList number := by
  constructor
  · intro read
    obtain ⟨sign, digits, whole, signed⟩ := exists_sign text.toList
    obtain ⟨⟨nonempty, all⟩, small, rfl⟩ := (readWord?_signed whole signed).mp read
    obtain ⟨zeros, split⟩ := exists_zeros_toDigits nonempty all
    exact ⟨small, sign, zeros, signed.symm.imp And.left id, by rw [whole, ← split]⟩
  · rintro ⟨small, sign, zeros, signed, whole⟩
    have all : ∀ c ∈ List.replicate zeros '0' ++ Nat.toDigits 10 number, c.isDigit = true := by
      refine List.forall_mem_append.mpr ⟨fun c member => ?_, fun c member => ?_⟩
      · rw [List.eq_of_mem_replicate member]
        rfl
      · exact Nat.isDigit_of_mem_toDigits (by decide) (by decide) member
    have value : digitsValue (List.replicate zeros '0' ++ Nat.toDigits 10 number) = number := by
      rw [digitsValue_zeros_append, Code.digitsValue_toDigits]
    refine (readWord?_signed whole (signed.symm.imp_right fun none => ⟨none, fun plus => ?_⟩)).mpr
      ⟨⟨?_, all⟩, by rwa [value], value⟩
    · exact absurd (all '+' (List.mem_of_head? plus)) (by decide)
    · simp [Nat.toDigits_ne_nil]

theorem readWord?_eq_none_iff :
    readWord? text = none ↔ ∀ number, ¬Reads text.toList number := by
  rw [Option.eq_none_iff_forall_ne_some]
  exact forall_congr' fun number => not_congr readWord?_eq_some_iff

end Text

namespace CommandLine

open Text (Reads readWord?_eq_some_iff readWord?_eq_none_iff)

/-! ## Titles -/

/-- Two characters are equal up to the case of ASCII letters. -/
def SameLetter (c d : Char) : Prop :=
  c = d ∨ (c.isUpper = true ∧ d.toNat = c.toNat + 32) ∨ d.isUpper = true ∧ c.toNat = d.toNat + 32

theorem isUpper_iff {c : Char} : c.isUpper = true ↔ 65 ≤ c.toNat ∧ c.toNat ≤ 90 := by
  simp [Char.isUpper, UInt32.le_iff_toNat_le, ← Char.toNat_val]

theorem toNat_toLower (c : Char) :
    c.toLower.toNat = if c.isUpper = true then c.toNat + 32 else c.toNat := by
  split
  · rename_i upper
    have bounds := isUpper_iff.mp upper
    have valid : (c.toNat + 32).isValidChar := Or.inl (by omega)
    rw [Char.toLower_eq_of_isUpper upper, Char.toNat_ofNat, if_pos valid]
  · rename_i other
    rw [Char.toLower_eq_of_not_isUpper other]

theorem toLower_eq_toLower_iff {c d : Char} : c.toLower = d.toLower ↔ SameLetter c d := by
  rw [SameLetter, ← Char.toNat_inj, ← Char.toNat_inj, toNat_toLower, toNat_toLower]
  simp only [isUpper_iff]
  split <;> split <;> omega

theorem sameLetters_iff {left right : String} :
    sameLetters left right = true ↔ List.Forall₂ SameLetter left.toList right.toList := by
  rw [sameLetters, decide_eq_true_iff, ← List.forall₂_eq_eq_eq, List.forall₂_map_left_iff,
    List.forall₂_map_right_iff]
  simp only [toLower_eq_toLower_iff]

/-! ## Selections -/

/-- A line selects an option, if blank characters at its ends do not count. -/
inductive Selects (choices : List OfferedChoice) (line : String) : Nat → Prop
  /-- It reads as the number of the option's place, from one. -/
  | number {place : Nat} {choice : OfferedChoice}
      (reads : Reads (Text.trim line).toList (place + 1)) (there : choices[place]? = some choice) :
      Selects choices line choice.id
  /-- It is not empty, reads as no number, and is the title of the first such option. -/
  | title {before after : List OfferedChoice} {choice : OfferedChoice}
      (typed : Text.trim line ≠ "") (unread : ∀ number, ¬Reads (Text.trim line).toList number)
      (whole : choices = before ++ choice :: after)
      (same : List.Forall₂ SameLetter choice.title.toList (Text.trim line).toList)
      (first : ∀ other ∈ before,
        ¬List.Forall₂ SameLetter other.title.toList (Text.trim line).toList) :
      Selects choices line choice.id

variable {choices : List OfferedChoice} {line : String} {id : Nat}

theorem selection?_eq_some_iff : selection? choices line = some id ↔ Selects choices line id := by
  delta selection?
  dsimp only
  constructor
  · intro selected
    split at selected
    · cases selected
    · rename_i place read
      obtain ⟨choice, there, rfl⟩ := Option.map_eq_some_iff.mp selected
      exact .number (readWord?_eq_some_iff.mp read) there
    · rename_i unread
      split at selected
      · cases selected
      · rename_i typed
        obtain ⟨choice, found, rfl⟩ := Option.map_eq_some_iff.mp selected
        obtain ⟨same, before, after, whole, first⟩ := List.find?_eq_some_iff_append.mp found
        refine .title (by simpa using typed) (readWord?_eq_none_iff.mp unread) whole
          (sameLetters_iff.mp same) fun other member like => ?_
        simpa [sameLetters_iff.mpr like] using first other member
  · intro selects
    cases selects with
    | number reads there => simp [readWord?_eq_some_iff.mpr reads, there]
    | @title before after choice typed unread whole same first =>
        have found : choices.find? (fun choice => sameLetters choice.title (Text.trim line)) =
            some choice := by
          refine List.find?_eq_some_iff_append.mpr
            ⟨sameLetters_iff.mpr same, before, after, whole, fun other member => ?_⟩
          simpa using mt sameLetters_iff.mp (first other member)
        rw [readWord?_eq_none_iff.mpr unread]
        simp [typed, found]

theorem selection?_eq_none_iff :
    selection? choices line = none ↔ ∀ id, ¬Selects choices line id := by
  rw [Option.eq_none_iff_forall_ne_some]
  exact forall_congr' fun id => not_congr selection?_eq_some_iff

theorem Selects.exists_mem (selects : Selects choices line id) :
    ∃ choice ∈ choices, choice.id = id := by
  cases selects with
  | number _ there => exact ⟨_, List.mem_of_getElem? there, rfl⟩
  | title _ _ whole => exact ⟨_, by simp [whole], rfl⟩

end CommandLine

end Gamebook
