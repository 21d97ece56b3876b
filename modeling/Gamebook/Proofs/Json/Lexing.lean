import Gamebook.Json.Printer
import Gamebook.Json.Reader
import Mathlib.Data.List.TakeWhile
import Mathlib.Tactic

/-!
# The tokens of written values

A text that is written for a value is cut into the tokens of that value, whatever follows it.  Only
numbers need care: what follows one must not go on with it.  That a number is read back is asked of
the number; integers of machine size always are.
-/

namespace Gamebook.Json

variable {text rest tail later : List Char} {token : Token} {tokens others : List Token}

/-! ## Numerals in front of other text -/

/-- Whether a text does not go on with a number that stands in front of it. -/
def Delimits (tail : List Char) : Prop :=
  ∀ c rest, tail = c :: rest → c.isDigit = false ∧ c ≠ '.' ∧ c ≠ 'e' ∧ c ≠ 'E'

theorem delimits_nil : Delimits [] := by
  rintro c rest ⟨⟩

theorem delimits_cons {c : Char} (delimits : c.isDigit = false ∧ c ≠ '.' ∧ c ≠ 'e' ∧ c ≠ 'E') :
    Delimits (c :: rest) := by
  rintro _ _ ⟨⟩
  exact delimits

theorem readDigits_append {digits : List Char} (read : readDigits text = some (digits, rest))
    (delimits : Delimits tail) : readDigits (text ++ tail) = some (digits, rest ++ tail) := by
  have tail_taken : tail.takeWhile Char.isDigit = [] := by
    cases tail with
    | nil => rfl
    | cons c tail => simp [(delimits c tail rfl).1]
  have tail_dropped : tail.dropWhile Char.isDigit = tail := by
    cases tail with
    | nil => rfl
    | cons c tail => simp [(delimits c tail rfl).1]
  simp only [readDigits] at read ⊢
  split at read
  · cases read
  · rename_i some_digit
    cases read
    have same : (text ++ tail).takeWhile Char.isDigit = text.takeWhile Char.isDigit := by
      rw [List.takeWhile_append]
      split
      · rename_i all_digits
        rw [tail_taken, List.append_nil]
        exact ((List.takeWhile_prefix _).eq_of_length all_digits).symm
      · rfl
    have left : (text ++ tail).dropWhile Char.isDigit = text.dropWhile Char.isDigit ++ tail := by
      rw [List.dropWhile_append]
      split
      · rename_i all_digits
        rw [List.isEmpty_iff.mp all_digits, tail_dropped, List.nil_append]
      · rfl
    rw [same, left, if_neg some_digit]

theorem readFraction_append {fraction : Option (List Char)}
    (read : readFraction text = some (fraction, rest)) (delimits : Delimits tail) :
    readFraction (text ++ tail) = some (fraction, rest ++ tail) := by
  rw [readFraction.eq_def] at read
  split at read
  · rename_i digits
    obtain ⟨⟨taken, left⟩, read_digits, same⟩ := Option.map_eq_some_iff.mp read
    cases same
    rw [List.cons_append, readFraction, readDigits_append read_digits delimits]
    rfl
  · rename_i no_point
    cases read
    rw [readFraction.eq_def]
    split
    · rename_i digits starts
      cases text with
      | nil => exact absurd rfl (delimits _ _ starts).2.1
      | cons c text =>
          cases starts
          exact absurd rfl (no_point _)
    · rfl

/-- Whether a minus sign stands in front of a text, and the text behind the sign that it has. -/
def signOf : List Char → Bool × List Char
  | '-' :: rest => (true, rest)
  | '+' :: rest => (false, rest)
  | rest => (false, rest)

theorem signOf_append (some_text : text ≠ []) (tail : List Char) :
    signOf (text ++ tail) = ((signOf text).1, (signOf text).2 ++ tail) := by
  obtain ⟨c, text, rfl⟩ := List.exists_cons_of_ne_nil some_text
  rw [List.cons_append, signOf.eq_def, signOf.eq_def]
  split <;> simp_all

theorem readExponent_marked {c : Char} (marked : (decide (c = 'e') || decide (c = 'E')) = true) :
    readExponent (c :: text) = (readDigits (signOf text).2).map fun (digits, rest) =>
      (some (if (signOf text).1 then -(Text.digitsValue digits : Int) else Text.digitsValue digits),
        rest) := by
  simp only [readExponent, marked, if_true]
  split
  · rfl
  · rfl
  · rename_i no_minus no_plus
    rw [signOf.eq_3 text no_minus no_plus]

theorem readExponent_append {exponent : Option Int}
    (read : readExponent text = some (exponent, rest)) (delimits : Delimits tail) :
    readExponent (text ++ tail) = some (exponent, rest ++ tail) := by
  cases text with
  | nil =>
      cases read
      cases tail with
      | nil => rfl
      | cons c tail => simp [readExponent, (delimits c tail rfl).2.2]
  | cons c text =>
      rw [List.cons_append]
      by_cases marked : (decide (c = 'e') || decide (c = 'E')) = true
      · rw [readExponent_marked marked] at read ⊢
        obtain ⟨⟨digits, left⟩, read_digits, same⟩ := Option.map_eq_some_iff.mp read
        cases same
        have some_text : text ≠ [] := by
          rintro rfl
          simp [signOf, readDigits] at read_digits
        rw [signOf_append some_text, readDigits_append read_digits delimits]
        rfl
      · simp only [readExponent, if_neg marked] at read ⊢
        cases read
        rfl

/-- Whether a minus sign stands in front of a text, and the text behind it. -/
def minusOf : List Char → Bool × List Char
  | '-' :: rest => (true, rest)
  | text => (false, text)

theorem minusOf_append (some_text : text ≠ []) (tail : List Char) :
    minusOf (text ++ tail) = ((minusOf text).1, (minusOf text).2 ++ tail) := by
  obtain ⟨c, text, rfl⟩ := List.exists_cons_of_ne_nil some_text
  rw [List.cons_append, minusOf.eq_def, minusOf.eq_def]
  split <;> simp_all

theorem readNumeral_eq_some_iff {numeral : Numeral} :
    readNumeral text = some (numeral, rest) ↔
      ∃ behind_whole behind_fraction,
        readDigits (minusOf text).2 = some (numeral.whole, behind_whole) ∧
          ¬(numeral.whole.head? = some '0' ∧ numeral.whole.length ≠ 1) ∧
            readFraction behind_whole = some (numeral.fraction, behind_fraction) ∧
              readExponent behind_fraction = some (numeral.exponent, rest) ∧
                numeral.negative = (minusOf text).1 := by
  have unfolded : readNumeral text = (readDigits (minusOf text).2).bind fun found =>
      if found.1.head? = some '0' ∧ found.1.length ≠ 1 then none
      else (readFraction found.2).bind fun fraction =>
        (readExponent fraction.2).bind fun exponent =>
          some ({ negative := (minusOf text).1, whole := found.1, fraction := fraction.1
                  exponent := exponent.1 }, exponent.2) := by
    unfold readNumeral
    split
    rename_i negative unsigned signed
    rw [show minusOf text = (negative, unsigned) from signed]
    cases readDigits unsigned with
    | none => rfl
    | some found =>
        simp only [Option.bind_eq_bind, Option.bind_some]
        split <;> rfl
  rw [unfolded]
  constructor
  · intro read
    obtain ⟨⟨whole, behind_whole⟩, read_whole, read⟩ := Option.bind_eq_some_iff.mp read
    split at read
    · cases read
    · rename_i no_zero
      obtain ⟨⟨fraction, behind_fraction⟩, read_fraction, read⟩ :=
        Option.bind_eq_some_iff.mp read
      obtain ⟨⟨exponent, behind⟩, read_exponent, read⟩ := Option.bind_eq_some_iff.mp read
      cases read
      exact ⟨behind_whole, behind_fraction, read_whole, no_zero, read_fraction, read_exponent, rfl⟩
  · rintro ⟨behind_whole, behind_fraction, read_whole, no_zero, read_fraction, read_exponent, sign⟩
    obtain ⟨negative, whole, fraction, exponent⟩ := numeral
    obtain rfl := sign
    simp only [read_whole, Option.bind_some, if_neg no_zero, read_fraction, read_exponent]

/-- A numeral is read the same way in front of any text that does not go on with it. -/
theorem readNumeral_append {numeral : Numeral} (read : readNumeral text = some (numeral, rest))
    (delimits : Delimits tail) : readNumeral (text ++ tail) = some (numeral, rest ++ tail) := by
  obtain ⟨behind_whole, behind_fraction, read_whole, no_zero, read_fraction, read_exponent, sign⟩ :=
    readNumeral_eq_some_iff.mp read
  have some_text : text ≠ [] := by
    rintro rfl
    simp [minusOf, readDigits] at read_whole
  have signed := minusOf_append some_text tail
  exact readNumeral_eq_some_iff.mpr ⟨behind_whole ++ tail, behind_fraction ++ tail,
    by rw [signed, readDigits_append read_whole delimits], no_zero,
    readFraction_append read_fraction delimits, readExponent_append read_exponent delimits,
    by rw [signed, sign]⟩

/-! ## Tokens in front of other text -/

/-- A text is cut into tokens, however many there are. -/
inductive Cuts : List Char → List Token → Prop
  | done {text : List Char} (blank : text.dropWhile isSpace = []) : Cuts text []
  | token {text rest later : List Char} {c : Char} {token : Token} {tokens : List Token}
      (starts : text.dropWhile isSpace = c :: rest)
      (reads : readToken (c :: rest) = some (token, later)) (cuts : Cuts later tokens) :
      Cuts text (token :: tokens)

namespace Cuts

theorem of_tokensWithin {fuel : Nat} (cut : tokensWithin fuel text = some tokens) :
    Cuts text tokens := by
  induction fuel generalizing text tokens with
  | zero =>
      rw [tokensWithin] at cut
      split at cut
      · rename_i blank
        cases cut
        exact .done blank
      · cases cut
  | succ fuel induction =>
      rw [tokensWithin] at cut
      split at cut
      · rename_i blank
        cases cut
        exact .done blank
      · rename_i c rest starts
        obtain ⟨⟨token, later⟩, reads, cut⟩ := Option.bind_eq_some_iff.mp cut
        obtain ⟨others, cuts, same⟩ := Option.bind_eq_some_iff.mp cut
        cases same
        exact .token starts reads (induction cuts)

theorem tokensWithin {fuel : Nat} (cuts : Cuts text tokens) (enough : tokens.length ≤ fuel) :
    tokensWithin fuel text = some tokens := by
  induction cuts generalizing fuel with
  | done blank => rw [Json.tokensWithin, blank]
  | token starts reads cuts induction =>
      obtain ⟨fuel, rfl⟩ :=
        Nat.exists_eq_add_one_of_ne_zero (Nat.ne_of_gt (Nat.zero_lt_of_lt enough))
      rw [Json.tokensWithin, starts]
      simp only [reads, induction (Nat.le_of_succ_le_succ enough), Option.bind_eq_bind,
        Option.bind_some]

/-- Spaces in front of a text do not count. -/
theorem behind_spaces {spaces : List Char} (cuts : Cuts text tokens)
    (blank : ∀ c ∈ spaces, isSpace c = true) : Cuts (spaces ++ text) tokens := by
  have same : (spaces ++ text).dropWhile isSpace = text.dropWhile isSpace :=
    List.dropWhile_append_of_pos blank
  cases cuts with
  | done blank => exact .done (same.trans blank)
  | token starts reads cuts => exact .token (same.trans starts) reads cuts

theorem cons {c : Char} (visible : isSpace c = false)
    (reads : readToken (c :: rest) = some (token, later)) (cuts : Cuts later tokens) :
    Cuts (c :: rest) (token :: tokens) :=
  .token (by simp [visible]) reads cuts

end Cuts

/-- A text stands for tokens, whatever follows that does not go on with a number. -/
structure StandsFor (text : List Char) (tokens : List Token) : Prop where
  cuts : ∀ tail others, Delimits tail → Cuts tail others → Cuts (text ++ tail) (tokens ++ others)
  short : tokens.length ≤ text.length

namespace StandsFor

variable {left right : List Char} {more : List Token}

theorem nil : StandsFor [] [] := ⟨fun _ _ _ cuts => cuts, Nat.le_refl 0⟩

theorem append (first : StandsFor left tokens) (second : StandsFor right more)
    (delimits : ∀ tail, Delimits tail → Delimits (right ++ tail)) :
    StandsFor (left ++ right) (tokens ++ more) where
  cuts tail others behind cuts := by
    rw [List.append_assoc, List.append_assoc]
    exact first.cuts _ _ (delimits tail behind) (second.cuts tail others behind cuts)
  short := by
    rw [List.length_append, List.length_append]
    exact Nat.add_le_add first.short second.short

theorem cons {c : Char} (visible : isSpace c = false)
    (reads : ∀ rest, readToken (c :: rest) = some (token, rest)) (stands : StandsFor text tokens) :
    StandsFor (c :: text) (token :: tokens) where
  cuts tail others behind cuts := .cons visible (reads _) (stands.cuts tail others behind cuts)
  short := Nat.succ_le_succ stands.short

theorem behind_spaces {spaces : List Char} (stands : StandsFor text tokens)
    (blank : ∀ c ∈ spaces, isSpace c = true) : StandsFor (spaces ++ text) tokens where
  cuts tail others behind cuts := by
    rw [List.append_assoc]
    exact (stands.cuts tail others behind cuts).behind_spaces blank
  short := by
    rw [List.length_append]
    exact stands.short.trans (Nat.le_add_left _ _)

/-- A text that is one token. -/
theorem of_word {c : Char} (visible : isSpace c = false)
    (reads : ∀ tail, readToken (c :: (text ++ tail)) = some (token, tail)) :
    StandsFor (c :: text) [token] :=
  ⟨fun _ _ _ cuts => .cons visible (reads _) cuts, by simp⟩

end StandsFor

/-! ## Numbers -/

theorem readNumeral_head {c : Char} {numeral : Numeral}
    (read : readNumeral (c :: text) = some (numeral, rest)) : c = '-' ∨ c.isDigit = true := by
  obtain ⟨behind_whole, -, read_whole, -⟩ := readNumeral_eq_some_iff.mp read
  by_cases minus : c = '-'
  · exact Or.inl minus
  · refine Or.inr ?_
    have unsigned : minusOf (c :: text) = (false, c :: text) :=
      minusOf.eq_2 _ fun rest starts => minus (List.cons.inj starts).1
    rw [unsigned] at read_whole
    by_contra no_digit
    simp [readDigits, no_digit] at read_whole

theorem readToken_eq_readNumeral {c : Char} (starts : c = '-' ∨ c.isDigit = true) :
    readToken (c :: text) =
      (readNumeral (c :: text)).map fun (numeral, rest) => (.number numeral, rest) := by
  unfold readToken
  split
  case h_11 => rfl
  all_goals
    rename_i same
    obtain ⟨rfl, -⟩ := List.cons.inj same
    exact absurd starts (by decide)

/-- A number is read as a numeral. -/
theorem readToken_number {numeral : Numeral}
    (read : readToken text = some (.number numeral, later)) :
    readNumeral text = some (numeral, later) := by
  unfold readToken at read
  split at read
  case h_7 =>
    obtain ⟨found, -, same⟩ := Option.map_eq_some_iff.mp read
    cases same
  case h_11 =>
    obtain ⟨found, read_numeral, same⟩ := Option.map_eq_some_iff.mp read
    cases same
    exact read_numeral
  all_goals cases read

theorem isSpace_of_readNumeral {c : Char} {numeral : Numeral}
    (read : readNumeral (c :: text) = some (numeral, rest)) : isSpace c = false := by
  rcases readNumeral_head read with rfl | digit
  · rfl
  · by_contra space
    simp only [isSpace, Bool.or_eq_true, decide_eq_true_eq, Bool.not_eq_false] at space
    rcases space with ((rfl | rfl) | rfl) | rfl <;> exact absurd digit (by decide)

theorem readToken_number_append {c : Char} {numeral : Numeral}
    (read : readToken (c :: text) = some (.number numeral, later)) (delimits : Delimits tail) :
    isSpace c = false ∧
      readToken (c :: (text ++ tail)) = some (.number numeral, later ++ tail) := by
  have read_numeral := readToken_number read
  have read_more := readNumeral_append read_numeral delimits
  refine ⟨isSpace_of_readNumeral read_numeral, ?_⟩
  rw [readToken_eq_readNumeral (readNumeral_head read_numeral), ← List.cons_append, read_more,
    Option.map_some]

/-- Whether reading the text of a number gives the number back. -/
def Number.ReadsBack (number : Number) : Prop :=
  read number.text = some (.number number)

/-- The number that a value is. -/
def number? : Json → Option Number
  | number value => some value
  | _ => none

theorem Number.readsBack_iff {number : Number} :
    number.ReadsBack ↔ (read number.text).bind number? = some number := by
  rw [ReadsBack]
  cases read number.text with
  | none => simp
  | some value => cases value <;> simp [number?]

instance : DecidablePred Number.ReadsBack := fun _ => decidable_of_iff' _ Number.readsBack_iff

theorem readForm_number {fuel : Nat} {numeral : Numeral}
    (read : readForm fuel tokens = some (.number numeral, others)) :
    tokens = .number numeral :: others := by
  cases fuel with
  | zero => simp [readForm] at read
  | succ fuel =>
      unfold readForm at read
      split at read
      case h_3 =>
        cases read
        rfl
      case h_6 | h_8 =>
        obtain ⟨found, -, same⟩ := Option.map_eq_some_iff.mp read
        cases same
      all_goals cases read

theorem Form.value?_eq_number {form : Form} {view : View} {depth : Nat} {number : Number}
    (evaluates : form.value? view depth = some (.number number)) :
    ∃ numeral, form = .number numeral ∧ numeral.value = some number := by
  cases form with
  | number numeral =>
      obtain ⟨value, value_eq, same⟩ := Option.map_eq_some_iff.mp evaluates
      cases same
      exact ⟨numeral, rfl, value_eq⟩
  | array | object =>
      rw [Form.value?] at evaluates
      split at evaluates
      · cases evaluates
      · obtain ⟨found, -, same⟩ := Option.map_eq_some_iff.mp evaluates
        cases same
  | string =>
      obtain ⟨found, -, same⟩ := Option.map_eq_some_iff.mp evaluates
      cases same
  | null | bool => cases evaluates

/-- The numeral as which the text of a number is read. -/
def Number.numeral (number : Number) : Numeral :=
  match Json.tokens number.text.toList with
  | some [.number numeral] => numeral
  | _ => { negative := false, whole := [], fraction := none, exponent := none }

/-- The text of a number that is read back is its numeral, which spells the number. -/
theorem Number.ReadsBack.numeral {number : Number} (reads : number.ReadsBack) :
    Json.tokens number.text.toList = some [.number number.numeral] ∧
      number.numeral.value = some number := by
  obtain ⟨form, read_form, evaluates⟩ := Option.bind_eq_some_iff.mp reads
  obtain ⟨numeral, rfl, value⟩ := Form.value?_eq_number evaluates
  obtain ⟨tokens, cut, read⟩ := Option.bind_eq_some_iff.mp read_form
  obtain ⟨⟨form, rest⟩, read, ended⟩ := Option.bind_eq_some_iff.mp read
  dsimp only at ended
  split at ended
  · rename_i nothing_left
    cases ended
    rw [readForm_number read, List.isEmpty_iff.mp nothing_left] at cut
    have same : number.numeral = numeral := by rw [Number.numeral, cut]
    rw [same]
    exact ⟨cut, value⟩
  · cases ended

/-- The text of a number that is read back stands for its numeral. -/
theorem standsFor_number {number : Number} (reads : number.ReadsBack) :
    StandsFor number.text.toList [.number number.numeral] := by
  cases Cuts.of_tokensWithin reads.numeral.1 with
  | @token _ rest later c _ _ starts read_token cuts =>
      cases cuts with
      | done blank =>
          have split : number.text.toList = number.text.toList.takeWhile isSpace ++ c :: rest := by
            rw [← starts, List.takeWhile_append_dropWhile]
          rw [split]
          refine StandsFor.behind_spaces ⟨fun tail others delimits behind => ?_, by simp⟩
            fun c member => List.mem_takeWhile_imp member
          exact .cons (readToken_number_append read_token delimits).1
            (readToken_number_append read_token delimits).2
            (behind.behind_spaces (List.dropWhile_eq_nil_iff.mp blank))

theorem ofDigitChars_ge (digits : List Char) (start : Nat) :
    start ≤ Nat.ofDigitChars 10 digits start := by
  rw [Nat.ofDigitChars_eq_ofDigitChars_zero]
  have := Nat.mul_le_mul_right start (Nat.one_le_pow digits.length 10 (by decide))
  omega

theorem extendSignificand_of_le {digits : List Char} {significand : Nat}
    (fits : Nat.ofDigitChars 10 digits significand ≤ maxWord) :
    extendSignificand significand digits = (Nat.ofDigitChars 10 digits significand, []) := by
  induction digits generalizing significand with
  | nil => rfl
  | cons c digits induction =>
      have longer : significand * 10 + Text.digitValue c =
          10 * significand + (c.toNat - '0'.toNat) := by
        rw [Text.digitValue, Nat.mul_comm]
      rw [Nat.ofDigitChars_cons, ← longer] at fits ⊢
      rw [extendSignificand, if_neg, induction fits]
      exact Nat.not_lt.mpr ((ofDigitChars_ge digits _).trans fits)

/-- No zero stands in front of the digits of a positive number. -/
theorem head?_toDigits {value : Nat} (positive : 0 < value) :
    (Nat.toDigits 10 value).head? ≠ some '0' := by
  induction value using Nat.strong_induction_on with
  | _ value induction =>
      by_cases small : value < 10
      · rw [Nat.toDigits_of_lt_base small]
        interval_cases value <;> decide
      · rw [Nat.toDigits_of_base_le (by decide) (by omega),
          List.head?_append_of_ne_nil _ Nat.toDigits_ne_nil]
        exact induction (value / 10) (by omega) (by omega)

theorem readNumeral_toDigits (value : Nat) :
    readNumeral (Nat.toDigits 10 value) =
      some
        ({ negative := false, whole := Nat.toDigits 10 value, fraction := none
           exponent := none }, []) := by
  have digits : ∀ c ∈ Nat.toDigits 10 value, c.isDigit = true := fun c member =>
    Nat.isDigit_of_mem_toDigits (by decide) (by decide) member
  have unsigned : minusOf (Nat.toDigits 10 value) = (false, Nat.toDigits 10 value) := by
    refine minusOf.eq_2 _ fun rest starts => ?_
    exact absurd (digits '-' (by simp [starts])) (by decide)
  refine readNumeral_eq_some_iff.mpr ⟨[], [], ?_, ?_, rfl, rfl, ?_⟩
  · simp [unsigned, readDigits, List.takeWhile_eq_self_iff.mpr digits,
      List.dropWhile_eq_nil_iff.mpr digits, Nat.toDigits_ne_nil]
  · rintro ⟨zero, long⟩
    rcases Nat.eq_zero_or_pos value with rfl | positive
    · exact long (by rw [Nat.toDigits_zero]; rfl)
    · exact head?_toDigits positive zero
  · rw [unsigned]

/-- A text has a form if its tokens do. -/
theorem Form.read_of_standsFor {text : String} {form : Form}
    (stands : StandsFor text.toList tokens)
    (read : readForm (2 * tokens.length + 1) tokens = some (form, [])) :
    Form.read text = some form := by
  have cuts := stands.cuts [] [] delimits_nil (.done rfl)
  rw [List.append_nil, List.append_nil] at cuts
  rw [Form.read, Json.tokens, cuts.tokensWithin stands.short]
  simp [read]

/-- Integers of machine size are read back. -/
theorem readsBack_natural {value : Nat} (sized : value ≤ maxWord) :
    (Number.natural value).ReadsBack := by
  let numeral : Numeral :=
    { negative := false, whole := Nat.toDigits 10 value, fraction := none, exponent := none }
  have value_eq : numeral.value = some (.natural value) := by
    have fits : Nat.ofDigitChars 10 (Nat.toDigits 10 value) 0 ≤ maxWord := by
      rwa [Nat.ofDigitChars_ten_toDigits]
    have all_digits := extendSignificand_of_le fits
    simp [numeral, Numeral.value, all_digits]
  have stands : StandsFor (Number.natural value).text.toList [.number numeral] := by
    obtain ⟨first, others, starts⟩ :=
      List.exists_cons_of_ne_nil (Nat.toDigits_ne_nil (n := value) (b := 10))
    have read : readNumeral (first :: others) = some (numeral, []) := by
      rw [← starts]
      exact readNumeral_toDigits value
    have read_token : readToken (first :: others) = some (.number numeral, []) := by
      rw [readToken_eq_readNumeral (readNumeral_head read), read, Option.map_some]
    rw [Number.text, Nat.toString_eq_ofList_toDigits, String.toList_ofList, starts]
    refine ⟨fun tail others delimits behind => ?_, by simp⟩
    exact .cons (isSpace_of_readNumeral read) (readToken_number_append read_token delimits).2 behind
  rw [Number.ReadsBack, Json.read, readView, Form.read_of_standsFor stands rfl, Option.bind_some,
    Form.value?, value_eq, Option.map_some]

/-! ## Strings -/

/-- The part of a string as which a written character is read. -/
def writtenPart (c : Char) : StringPart :=
  if c.toNat < 0x20 ∧ c ∉ ['\n', '\r', '\t', '\x08', '\x0c'] then .unit c.toNat else .char c

theorem readUnit_control : ∀ code < 0x20,
    readUnit (['0', '0', if code < 0x10 then '0' else '1'] ++ Text.hexDigits (code % 16)) =
      some code := by
  decide

theorem hexDigits_digit : ∀ digit < 16, ∃ c, Text.hexDigits digit = [c] := by
  intro digit small
  rw [Text.hexDigits, Nat.toDigits_of_lt_base small]
  exact ⟨_, rfl⟩

theorem readStringParts_plain {c : Char} (no_quote : c ≠ '"') (no_escape : c ≠ '\\')
    (visible : ¬c.toNat < 0x20) :
    readStringParts (c :: text) =
      (readStringParts text).map fun found => (.char c :: found.1, found.2) := by
  rw [readStringParts.eq_def]
  split
  case h_5 _ starts =>
    obtain ⟨rfl, rfl⟩ := List.cons.inj starts
    rw [if_neg (by simp [visible, no_escape])]
    cases readStringParts _ <;> rfl
  · rename_i starts
    cases starts
  · rename_i starts
    exact absurd (List.cons.inj starts).1 no_quote
  all_goals
    rename_i starts
    exact absurd (List.cons.inj starts).1 no_escape

theorem readStringParts_control {c : Char} (control : c.toNat < 0x20) :
    readStringParts (['\\', 'u', '0', '0', if c.toNat < 0x10 then '0' else '1'] ++
        Text.hexDigits (c.toNat % 16) ++ text) =
      (readStringParts text).map fun found => (.unit c.toNat :: found.1, found.2) := by
  obtain ⟨digit, digits⟩ := hexDigits_digit (c.toNat % 16) (by omega)
  have unit := readUnit_control c.toNat control
  rw [digits] at unit ⊢
  simp only [List.cons_append, List.nil_append] at unit ⊢
  rw [readStringParts, unit]
  cases readStringParts text <;> rfl

theorem readStringParts_escaped {letter c : Char} (escaped : escapedChar letter = some c) :
    readStringParts ('\\' :: letter :: text) =
      (readStringParts text).map fun found => (.char c :: found.1, found.2) := by
  rw [readStringParts.eq_def]
  split
  case h_3 starts =>
    obtain ⟨-, starts⟩ := List.cons.inj starts
    obtain ⟨rfl, -⟩ := List.cons.inj starts
    cases escaped
  case h_4 starts =>
    obtain ⟨-, starts⟩ := List.cons.inj starts
    obtain ⟨rfl, rfl⟩ := List.cons.inj starts
    rw [escaped]
    cases readStringParts _ <;> rfl
  case h_5 no_escape starts =>
    obtain ⟨rfl, rfl⟩ := List.cons.inj starts
    exact absurd rfl (no_escape letter text rfl)
  all_goals simp_all

/-- A written character is read as its part of the string. -/
theorem readStringParts_escapeChar (c : Char) (text : List Char) :
    readStringParts (escapeChar c ++ text) =
      (readStringParts text).map fun found => (writtenPart c :: found.1, found.2) := by
  rw [escapeChar]
  iterate 7
    split
    · subst c
      exact readStringParts_escaped rfl
  split
  · rename_i quote backslash newline feed tab backspace page control
    have part : writtenPart c = .unit c.toNat :=
      if_pos ⟨control, by simp [newline, feed, tab, backspace, page]⟩
    rw [readStringParts_control control, part]
  · rename_i quote backslash newline feed tab backspace page visible
    have part : writtenPart c = .char c := if_neg fun both => visible both.1
    rw [part]
    exact readStringParts_plain quote backslash visible

theorem joinParts_unit {code : Nat} (low : code < 0xD800) (parts : List StringPart) :
    joinParts (.unit code :: parts) = (joinParts parts).map (Char.ofNat code :: ·) := by
  have no_high : isHighHalf code = false := by simp [isHighHalf, low]
  have no_low : isLowHalf code = false := by
    simp only [isLowHalf, Bool.and_eq_false_imp, decide_eq_true_eq]
    omega
  rcases parts with _ | ⟨_ | _, _⟩ <;> simp [joinParts, no_high, no_low]

theorem joinParts_written (characters : List Char) :
    joinParts (characters.map writtenPart) = some characters := by
  induction characters with
  | nil => rfl
  | cons c characters induction =>
      rw [List.map_cons, writtenPart]
      split
      · rename_i control
        rw [joinParts_unit (by omega), induction, Option.map_some, Char.ofNat_toNat]
      · rw [joinParts, induction, Option.map_some]

theorem readStringParts_written (characters tail : List Char) :
    readStringParts (characters.flatMap escapeChar ++ '"' :: tail) =
      some (characters.map writtenPart, tail) := by
  induction characters with
  | nil => rw [List.flatMap_nil, List.nil_append, readStringParts, List.map_nil]
  | cons c characters induction =>
      rw [List.flatMap_cons, List.append_assoc, readStringParts_escapeChar, induction]
      rfl

/-- The parts as which a string is written. -/
def writtenParts (value : String) : List StringPart :=
  value.toList.map writtenPart

theorem stringOfParts?_written (value : String) :
    stringOfParts? (writtenParts value) = some value := by
  rw [stringOfParts?, writtenParts, joinParts_written, Option.map_some, String.ofList_toList]

/-- A written string stands for its parts. -/
theorem standsFor_string (value : String) :
    StandsFor (stringText value).toList [.string (writtenParts value)] := by
  rw [stringText, String.toList_ofList]
  refine ⟨fun tail others delimits behind => ?_, by simp⟩
  rw [List.cons_append, List.append_assoc]
  refine .cons (by decide) ?_ behind
  rw [readToken, List.cons_append, List.nil_append, readStringParts_written, Option.map_some,
    writtenParts]

end Gamebook.Json
