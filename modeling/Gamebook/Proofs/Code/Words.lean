import Gamebook.Code.Token
import Gamebook.Proofs.Lists
import Gamebook.Proofs.Text.Slice
import Mathlib.Algebra.Ring.Parity

/-!
# The words of a fragment

A fragment is made of words with blank characters around them.  A word has no quote, and then a
blank character or the end of the fragment follows, or it has two, and ends with the second one.
Every fragment is made of words in just one way, unless its number of quotes is odd: then a quote is
left that no other one closes.
-/

namespace Gamebook.Code

open Text (byteLength byteLength_append isBlank)

/-! ## Words -/

/-- A character that neither opens a text nor ends a word. -/
def IsBare (c : Char) : Prop :=
  c ≠ '"' ∧ isBlank c = false

instance : DecidablePred IsBare := fun _ => inferInstanceAs (Decidable (_ ∧ _))

/-- A word in front of the rest of a text. -/
inductive IsWord : (word rest : List Char) → Prop
  /-- A word without quotes goes as far as it can. -/
  | plain {word rest : List Char} (nonempty : word ≠ []) (bare : ∀ c ∈ word, IsBare c)
      (ends : ∀ c ∈ rest.head?, isBlank c = true) : IsWord word rest
  /-- A word with a quote goes to the next quote. -/
  | quoted {front inner rest : List Char} (bare : ∀ c ∈ front, IsBare c) (closed : '"' ∉ inner) :
      IsWord (front ++ '"' :: (inner ++ ['"'])) rest

/-- The end of a text from the word that has a quote which is not closed. -/
inductive Unclosed : List Char → Prop
  | intro {front inner : List Char} (bare : ∀ c ∈ front, IsBare c) (closed : '"' ∉ inner) :
      Unclosed (front ++ '"' :: inner)

variable {text front inner word tail rest gap : List Char} {offset : Nat} {words : List Word}

theorem not_blank_quote : isBlank '"' = false := rfl

/-- Bare characters in front of a quote start with a character that is not blank. -/
theorem head_quoted (bare : ∀ c ∈ front, IsBare c) :
    ∃ c others, front ++ '"' :: tail = c :: others ∧ isBlank c = false := by
  cases front with
  | nil => exact ⟨'"', tail, rfl, not_blank_quote⟩
  | cons c others => exact ⟨c, _, rfl, (bare c List.mem_cons_self).2⟩

theorem IsWord.head (is_word : IsWord word rest) :
    ∃ c others, word = c :: others ∧ isBlank c = false := by
  cases is_word with
  | plain nonempty bare ends =>
      obtain ⟨c, others, rfl⟩ := List.exists_cons_of_ne_nil nonempty
      exact ⟨c, others, rfl, (bare c List.mem_cons_self).2⟩
  | quoted bare closed => exact head_quoted bare

theorem IsWord.nonempty (is_word : IsWord word rest) : word ≠ [] := by
  obtain ⟨c, others, rfl, -⟩ := is_word.head
  exact List.cons_ne_nil c others

theorem Unclosed.head (unclosed : Unclosed rest) :
    ∃ c others, rest = c :: others ∧ isBlank c = false := by
  obtain ⟨bare, closed⟩ := unclosed
  exact head_quoted bare

/-- A text that does not start with a blank character starts with a word or has a quote that is not
closed. -/
theorem exists_word {c : Char} (solid : isBlank c = false) (others : List Char) :
    (∃ word tail, c :: others = word ++ tail ∧ IsWord word tail) ∨ Unclosed (c :: others) := by
  obtain ⟨front, rest, whole, bare, stops⟩ := exists_front IsBare (c :: others)
  rw [whole]
  have plain (ends : ∀ c ∈ rest.head?, isBlank c = true) : IsWord front rest := by
    refine .plain ?_ bare ends
    rintro rfl
    rw [List.nil_append] at whole
    simp [← whole, solid] at ends
  -- Bare characters go on to the end, to a quote, or to a blank character.
  cases rest with
  | nil => exact Or.inl ⟨front, [], rfl, plain (by simp)⟩
  | cons stop later =>
      by_cases quote : stop = '"'
      · subst quote
        by_cases closed : '"' ∈ later
        · obtain ⟨inner, tail, rfl, first⟩ := List.eq_append_cons_of_mem closed
          exact Or.inl ⟨front ++ '"' :: (inner ++ ['"']), tail, by simp, .quoted bare first⟩
        · exact Or.inr ⟨bare, closed⟩
      · have blank : isBlank stop = true := by
          by_contra solid
          exact stops stop rfl ⟨quote, by simpa using solid⟩
        exact Or.inl ⟨front, stop :: later, rfl, plain (by simpa using blank)⟩

/-! ### Quotes -/

theorem count_quotes_blank (blank : ∀ c ∈ gap, isBlank c = true) : gap.count '"' = 0 :=
  List.count_eq_zero.mpr fun member => by cases blank '"' member

theorem count_quotes_bare (bare : ∀ c ∈ front, IsBare c) : front.count '"' = 0 :=
  List.count_eq_zero.mpr fun member => (bare '"' member).1 rfl

/-- A word has no quote or two. -/
theorem IsWord.even_quotes (is_word : IsWord word rest) : Even (word.count '"') := by
  cases is_word with
  | plain nonempty bare ends => simp [count_quotes_bare bare]
  | quoted bare closed =>
      simp [count_quotes_bare bare, List.count_eq_zero.mpr closed, even_two]

theorem Unclosed.odd_quotes (unclosed : Unclosed rest) : Odd (rest.count '"') := by
  obtain ⟨bare, closed⟩ := unclosed
  simp [count_quotes_bare bare, List.count_eq_zero.mpr closed]

/-! ## Cutting words off -/

theorem cutWord_bare (bare : ∀ c ∈ front, IsBare c) (rest : List Char) :
    cutWord false (front ++ rest) =
      (cutWord false rest).map fun (word, rest) => (front ++ word, rest) := by
  induction front with
  | nil => simp
  | cons c front induction =>
      obtain ⟨⟨no_quote, solid⟩, bare⟩ := List.forall_mem_cons.mp bare
      rw [List.cons_append, cutWord, if_neg no_quote, solid, induction bare]
      simp [Function.comp_def]

theorem cutWord_inner (closed : '"' ∉ inner) (rest : List Char) :
    cutWord true (inner ++ rest) =
      (cutWord true rest).map fun (word, rest) => (inner ++ word, rest) := by
  induction inner with
  | nil => simp
  | cons c inner induction =>
      obtain ⟨no_quote, closed⟩ := not_or.mp (List.mem_cons.not.mp closed)
      rw [List.cons_append, cutWord, if_neg (Ne.symm no_quote), induction closed]
      simp [Function.comp_def]

theorem cutWord_isWord (is_word : IsWord word rest) :
    cutWord false (word ++ rest) = some (word, rest) := by
  cases is_word with
  | plain nonempty bare ends =>
      rw [cutWord_bare bare]
      cases rest with
      | nil => simp [cutWord]
      | cons c tail =>
          have blank : isBlank c = true := ends c rfl
          have no_quote : c ≠ '"' := by
            rintro rfl
            cases blank
          simp [cutWord, no_quote, blank]
  | quoted bare closed =>
      rw [List.append_assoc, cutWord_bare bare, List.cons_append, cutWord, List.append_assoc,
        cutWord_inner closed]
      simp [cutWord]

theorem cutWord_unclosed (unclosed : Unclosed rest) : cutWord false rest = none := by
  obtain @⟨front, inner, bare, closed⟩ := unclosed
  have opened : cutWord true inner = none := by
    simpa [cutWord] using cutWord_inner closed []
  rw [cutWord_bare bare, cutWord, opened]
  simp

/-! ## Splitting into words -/

theorem splitWords_gap (blank : ∀ c ∈ gap, isBlank c = true) (offset : Nat) (rest : List Char) :
    splitWords offset (gap ++ rest) = splitWords (offset + byteLength gap) rest := by
  induction gap generalizing offset with
  | nil => rfl
  | cons c gap induction =>
      obtain ⟨first, blank⟩ := List.forall_mem_cons.mp blank
      rw [List.cons_append, splitWords, if_pos first, induction blank, byteLength, Nat.add_assoc]

theorem splitWords_blank (blank : ∀ c ∈ gap, isBlank c = true) (offset : Nat) :
    splitWords offset gap = .ok [] := by
  rw [← List.append_nil gap, splitWords_gap blank, splitWords]

theorem splitWords_isWord (is_word : IsWord word rest) (offset : Nat) :
    splitWords offset (word ++ rest) =
      (splitWords (offset + byteLength word) rest).map fun words => ⟨word, offset⟩ :: words := by
  have cut := cutWord_isWord is_word
  obtain ⟨c, others, rfl, solid⟩ := is_word.head
  rw [List.cons_append] at cut ⊢
  rw [splitWords, if_neg (by simp [solid])]
  split
  · rename_i none
    cases none.symm.trans cut
  · rename_i stopped
    cases stopped.symm.trans cut
  · rename_i found
    cases found.symm.trans cut
    rfl

theorem splitWords_unclosed (unclosed : Unclosed rest) (offset : Nat) :
    splitWords offset rest =
      .error ⟨.unterminatedString, ⟨offset, offset + byteLength rest⟩⟩ := by
  have cut := cutWord_unclosed unclosed
  obtain ⟨c, others, rfl, solid⟩ := unclosed.head
  rw [splitWords, if_neg (by simp [solid])]
  split
  · rfl
  · rename_i stopped
    cases stopped.symm.trans cut
  · rename_i found
    cases found.symm.trans cut

/-- A text that starts at a byte is made of words with blank characters in front of each, and of a
rest. -/
inductive Splits : (offset : Nat) → (text : List Char) → (words : List Word) → (rest : List Char) →
    Prop
  | stop {offset : Nat} {rest : List Char} : Splits offset rest [] rest
  | word {offset : Nat} {gap word tail rest : List Char} {words : List Word}
      (blank : ∀ c ∈ gap, isBlank c = true) (is_word : IsWord word tail)
      (splits : Splits (offset + byteLength gap + byteLength word) tail words rest) :
      Splits offset (gap ++ (word ++ tail)) (⟨word, offset + byteLength gap⟩ :: words) rest

/-- Every text is made of words, and a rest that is blank or has a quote that is not closed. -/
theorem exists_splits (offset : Nat) (text : List Char) :
    ∃ words gap rest, Splits offset text words (gap ++ rest) ∧ (∀ c ∈ gap, isBlank c = true) ∧
      (rest = [] ∨ Unclosed rest) := by
  induction length : text.length using Nat.strong_induction_on generalizing offset text with
  | _ count induction =>
      obtain ⟨gap, back, rfl, blank, solid⟩ := exists_front (isBlank · = true) text
      cases back with
      | nil => exact ⟨[], gap, [], .stop, blank, Or.inl rfl⟩
      | cons c others =>
          rcases exists_word (by simpa using solid) others with
            ⟨word, tail, whole, is_word⟩ | unclosed
          · -- A word is not empty, so that less is left behind it.
            have shorter : tail.length < count := by
              have := List.length_pos_iff.mpr is_word.nonempty
              rw [← length, whole]
              simp only [List.length_append]
              omega
            obtain ⟨words, later, rest, splits, later_blank, ends⟩ :=
              induction _ shorter (offset + byteLength gap + byteLength word) tail rfl
            rw [whole]
            exact ⟨_, later, rest, .word blank is_word splits, later_blank, ends⟩
          · exact ⟨[], gap, c :: others, .stop, blank, Or.inr unclosed⟩

namespace Splits

variable {part : Word}

theorem splitWords_eq (splits : Splits offset text words rest) (blank : ∀ c ∈ rest, isBlank c = true) :
    splitWords offset text = .ok words := by
  induction splits with
  | stop => exact splitWords_blank blank _
  | word gap_blank is_word _ induction =>
      rw [splitWords_gap gap_blank, splitWords_isWord is_word, induction blank]
      rfl

/-- An unclosed quote is reported with the bytes from the start of its word to the end of the text.
-/
theorem splitWords_eq_error (splits : Splits offset text words (gap ++ rest))
    (blank : ∀ c ∈ gap, isBlank c = true) (unclosed : Unclosed rest) :
    ∃ before, text = before ++ rest ∧
      splitWords offset text =
        .error ⟨.unterminatedString, ⟨offset + byteLength before, offset + byteLength text⟩⟩ := by
  generalize same : gap ++ rest = whole at splits
  induction splits with
  | stop =>
      subst same
      refine ⟨gap, rfl, ?_⟩
      rw [splitWords_gap blank, splitWords_unclosed unclosed, byteLength_append, Nat.add_assoc]
  | @word offset front word tail _ words front_blank is_word _ induction =>
      obtain ⟨before, rfl, fails⟩ := induction same
      refine ⟨front ++ (word ++ before), by simp, ?_⟩
      rw [splitWords_gap front_blank, splitWords_isWord is_word, fails]
      simp [Except.map, Nat.add_assoc]

/-! ### Quotes -/

/-- Taking words off leaves the number of quotes even, or odd. -/
theorem even_quotes_iff (splits : Splits offset text words rest) :
    Even (text.count '"') ↔ Even (rest.count '"') := by
  induction splits with
  | stop => rfl
  | word blank is_word _ induction =>
      rw [List.count_append, List.count_append, count_quotes_blank blank, Nat.zero_add,
        Nat.even_add, iff_true_left is_word.even_quotes, induction]

/-! ### Places of words -/

/-- A word stands where its offset says. -/
theorem place (splits : Splits offset text words rest) (member : part ∈ words) :
    ∃ before after, text = before ++ (part.text ++ after) ∧
      part.start = offset + byteLength before ∧ IsWord part.text after := by
  induction splits with
  | stop => cases member
  | @word offset gap word tail _ words _ is_word _ induction =>
      rcases List.mem_cons.mp member with rfl | member
      · exact ⟨gap, tail, rfl, rfl, is_word⟩
      · obtain ⟨before, after, rfl, start, is_part⟩ := induction member
        refine ⟨gap ++ (word ++ before), after, by simp, ?_, is_part⟩
        rw [start, byteLength_append, byteLength_append, Nat.add_assoc, Nat.add_assoc]

theorem offset_le (splits : Splits offset text words rest) (member : part ∈ words) :
    offset ≤ part.start := by
  obtain ⟨before, after, -, start, -⟩ := splits.place member
  omega

/-- Words follow each other. -/
theorem ordered (splits : Splits offset text words rest) :
    words.Pairwise fun first second => first.span.stop ≤ second.span.start := by
  induction splits with
  | stop => exact .nil
  | word _ _ splits induction =>
      exact List.pairwise_cons.mpr ⟨fun part member => splits.offset_le member, induction⟩

/-- What stands outside words is blank, apart from the rest. -/
theorem blank_outside (splits : Splits offset text words rest)
    (rest_blank : ∀ c ∈ rest, isBlank c = true) {before after : List Char} {c : Char}
    (split : text = before ++ c :: after)
    (outside : ∀ part ∈ words, offset + byteLength before < part.span.start ∨
      part.span.stop ≤ offset + byteLength before) : isBlank c = true := by
  induction splits generalizing before with
  | stop => exact rest_blank c (split ▸ by simp)
  | @word offset gap word tail _ words blank _ _ induction =>
      rcases append_eq_append_cons split with ⟨later, rfl, -⟩ | ⟨front, behind_gap, rfl⟩
      · exact blank c (by simp)
      · rcases append_eq_append_cons behind_gap with ⟨later, rfl, -⟩ | ⟨front, rfl, rfl⟩
        · -- A character of the word is not outside of it.
          have inside := outside _ List.mem_cons_self
          have size := c.utf8Size_pos
          simp only [Word.span, byteLength_append, byteLength] at inside
          omega
        · refine induction rest_blank rfl fun part member => ?_
          have apart := outside part (List.mem_cons_of_mem _ member)
          simp only [byteLength_append] at apart
          omega

end Splits

end Gamebook.Code
