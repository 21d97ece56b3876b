import Gamebook.Proofs.Code.Words
import Mathlib.Tactic

/-!
# The grammar of a fragment

A word spells a token or is faulty, and if it is faulty it is so in one way.  A fragment in which
all quotes are closed has the tokens that its words spell, in order, or the fault of its first word
that is faulty.  Spans select the characters of words.
-/

namespace Gamebook.Code

open Text (byteLength byteLength_append byteLength_pos byteLength_toList digitsValue isBlank)

/-! ## What words spell -/

/-- The token that a word spells. -/
inductive Spells : (word : List Char) → TokenKind → Prop
  | string {inner : List Char} (closed : '"' ∉ inner) :
      Spells ('"' :: (inner ++ ['"'])) (.string (String.ofList inner))
  | int {digits : List Char} (nonempty : digits ≠ []) (all : ∀ c ∈ digits, c.isDigit = true)
      (small : digitsValue digits ≤ maxInt) : Spells digits (.int (digitsValue digits))
  | label {name : List Char} (nonempty : name ≠ []) (bare : ∀ c ∈ name, IsBare c) :
      Spells ('#' :: name) (.label (String.ofList name))
  | identifier {name : List Char} (nonempty : name ≠ []) (bare : ∀ c ∈ name, IsBare c)
      (no_int : ∃ c ∈ name, c.isDigit = false) (no_label : name.head? ≠ some '#') :
      Spells name (.identifier (String.ofList name))

/-- What is wrong with a word. -/
inductive Faulty : (word : List Char) → LexCause → Prop
  /-- It has a quote, but does not start with one. -/
  | quote {word : List Char} (inside : '"' ∈ word) (first : word.head? ≠ some '"') :
      Faulty word (.invalidToken (String.ofList word))
  /-- It is a number that is too large. -/
  | digits {word : List Char} (all : ∀ c ∈ word, c.isDigit = true)
      (large : maxInt < digitsValue word) : Faulty word (.integerOverflow (String.ofList word))
  /-- It declares a label without a name. -/
  | hash : Faulty ['#'] .emptyLabel

variable {word rest : List Char} {kind : TokenKind} {cause : LexCause}

theorem isBare_of_isDigit {c : Char} (digit : c.isDigit = true) : IsBare c := by
  have bounds : 48 ≤ c.toNat ∧ c.toNat ≤ 57 := Char.isDigit_iff_toNat.mp digit
  constructor
  · rintro rfl
    cases digit
  · simp only [isBlank, Bool.or_eq_false_iff, Bool.and_eq_false_iff, decide_eq_false_iff_not,
      beq_eq_false_iff_ne]
    omega

theorem isBare_hash : IsBare '#' := by decide

theorem not_quoted (first : word.head? ≠ some '"') :
    ¬(2 ≤ word.length ∧ word.head? = some '"' ∧ word.getLast? = some '"') :=
  fun quoted => first quoted.2.1

theorem head_bare (bare : ∀ c ∈ word, IsBare c) : word.head? ≠ some '"' := by
  intro quote
  exact (bare '"' (List.mem_of_mem_head? quote)).1 rfl

theorem not_any_of_bare (bare : ∀ c ∈ word, IsBare c) :
    ¬(word.any fun c => c = '"' || isBlank c) = true := by
  simpa [IsBare] using bare

theorem Spells.classify_eq (spells : Spells word kind) : classify word = .ok kind := by
  cases spells with
  | @string inner closed =>
      have last : ('"' :: (inner ++ ['"'])).getLast? = some '"' := by
        rw [← List.cons_append, List.getLast?_concat]
      simp [classify, last]
  | int nonempty all small =>
      have bare : ∀ c ∈ word, IsBare c := fun c member => isBare_of_isDigit (all c member)
      rw [classify.eq_def, if_neg (not_quoted (head_bare bare)), if_neg (not_any_of_bare bare),
        if_pos (List.all_eq_true.mpr all), if_pos small]
  | @label name nonempty bare =>
      have all_bare := List.forall_mem_cons.mpr ⟨isBare_hash, bare⟩
      rw [classify.eq_def, if_neg (not_quoted (head_bare all_bare)), if_neg (not_any_of_bare all_bare),
        if_neg (by simp)]
      split <;> simp_all
  | identifier nonempty bare no_int no_label =>
      rw [classify.eq_def, if_neg (not_quoted (head_bare bare)), if_neg (not_any_of_bare bare),
        if_neg (by simpa using no_int)]
      split <;> simp_all

theorem Faulty.classify_eq (faulty : Faulty word cause) : classify word = .error cause := by
  cases faulty with
  | quote inside first =>
      have any : (word.any fun c => c = '"' || isBlank c) = true :=
        List.any_eq_true.mpr ⟨'"', inside, rfl⟩
      rw [classify.eq_def, if_neg (not_quoted first), if_pos any]
  | digits all large =>
      have bare : ∀ c ∈ word, IsBare c := fun c member => isBare_of_isDigit (all c member)
      rw [classify.eq_def, if_neg (not_quoted (head_bare bare)), if_neg (not_any_of_bare bare),
        if_pos (List.all_eq_true.mpr all), if_neg (Nat.not_le.mpr large)]
  | hash => rfl

/-- A word spells a token or is faulty. -/
theorem IsWord.spells_or_faulty (is_word : IsWord word rest) :
    (∃ kind, Spells word kind) ∨ ∃ cause, Faulty word cause := by
  cases is_word with
  | plain nonempty bare ends =>
      by_cases all : ∀ c ∈ word, c.isDigit = true
      · by_cases small : digitsValue word ≤ maxInt
        · exact Or.inl ⟨_, .int nonempty all small⟩
        · exact Or.inr ⟨_, .digits all (Nat.lt_of_not_le small)⟩
      · have no_int : ∃ c ∈ word, c.isDigit = false := by simpa using all
        by_cases hash : word.head? = some '#'
        · obtain ⟨name, rfl⟩ := List.head?_eq_some_iff.mp hash
          have name_bare := (List.forall_mem_cons.mp bare).2
          cases name with
          | nil => exact Or.inr ⟨_, .hash⟩
          | cons c others => exact Or.inl ⟨_, .label (List.cons_ne_nil c others) name_bare⟩
        · exact Or.inl ⟨_, .identifier nonempty bare no_int hash⟩
  | @quoted front inner _ bare closed =>
      cases front with
      | nil => exact Or.inl ⟨_, .string closed⟩
      | cons c front =>
          refine Or.inr ⟨_, .quote (by simp) ?_⟩
          simpa using (bare c List.mem_cons_self).1

theorem IsWord.classify_eq_ok_iff (is_word : IsWord word rest) :
    classify word = .ok kind ↔ Spells word kind := by
  refine ⟨fun same => ?_, Spells.classify_eq⟩
  rcases is_word.spells_or_faulty with ⟨other, spells⟩ | ⟨cause, faulty⟩
  · cases spells.classify_eq.symm.trans same
    exact spells
  · cases faulty.classify_eq.symm.trans same

theorem IsWord.classify_eq_error_iff (is_word : IsWord word rest) :
    classify word = .error cause ↔ Faulty word cause := by
  refine ⟨fun same => ?_, Faulty.classify_eq⟩
  rcases is_word.spells_or_faulty with ⟨kind, spells⟩ | ⟨other, faulty⟩
  · cases spells.classify_eq.symm.trans same
  · cases faulty.classify_eq.symm.trans same
    exact faulty

/-! ## What fragments spell -/

/-- The words of a fragment in which every quote is closed. -/
def MadeOf (code : String) (words : List Word) : Prop :=
  ∃ gap, (∀ c ∈ gap, isBlank c = true) ∧ Splits 0 code.toList words gap

/-- A token that stands on a word and is what it spells. -/
def Word.Yields (word : Word) (token : Token) : Prop :=
  Spells word.text token.kind ∧ token.span = word.span

/-- A word that is not faulty. -/
def Word.Sound (word : Word) : Prop :=
  ∀ cause, ¬Faulty word.text cause

variable {code : String} {words : List Word} {tokens : List Token} {token : Token}
  {error : LexError}

theorem Word.token_eq_ok_iff {word : Word} (is_word : IsWord word.text rest) :
    word.token = .ok token ↔ word.Yields token := by
  obtain ⟨kind, span⟩ := token
  rw [Word.token, Word.Yields, ← is_word.classify_eq_ok_iff]
  cases classify word.text with
  | ok other => simp [eq_comm]
  | error cause => simp

theorem Word.token_eq_error_iff {word : Word} (is_word : IsWord word.text rest) :
    word.token = .error error ↔ Faulty word.text error.cause ∧ error.span = word.span := by
  obtain ⟨cause, span⟩ := error
  rw [Word.token, ← is_word.classify_eq_error_iff]
  cases classify word.text with
  | ok other => simp
  | error cause => simp [eq_comm]

namespace MadeOf

theorem isWord (made : MadeOf code words) {word : Word} (member : word ∈ words) :
    ∃ rest, IsWord word.text rest := by
  obtain ⟨gap, blank, splits⟩ := made
  obtain ⟨before, after, -, -, is_word⟩ := splits.place member
  exact ⟨after, is_word⟩

theorem tokenize_eq (made : MadeOf code words) : tokenize code = words.mapM Word.token := by
  obtain ⟨gap, blank, splits⟩ := made
  rw [tokenize, splits.splitWords_eq blank]
  rfl

/-- A fragment is made of words in one way. -/
theorem unique (made : MadeOf code words) {others : List Word} (other : MadeOf code others) :
    others = words := by
  obtain ⟨gap, blank, splits⟩ := made
  obtain ⟨other_gap, other_blank, other_splits⟩ := other
  exact Except.ok.inj
    ((other_splits.splitWords_eq other_blank).symm.trans (splits.splitWords_eq blank))

theorem tokenize_eq_ok_iff (made : MadeOf code words) :
    tokenize code = .ok tokens ↔ List.Forall₂ Word.Yields words tokens := by
  rw [made.tokenize_eq, mapM_eq_ok_iff]
  refine related_congr fun word member token => ?_
  obtain ⟨rest, is_word⟩ := made.isWord member
  exact Word.token_eq_ok_iff is_word

theorem exists_token_iff (made : MadeOf code words) {word : Word} (member : word ∈ words) :
    (∃ token, word.token = .ok token) ↔ word.Sound := by
  obtain ⟨rest, is_word⟩ := made.isWord member
  cases result : word.token with
  | ok token =>
      refine ⟨fun _ cause faulty => ?_, fun _ => ⟨token, rfl⟩⟩
      cases (Word.token_eq_ok_iff is_word).mp result |>.1.classify_eq.symm.trans faulty.classify_eq
  | error error =>
      obtain ⟨faulty, -⟩ := (Word.token_eq_error_iff is_word).mp result
      exact ⟨by simp, fun sound => absurd faulty (sound error.cause)⟩

theorem tokenize_eq_error_iff (made : MadeOf code words) :
    tokenize code = .error error ↔ ∃ before word after, words = before ++ word :: after ∧
      (∀ other ∈ before, other.Sound) ∧ Faulty word.text error.cause ∧ error.span = word.span := by
  rw [made.tokenize_eq, mapM_eq_error_iff]
  refine exists₃_congr fun before word after => and_congr_right fun split => ?_
  obtain ⟨rest, is_word⟩ := made.isWord (split ▸ List.mem_append_right _ List.mem_cons_self)
  rw [Word.token_eq_error_iff is_word]
  refine and_congr_left' (forall₂_congr fun other member => ?_)
  exact made.exists_token_iff (split ▸ List.mem_append_left _ member)

/-- A fragment is accepted if none of its words is faulty. -/
theorem exists_tokens_iff (made : MadeOf code words) :
    (∃ tokens, tokenize code = .ok tokens) ↔ ∀ word ∈ words, word.Sound := by
  rw [made.tokenize_eq, exists_mapM_iff]
  exact forall₂_congr fun word member => made.exists_token_iff member

theorem selects (made : MadeOf code words) {word : Word} (member : word ∈ words) :
    word.span.Selects code word.text := by
  obtain ⟨gap, blank, splits⟩ := made
  obtain ⟨before, after, split, start, -⟩ := splits.place member
  rw [Word.span, start, Nat.zero_add]
  exact Text.selects_of_split split

theorem span_nonempty (made : MadeOf code words) {word : Word} (member : word ∈ words) :
    word.span.start < word.span.stop := by
  obtain ⟨rest, is_word⟩ := made.isWord member
  exact Nat.lt_add_of_pos_right (byteLength_pos is_word.nonempty)

end MadeOf

/-- Tokens stand on a fragment in order.  Their spans select what spells them, and everything else is
blank. -/
structure Stand (code : String) (tokens : List Token) : Prop where
  nonempty : ∀ token ∈ tokens, token.span.start < token.span.stop
  ordered : tokens.Pairwise fun first second => first.span.stop ≤ second.span.start
  spelled : ∀ token ∈ tokens, ∃ text, token.span.Selects code text ∧ Spells text token.kind
  blank : ∀ before c after, code.toList = before ++ c :: after →
    (∀ token ∈ tokens,
      byteLength before < token.span.start ∨ token.span.stop ≤ byteLength before) →
        isBlank c = true

theorem MadeOf.stand (made : MadeOf code words) (each : List.Forall₂ Word.Yields words tokens) :
    Stand code tokens := by
  have spans : tokens.map Token.span = words.map Word.span :=
    map_eq_of_forall₂ each fun word token yields => yields.2
  refine ⟨fun token member => ?_, ?_, fun token member => ?_, ?_⟩
  · obtain ⟨word, among, -, same⟩ := exists_left_of_forall₂ each member
    exact same ▸ made.span_nonempty among
  · obtain ⟨gap, blank, splits⟩ := made
    have ordered : (words.map Word.span).Pairwise fun first second => first.stop ≤ second.start :=
      List.pairwise_map.mpr splits.ordered
    rw [← spans] at ordered
    exact List.pairwise_map.mp ordered
  · obtain ⟨word, among, spells, same⟩ := exists_left_of_forall₂ each member
    exact ⟨word.text, same ▸ made.selects among, spells⟩
  · intro before c after split outside
    obtain ⟨gap, blank, splits⟩ := made
    refine splits.blank_outside blank split fun word among => ?_
    have listed : word.span ∈ tokens.map Token.span := spans ▸ List.mem_map_of_mem among
    obtain ⟨token, member, same⟩ := List.mem_map.mp listed
    rw [← same, Nat.zero_add]
    exact outside token member

/-- A fragment that ends with a word whose quote is not closed, behind other words. -/
structure LeftOpen (code : String) (before last : List Char) : Prop where
  whole : code.toList = before ++ last
  unclosed : Unclosed last
  splits : ∃ words gap, (∀ c ∈ gap, isBlank c = true) ∧ Splits 0 code.toList words (gap ++ last)

/-- A fragment is made of words if its number of quotes is even, and otherwise it is left open. -/
theorem made_or_left_open (code : String) :
    (Even (code.toList.count '"') ∧ ∃ words, MadeOf code words) ∨
      (Odd (code.toList.count '"') ∧ ∃ before last, LeftOpen code before last ∧
        tokenize code =
          .error ⟨.unterminatedString, ⟨byteLength before, code.utf8ByteSize⟩⟩) := by
  obtain ⟨words, gap, last, splits, blank, rfl | unclosed⟩ := exists_splits 0 code.toList
  · rw [List.append_nil] at splits
    refine Or.inl ⟨splits.even_quotes_iff.mpr ?_, words, gap, blank, splits⟩
    simp [count_quotes_blank blank]
  · obtain ⟨before, whole, fails⟩ := splits.splitWords_eq_error blank unclosed
    refine Or.inr ⟨?_, before, last, ⟨whole, unclosed, words, gap, blank, splits⟩, ?_⟩
    · rw [← Nat.not_even_iff_odd, splits.even_quotes_iff, List.count_append,
        count_quotes_blank blank, Nat.zero_add, Nat.not_even_iff_odd]
      exact unclosed.odd_quotes
    · rw [tokenize, fails, byteLength_toList, Nat.zero_add, Nat.zero_add]
      rfl

theorem stand_of_tokenize (accepted : tokenize code = .ok tokens) : Stand code tokens := by
  rcases made_or_left_open code with ⟨-, words, made⟩ | ⟨-, before, last, -, fails⟩
  · exact made.stand (made.tokenize_eq_ok_iff.mp accepted)
  · cases fails.symm.trans accepted

/-- The tokenizer accepts exactly its grammar.  A fragment with an odd number of quotes is rejected,
whatever else is wrong, with the bytes from the start of the word whose quote is not closed to the
end.  Any other fragment is made of words in one way.  It is accepted if no word is faulty, with the
tokens that the words spell, and otherwise rejected with the fault of the first faulty word.  Tokens
stand on the fragment in order with nothing but blank characters outside of them, and the span of an
error selects the text at fault. -/
theorem tokenize_grammar (code : String) :
    (Odd (code.toList.count '"') → ∃ before last, LeftOpen code before last ∧
      tokenize code = .error ⟨.unterminatedString, ⟨byteLength before, code.utf8ByteSize⟩⟩) ∧
    (Even (code.toList.count '"') → ∃ words, MadeOf code words ∧
      (∀ others, MadeOf code others → others = words) ∧
      ((∃ tokens, tokenize code = .ok tokens) ↔ ∀ word ∈ words, word.Sound) ∧
      (∀ tokens, tokenize code = .ok tokens ↔ List.Forall₂ Word.Yields words tokens) ∧
      ∀ error, tokenize code = .error error ↔ ∃ before word after,
        words = before ++ word :: after ∧ (∀ other ∈ before, other.Sound) ∧
          Faulty word.text error.cause ∧ error.span = word.span) ∧
    (∀ tokens, tokenize code = .ok tokens → Stand code tokens) ∧
    ∀ error, tokenize code = .error error → ∃ text, error.span.Selects code text ∧
      (Faulty text error.cause ∨ (Unclosed text ∧ error.cause = .unterminatedString)) := by
  rcases made_or_left_open code with ⟨even, words, made⟩ | ⟨odd, before, last, opened, fails⟩
  · refine ⟨fun odd => absurd even (Nat.not_even_iff_odd.mpr odd), fun _ => ⟨words, made,
      fun others other => made.unique other, made.exists_tokens_iff,
      fun tokens => made.tokenize_eq_ok_iff, fun error => made.tokenize_eq_error_iff⟩,
      fun tokens accepted => made.stand (made.tokenize_eq_ok_iff.mp accepted), ?_⟩
    intro error rejected
    obtain ⟨before, word, after, split, -, faulty, same⟩ := made.tokenize_eq_error_iff.mp rejected
    have among : word ∈ words := split ▸ List.mem_append_right _ List.mem_cons_self
    exact ⟨word.text, same ▸ made.selects among, Or.inl faulty⟩
  · refine ⟨fun _ => ⟨before, last, opened, fails⟩,
      fun even => absurd even (Nat.not_even_iff_odd.mpr odd), ?_, ?_⟩
    · intro tokens accepted
      cases fails.symm.trans accepted
    · intro error rejected
      cases fails.symm.trans rejected
      refine ⟨last, ?_, Or.inr ⟨opened.unclosed, rfl⟩⟩
      have whole : code.toList = before ++ (last ++ []) := by rw [opened.whole, List.append_nil]
      rw [← byteLength_toList, opened.whole, byteLength_append]
      exact Text.selects_of_split whole

theorem tokenize_grammar_quotes :
    (∃ before last, LeftOpen "1 # a\"b" before last) ∧
      ∃ words, MadeOf "\"a\"b #" words ∧ ¬∀ word ∈ words, word.Sound := by
  obtain ⟨opened, -, -⟩ := tokenize_grammar "1 # a\"b"
  obtain ⟨-, closed, -⟩ := tokenize_grammar "\"a\"b #"
  obtain ⟨before, last, left_open, -⟩ := opened (by decide)
  obtain ⟨words, made, -, accepted, -⟩ := closed (by decide)
  refine ⟨⟨before, last, left_open⟩, words, made, fun sound => ?_⟩
  obtain ⟨tokens, result⟩ := accepted.mpr sound
  have rejected : tokenize "\"a\"b #" = .error ⟨.emptyLabel, ⟨5, 6⟩⟩ := by decide +kernel
  cases rejected.symm.trans result

end Gamebook.Code
