import Gamebook.Proofs.Code.Grammar

/-!
# Printing tokens

Tokens that could have been read are printed with blank characters between them, whichever these are,
and reading what was printed gives the tokens back.  All tokens that are read are of this kind.
-/

namespace Gamebook.Code

open Text (byteLength digitsValue isBlank)

namespace TokenKind

/-- A token as it is written. -/
def print : TokenKind → String
  | string value => "\"" ++ value ++ "\""
  | int value => toString value
  | identifier name => name
  | label name => "#" ++ name

/-- Whether a token is read as itself when it is written. -/
def Printable : TokenKind → Prop
  | string value => '"' ∉ value.toList
  | int value => value ≤ maxInt
  | identifier name =>
    name ≠ "" ∧ (∀ c ∈ name.toList, IsBare c) ∧ (∃ c ∈ name.toList, c.isDigit = false) ∧
      name.toList.head? ≠ some '#'
  | label name => name ≠ "" ∧ ∀ c ∈ name.toList, IsBare c

end TokenKind

/-- Tokens in a row with blank characters between them. -/
inductive Written : List TokenKind → String → Prop
  | nil : Written [] ""
  | single (kind : TokenKind) : Written [kind] kind.print
  | cons (kind : TokenKind) {gap text : String} {next : TokenKind} {others : List TokenKind}
      (nonempty : gap ≠ "") (blank : ∀ c ∈ gap.toList, isBlank c = true)
      (written : Written (next :: others) text) :
      Written (kind :: next :: others) (kind.print ++ (gap ++ text))

variable {word rest gap : List Char} {text code : String} {kind : TokenKind}
  {kinds : List TokenKind} {words : List Word} {tokens : List Token} {offset : Nat}

/-! ## Printable tokens -/

theorem digitsValue_toDigits (value : Nat) : digitsValue (Nat.toDigits 10 value) = value := by
  have same (digits : List Char) : digitsValue digits = Nat.ofDigitChars 10 digits 0 := by
    simp only [digitsValue, Nat.ofDigitChars, Text.digitValue, Nat.mul_comm 10]
  rw [same, Nat.ofDigitChars_ten_toDigits]

theorem Spells.printable (spells : Spells word kind) : kind.Printable := by
  cases spells with
  | string closed => simpa [TokenKind.Printable] using closed
  | int nonempty all small => exact small
  | label nonempty bare => simpa [TokenKind.Printable, nonempty] using bare
  | identifier nonempty bare no_int no_label =>
      simpa [TokenKind.Printable, nonempty, no_label] using And.intro bare no_int

theorem TokenKind.Printable.spells (printable : kind.Printable) :
    Spells kind.print.toList kind := by
  cases kind with
  | string value =>
      simpa [TokenKind.print] using Spells.string printable
  | int value =>
      have small : digitsValue (Nat.toDigits 10 value) ≤ maxInt :=
        (digitsValue_toDigits value).symm ▸ printable
      have spells := Spells.int Nat.toDigits_ne_nil
        (fun c member => Nat.isDigit_of_mem_toDigits (by decide) (by decide) member) small
      rw [digitsValue_toDigits] at spells
      simpa [TokenKind.print] using spells
  | identifier name =>
      obtain ⟨nonempty, bare, no_int, no_label⟩ := printable
      have spells := Spells.identifier (by simpa using nonempty) bare no_int no_label
      rwa [String.ofList_toList] at spells
  | label name =>
      obtain ⟨nonempty, bare⟩ := printable
      simpa [TokenKind.print] using Spells.label (by simpa using nonempty) bare

/-- In front of a blank character or the end of a text, what spells a token is a word. -/
theorem Spells.isWord (spells : Spells word kind) (ends : ∀ c ∈ rest.head?, isBlank c = true) :
    IsWord word rest := by
  cases spells with
  | string closed =>
      have bare : ∀ c ∈ ([] : List Char), IsBare c := by simp
      exact .quoted bare closed
  | int nonempty all small =>
      exact .plain nonempty (fun c member => isBare_of_isDigit (all c member)) ends
  | label nonempty bare =>
      exact .plain (List.cons_ne_nil _ _) (List.forall_mem_cons.mpr ⟨isBare_hash, bare⟩) ends
  | identifier nonempty bare no_int no_label => exact .plain nonempty bare ends

/-! ## Written tokens -/

/-- Blank characters and written tokens are made of words that spell the tokens. -/
theorem Written.exists_splits (written : Written kinds text)
    (printable : ∀ kind ∈ kinds, kind.Printable) (offset : Nat) {gap : List Char}
    (blank : ∀ c ∈ gap, isBlank c = true) :
    ∃ words rest, Splits offset (gap ++ text.toList) words rest ∧
      (∀ c ∈ rest, isBlank c = true) ∧
        List.Forall₂ (fun word kind => Spells word.text kind) words kinds := by
  induction written generalizing gap offset with
  | nil => exact ⟨[], gap, by simpa using Splits.stop, blank, .nil⟩
  | single kind =>
      have spells := (printable kind List.mem_cons_self).spells
      have splits : Splits offset (gap ++ (kind.print.toList ++ [])) _ [] :=
        .word blank (spells.isWord (by simp)) .stop
      rw [List.append_nil] at splits
      exact ⟨_, [], splits, by simp, .cons spells .nil⟩
  | @cons kind between text next others nonempty between_blank written induction =>
      obtain ⟨first, others⟩ := List.forall_mem_cons.mp printable
      have spells := first.spells
      obtain ⟨words, rest, splits, rest_blank, each⟩ := induction others
        (offset + byteLength _ + byteLength kind.print.toList) between_blank
      have ends : ∀ c ∈ (between.toList ++ text.toList).head?, isBlank c = true := by
        have listed : between.toList ≠ [] := by simpa using nonempty
        rw [List.head?_append_of_ne_nil _ listed]
        exact fun c first => between_blank c (List.mem_of_mem_head? first)
      rw [String.toList_append, String.toList_append]
      exact ⟨_, rest, .word blank (spells.isWord ends) splits, rest_blank, .cons spells each⟩

/-- Printed tokens are read as themselves. -/
theorem Written.kinds_eq (written : Written kinds text)
    (printable : ∀ kind ∈ kinds, kind.Printable) :
    (tokenize text).map (List.map Token.kind) = .ok kinds := by
  obtain ⟨words, rest, splits, blank, each⟩ :=
    written.exists_splits printable 0 (List.forall_mem_nil _)
  have made : MadeOf text words := ⟨rest, blank, splits⟩
  have yielded : ∃ tokens, List.Forall₂ Word.Yields words tokens ∧ tokens.map Token.kind = kinds := by
    clear splits made printable written
    induction each with
    | nil => exact ⟨[], .nil, rfl⟩
    | @cons word kind _ _ spells _ induction =>
        obtain ⟨tokens, yields, same⟩ := induction
        exact ⟨⟨kind, word.span⟩ :: tokens, .cons ⟨spells, rfl⟩ yields, by rw [List.map_cons, same]⟩
  obtain ⟨tokens, yields, rfl⟩ := yielded
  rw [made.tokenize_eq_ok_iff.mpr yields]
  rfl

/-- Tokens may be written with one space between them. -/
theorem written_spaced (kinds : List TokenKind) :
    Written kinds (" ".intercalate (kinds.map TokenKind.print)) := by
  induction kinds with
  | nil => exact .nil
  | cons kind kinds induction =>
      cases kinds with
      | nil =>
          rw [List.map_singleton, String.intercalate_singleton]
          exact .single kind
      | cons next others =>
          rw [List.map_cons, List.map_cons, String.intercalate_cons_cons, String.append_assoc]
          exact .cons kind (by decide) (by simp [isBlank]) induction

/-- Printing tokens and reading them again gives the tokens back, whatever blank characters are
between them, such as one space each.  All tokens that are read can be printed, so that reading
undoes the printing of what was read. -/
theorem printed_tokens_return :
    (∀ kinds text, (∀ kind ∈ kinds, kind.Printable) → Written kinds text →
      (tokenize text).map (List.map Token.kind) = .ok kinds) ∧
    (∀ kinds, Written kinds (" ".intercalate (kinds.map TokenKind.print))) ∧
    ∀ code tokens, tokenize code = .ok tokens →
      (∀ token ∈ tokens, token.kind.Printable) ∧
        ∀ text, Written (tokens.map Token.kind) text →
          (tokenize text).map (List.map Token.kind) = .ok (tokens.map Token.kind) := by
  refine ⟨fun kinds text printable written => written.kinds_eq printable, written_spaced,
    fun code tokens accepted => ?_⟩
  have printable : ∀ token ∈ tokens, token.kind.Printable := fun token member => by
    obtain ⟨text, -, spells⟩ := (stand_of_tokenize accepted).spelled token member
    exact spells.printable
  exact ⟨printable, fun text written => written.kinds_eq (List.forall_mem_map.mpr printable)⟩

/-- One token of each kind. -/
def mixedKinds : List TokenKind :=
  [.string "gold # coins", .identifier "+", .int 5, .label "#x"]

theorem printed_tokens_return_mixed :
    (tokenize "\"gold # coins\"\t+\n 5 ##x").map (List.map Token.kind) = .ok mixedKinds := by
  have printable : ∀ kind ∈ mixedKinds, kind.Printable := by
    simp [mixedKinds, TokenKind.Printable, IsBare, isBlank, maxInt]
  have written : Written mixedKinds (TokenKind.print (.string "gold # coins") ++ ("\t" ++
      (TokenKind.print (.identifier "+") ++ ("\n " ++
        (TokenKind.print (.int 5) ++ (" " ++ TokenKind.print (.label "#x"))))))) :=
    .cons _ (by decide) (by simp [isBlank]) <|
      .cons _ (by decide) (by simp [isBlank]) <|
        .cons _ (by decide) (by simp [isBlank]) (.single _)
  exact printed_tokens_return.1 _ _ printable written

end Gamebook.Code
