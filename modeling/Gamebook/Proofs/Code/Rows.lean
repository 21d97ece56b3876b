import Gamebook.Code.Fragment
import Gamebook.Proofs.Code.Grammar
import Gamebook.Proofs.Tables

/-!
# Fragments in a row

Two fragments with blank characters between them have the words of the first one, and then those of
the second one further on.  As a fragment they have the instructions of both, and the labels of
both, of which those of the second one stand for offsets behind the instructions of the first one.
-/

namespace Gamebook

/-- A span that stands further on in a text. -/
def Text.Span.move (distance : Nat) (span : Text.Span) : Text.Span :=
  ⟨distance + span.start, distance + span.stop⟩

namespace Code

open Text (byteLength byteLength_append byteLength_toList isBlank)

/-- A word that stands further on in a fragment. -/
def Word.move (distance : Nat) (word : Word) : Word :=
  { word with start := distance + word.start }

/-- A token that stands further on in a fragment. -/
def Token.move (distance : Nat) (token : Token) : Token :=
  { token with span := token.span.move distance }

variable {text word rest gap later last : List Char} {offset : Nat} {words others : List Word}

/-! ## Words of fragments in a row -/

theorem Word.span_move (distance : Nat) (word : Word) :
    (word.move distance).span = word.span.move distance := by
  simp only [Word.move, Word.span, Text.Span.move, Nat.add_assoc]

theorem Word.Yields.move {word : Word} {token : Token} (yields : word.Yields token)
    (distance : Nat) : (word.move distance).Yields (token.move distance) := by
  refine ⟨yields.1, ?_⟩
  rw [Word.span_move, ← yields.2, Token.move]

/-- A word stays a word if blank characters and more follow the text. -/
theorem IsWord.append (is_word : IsWord word rest) (nonempty : gap ≠ [])
    (blank : ∀ c ∈ gap, isBlank c = true) (later : List Char) :
    IsWord word (rest ++ (gap ++ later)) := by
  cases is_word with
  | quoted bare closed => exact .quoted bare closed
  | plain word_nonempty bare ends =>
      refine .plain word_nonempty bare fun c first => ?_
      cases rest with
      | cons head tail => exact ends c first
      | nil =>
          rw [List.nil_append, List.head?_append_of_ne_nil _ nonempty] at first
          exact blank c (List.mem_of_mem_head? first)

namespace Splits

/-- The words of a text do not depend on where it starts. -/
theorem move (splits : Splits offset text words rest) (distance : Nat) :
    Splits (distance + offset) text (words.map (Word.move distance)) rest := by
  induction splits with
  | stop => exact .stop
  | @word offset gap word tail rest words blank is_word splits induction =>
      rw [List.map_cons, Word.move, ← Nat.add_assoc distance offset]
      refine .word blank is_word ?_
      rwa [← Nat.add_assoc distance, ← Nat.add_assoc distance offset] at induction

/-- Blank characters in front of a text are no words. -/
theorem behind_gap (blank : ∀ c ∈ gap, isBlank c = true)
    (splits : Splits (offset + byteLength gap) text words rest)
    (rest_blank : ∀ c ∈ rest, isBlank c = true) :
    ∃ last, (∀ c ∈ last, isBlank c = true) ∧ Splits offset (gap ++ text) words last := by
  cases splits with
  | stop => exact ⟨gap ++ text, List.forall_mem_append.mpr ⟨blank, rest_blank⟩, .stop⟩
  | @word _ front word tail _ words front_blank is_word splits =>
      refine ⟨rest, rest_blank, ?_⟩
      rw [← List.append_assoc, Nat.add_assoc offset, ← byteLength_append]
      refine .word (List.forall_mem_append.mpr ⟨blank, front_blank⟩) is_word ?_
      rwa [byteLength_append, ← Nat.add_assoc offset]

/-- Behind a text and blank characters the words of another text follow. -/
theorem append (splits : Splits offset text words rest)
    (rest_blank : ∀ c ∈ rest, isBlank c = true) (nonempty : gap ≠ [])
    (blank : ∀ c ∈ gap, isBlank c = true)
    (behind : Splits (offset + byteLength (text ++ gap)) later others last)
    (last_blank : ∀ c ∈ last, isBlank c = true) :
    ∃ last, (∀ c ∈ last, isBlank c = true) ∧
      Splits offset (text ++ (gap ++ later)) (words ++ others) last := by
  induction splits with
  | stop =>
      rw [← List.append_assoc, List.nil_append]
      exact behind_gap (List.forall_mem_append.mpr ⟨rest_blank, blank⟩) behind last_blank
  | @word offset front word tail rest words front_blank is_word splits induction =>
      simp only [List.append_assoc, byteLength_append, ← Nat.add_assoc] at behind induction ⊢
      obtain ⟨last, blank_last, splits⟩ := induction rest_blank behind
      exact ⟨last, blank_last, .word front_blank (is_word.append nonempty blank later) splits⟩

end Splits

section Rows

variable {first second gap : String} {tokens others : List Token}

/-- Fragments with blank characters between them have the words of both. -/
theorem MadeOf.append {words others : List Word} (made : MadeOf first words)
    (behind : MadeOf second others) (nonempty : gap ≠ "")
    (blank : ∀ c ∈ gap.toList, isBlank c = true) :
    MadeOf (first ++ gap ++ second)
      (words ++ others.map (Word.move (first ++ gap).utf8ByteSize)) := by
  have distance : (first ++ gap).utf8ByteSize = byteLength (first.toList ++ gap.toList) := by
    rw [← String.toList_append, byteLength_toList]
  obtain ⟨rest, rest_blank, splits⟩ := made
  obtain ⟨last, last_blank, later⟩ := behind
  have moved := later.move (first ++ gap).utf8ByteSize
  rw [Nat.add_zero, ← Nat.zero_add (first ++ gap).utf8ByteSize, distance] at moved
  obtain ⟨final, final_blank, whole⟩ :=
    splits.append rest_blank (by simpa using nonempty) blank moved last_blank
  refine ⟨final, final_blank, ?_⟩
  rwa [Nat.zero_add, ← distance, ← List.append_assoc, ← String.toList_append,
    ← String.toList_append] at whole

theorem exists_madeOf (accepted : tokenize first = .ok tokens) : ∃ words, MadeOf first words := by
  rcases made_or_left_open first with ⟨-, made⟩ | ⟨-, before, last, -, fails⟩
  · exact made
  · cases fails.symm.trans accepted

/-- Fragments with blank characters between them have the tokens of both. -/
theorem tokenize_append (accepted : tokenize first = .ok tokens)
    (behind : tokenize second = .ok others) (nonempty : gap ≠ "")
    (blank : ∀ c ∈ gap.toList, isBlank c = true) :
    tokenize (first ++ gap ++ second) =
      .ok (tokens ++ others.map (Token.move (first ++ gap).utf8ByteSize)) := by
  obtain ⟨words, made⟩ := exists_madeOf accepted
  obtain ⟨later, made_behind⟩ := exists_madeOf behind
  refine (made.append made_behind nonempty blank).tokenize_eq_ok_iff.mpr (List.rel_append ?_ ?_)
  · exact made.tokenize_eq_ok_iff.mp accepted
  · rw [List.forall₂_map_left_iff, List.forall₂_map_right_iff]
    exact (made_behind.tokenize_eq_ok_iff.mp behind).imp fun word token yields => yields.move _

end Rows

/-! ## Instructions and labels of fragments in a row -/

namespace Fragment

/-- A fragment is another one and a third one behind it: the labels of the third one move with its
instructions. -/
structure IsRow (front back whole : Fragment) : Prop where
  instructions : whole.instructions = front.instructions ++ back.instructions
  label : ∀ name offset, whole.labels.get? name = some offset ↔
    front.labels.get? name = some offset ∨
      ∃ shift, back.labels.get? name = some shift ∧ offset = front.instructions.length + shift

/-- No label is declared in both of two fragments. -/
def Apart (front back : Fragment) : Prop :=
  ∀ name ∈ front.labels.keys, name ∉ back.labels.keys

variable {front back whole after : Fragment} {token : Token} {tokens : List Token}

theorem declares_iff {fragment : Fragment} {name : String} :
    name ∈ fragment.labels.keys ↔ ∃ offset, fragment.labels.get? name = some offset := by
  rw [← Table.contains_iff_mem_keys, Table.contains, Option.isSome_iff_exists]

theorem IsRow.mem_keys_iff (row : IsRow front back whole) {name : String} :
    name ∈ whole.labels.keys ↔ name ∈ front.labels.keys ∨ name ∈ back.labels.keys := by
  simp only [declares_iff, row.label, exists_or]
  refine or_congr_right ⟨?_, ?_⟩
  · rintro ⟨_, shift, found, -⟩
    exact ⟨shift, found⟩
  · rintro ⟨shift, found⟩
    exact ⟨_, shift, found, rfl⟩

theorem IsRow.unique (row : IsRow front back whole) (other : IsRow front back after) :
    whole = after := by
  obtain ⟨instructions, labels⟩ := whole
  obtain ⟨rfl, label⟩ := row
  obtain ⟨other_instructions, other_labels⟩ := after
  obtain ⟨rfl, other_label⟩ := other
  have same : labels = other_labels :=
    Table.eq_of_get? fun name offset => (label name offset).trans (other_label name offset).symm
  rw [same]

theorem Apart.left {middle middle_back : Fragment} (apart : front.Apart middle_back)
    (behind : IsRow middle back middle_back) : front.Apart middle :=
  fun name member among => apart name member (behind.mem_keys_iff.mpr (Or.inl among))

/-- No label is declared twice in three fragments in a row. -/
theorem IsRow.apart_iff {middle front_middle middle_back : Fragment}
    (row : IsRow front middle front_middle) (behind : IsRow middle back middle_back)
    (apart : middle.Apart back) :
    front.Apart middle_back ↔ front.Apart middle ∧ front_middle.Apart back := by
  simp only [Apart, row.mem_keys_iff, behind.mem_keys_iff] at apart ⊢
  grind

/-- It does not matter which two of three fragments are put in a row first. -/
theorem IsRow.assoc {middle front_middle middle_back : Fragment}
    (row : IsRow front middle front_middle) (longer : IsRow front_middle back whole)
    (behind : IsRow middle back middle_back) : IsRow front middle_back whole := by
  refine ⟨?_, fun name offset => ?_⟩
  · rw [longer.instructions, row.instructions, behind.instructions, List.append_assoc]
  · simp only [longer.label, row.label, behind.label, row.instructions, List.length_append,
      or_assoc]
    refine or_congr_right ⟨?_, ?_⟩
    · rintro (⟨shift, found, rfl⟩ | ⟨shift, found, rfl⟩)
      · exact ⟨shift, Or.inl found, rfl⟩
      · exact ⟨_, Or.inr ⟨shift, found, rfl⟩, Nat.add_assoc _ _ _⟩
    · rintro ⟨_, found | ⟨shift, found, rfl⟩, rfl⟩
      · exact Or.inl ⟨_, found, rfl⟩
      · exact Or.inr ⟨shift, found, (Nat.add_assoc _ _ _).symm⟩

theorem IsRow.start (front : Fragment) : IsRow front .empty front :=
  ⟨(List.append_nil _).symm, by simp [Fragment.empty]⟩

/-- A token declares a label, or puts in one instruction. -/
theorem add_cases (kind : TokenKind) : (∃ name, kind = .label name) ∨
    (∀ name, kind ≠ .label name) ∧ ∃ instruction, ∀ (fragment : Fragment) span,
      fragment.add ⟨kind, span⟩ =
        .ok { fragment with instructions := fragment.instructions ++ [instruction] } := by
  cases kind with
  | label name => exact Or.inl ⟨name, rfl⟩
  | _ => exact Or.inr ⟨nofun, _, fun fragment span => rfl⟩

/-- A label can be declared once. -/
theorem add_label {fragment : Fragment} {name : String} {span : Text.Span} :
    fragment.add ⟨.label name, span⟩ =
      if name ∈ fragment.labels.keys then .error ⟨.duplicateLabel name, span⟩
      else .ok { fragment with
        labels := fragment.labels.insert name fragment.instructions.length } := by
  simp only [add, Table.contains_iff_mem_keys]

theorem add_label_ok_iff {fragment : Fragment} {name : String} {span : Text.Span} :
    fragment.add ⟨.label name, span⟩ = .ok after ↔ name ∉ fragment.labels.keys ∧
      { fragment with labels := fragment.labels.insert name fragment.instructions.length } =
        after := by
  rw [add_label]
  split
  · rename_i declared
    simp [declared]
  · rename_i undeclared
    simp [undeclared]

/-- What a token does to the fragment behind another one it does to both, unless it declares a label
of the one in front. -/
theorem IsRow.add (row : IsRow front back whole) (added : back.add token = .ok after)
    (fresh : ∀ name ∈ front.labels.keys, token.kind ≠ .label name) (span : Text.Span) :
    ∃ extended, whole.add ⟨token.kind, span⟩ = .ok extended ∧ IsRow front after extended := by
  obtain ⟨kind, own⟩ := token
  rcases add_cases kind with ⟨name, rfl⟩ | ⟨-, instruction, adds⟩
  · obtain ⟨undeclared, rfl⟩ := add_label_ok_iff.mp added
    have outside : name ∉ front.labels.keys := fun member => fresh name member rfl
    have unknown : name ∉ whole.labels.keys := by simp [row.mem_keys_iff, outside, undeclared]
    refine ⟨_, add_label_ok_iff.mpr ⟨unknown, rfl⟩, row.instructions, fun other offset => ?_⟩
    rw [Table.get?_insert, Table.get?_insert]
    by_cases same : name = other
    · subst same
      have unbound : ∀ offset, front.labels.get? name ≠ some offset :=
        fun offset found => outside (declares_iff.mpr ⟨offset, found⟩)
      simp [unbound, row.instructions, eq_comm]
    · simp only [if_neg same]
      exact row.label other offset
  · rw [adds] at added
    cases added
    refine ⟨_, adds whole span, ?_, row.label⟩
    rw [row.instructions, List.append_assoc]

/-- A fragment goes on behind another one as it would alone, if it declares no label of that one. -/
theorem IsRow.addAll (row : IsRow front back whole)
    (added : tokens.foldlM Fragment.add back = .ok after)
    (fresh : ∀ name ∈ front.labels.keys, ∀ token ∈ tokens, token.kind ≠ .label name)
    (distance : Nat) :
    ∃ extended, (tokens.map (Token.move distance)).foldlM Fragment.add whole = .ok extended ∧
      IsRow front after extended := by
  induction tokens generalizing back whole with
  | nil =>
      cases added
      exact ⟨whole, rfl, row⟩
  | cons token rest induction =>
      obtain ⟨between, first, added⟩ := foldlM_cons_ok_iff.mp added
      obtain ⟨longer, moved, row⟩ := row.add first
        (fun name member => fresh name member token List.mem_cons_self) (token.span.move distance)
      obtain ⟨extended, moved_rest, row⟩ := induction row added
        fun name member other among => fresh name member other (List.mem_cons_of_mem _ among)
      exact ⟨extended, foldlM_cons_ok_iff.mpr ⟨longer, moved, moved_rest⟩, row⟩

/-- The labels of a fragment are those that its tokens declare. -/
theorem mem_keys_of_addAll (added : tokens.foldlM Fragment.add front = .ok after) {name : String} :
    name ∈ after.labels.keys ↔
      name ∈ front.labels.keys ∨ ∃ token ∈ tokens, token.kind = .label name := by
  induction tokens generalizing front with
  | nil =>
      cases added
      simp
  | cons token rest induction =>
      obtain ⟨between, first, added⟩ := foldlM_cons_ok_iff.mp added
      have keys : name ∈ between.labels.keys ↔
          name ∈ front.labels.keys ∨ token.kind = .label name := by
        obtain ⟨kind, span⟩ := token
        rcases add_cases kind with ⟨other, rfl⟩ | ⟨plain, instruction, adds⟩
        · obtain ⟨-, rfl⟩ := add_label_ok_iff.mp first
          simp [← Table.contains_iff_mem_keys, or_comm]
        · rw [adds] at first
          cases first
          simp [plain name]
      simp [induction added, keys, or_assoc]

end Fragment

section Rows

variable {first second gap : String} {one two : Fragment}

/-- The tokens of a fragment and the fragment that they make. -/
theorem compile_ok_iff {code : String} {fragment : Fragment} : compile code = .ok fragment ↔
    ∃ tokens, tokenize code = .ok tokens ∧ tokens.foldlM Fragment.add .empty = .ok fragment :=
  bind_ok_iff

/-- Fragments that declare no common label are compiled in a row as they are alone. -/
theorem compile_row (compiled : compile first = .ok one) (behind : compile second = .ok two)
    (nonempty : gap ≠ "") (blank : ∀ c ∈ gap.toList, isBlank c = true) (apart : one.Apart two) :
    ∃ whole, compile (first ++ gap ++ second) = .ok whole ∧ one.IsRow two whole := by
  obtain ⟨tokens, accepted, added⟩ := compile_ok_iff.mp compiled
  obtain ⟨others, accepted_behind, added_behind⟩ := compile_ok_iff.mp behind
  have fresh : ∀ name ∈ one.labels.keys, ∀ token ∈ others, token.kind ≠ .label name :=
    fun name member token among declares => apart name member
      ((Fragment.mem_keys_of_addAll added_behind).mpr (Or.inr ⟨token, among, declares⟩))
  obtain ⟨whole, moved, row⟩ := (Fragment.IsRow.start one).addAll added_behind fresh
    (first ++ gap).utf8ByteSize
  have tokenized := tokenize_append accepted accepted_behind nonempty blank
  have all_added := foldlM_append_ok_iff.mpr ⟨one, added, moved⟩
  exact ⟨whole, compile_ok_iff.mpr ⟨_, tokenized, all_added⟩, row⟩

/-- A fragment behind another one fails at its first declaration of a label of that one. -/
theorem compile_clash (compiled : compile first = .ok one) (behind : compile second = .ok two)
    (nonempty : gap ≠ "") (blank : ∀ c ∈ gap.toList, isBlank c = true)
    (clash : ¬one.Apart two) :
    ∃ before name span after, tokenize second = .ok (before ++ ⟨.label name, span⟩ :: after) ∧
      name ∈ one.labels.keys ∧
      (∀ token ∈ before, ∀ other ∈ one.labels.keys, token.kind ≠ .label other) ∧
        compile (first ++ gap ++ second) =
          .error ⟨.duplicateLabel name, span.move (first ++ gap).utf8ByteSize⟩ := by
  obtain ⟨tokens, accepted, added⟩ := compile_ok_iff.mp compiled
  obtain ⟨others, accepted_behind, added_behind⟩ := compile_ok_iff.mp behind
  obtain ⟨before, rest, rfl, fresh, clashes⟩ := exists_front
    (fun token : Token => ∀ name ∈ one.labels.keys, token.kind ≠ .label name) others
  cases rest with
  | nil =>
      refine absurd (fun name member shared => ?_) clash
      rw [List.append_nil] at added_behind
      obtain ⟨token, among, declares⟩ :=
        ((Fragment.mem_keys_of_addAll added_behind).mp shared).resolve_left
          (by simp [Fragment.empty, Table.empty, Table.keys])
      exact fresh token among name member declares
  | cons token after =>
      obtain ⟨kind, span⟩ := token
      have declared : ∃ name ∈ one.labels.keys, kind = .label name := by
        simpa using clashes ⟨kind, span⟩ rfl
      obtain ⟨name, member, rfl⟩ := declared
      obtain ⟨between, added_before, -⟩ := foldlM_append_ok_iff.mp added_behind
      obtain ⟨extended, moved, row⟩ := (Fragment.IsRow.start one).addAll added_before
        (fun name member token among => fresh token among name member) (first ++ gap).utf8ByteSize
      have known : name ∈ extended.labels.keys := row.mem_keys_iff.mpr (Or.inl member)
      refine ⟨before, name, span, after, accepted_behind, member, fresh, ?_⟩
      rw [compile, tokenize_append accepted accepted_behind nonempty blank]
      simp only [Fragment.ofTokens, List.map_append, List.map_cons, List.foldlM_append,
        List.foldlM_cons, added, moved, Token.move, Fragment.add_label, if_pos known, bind,
        Except.bind]

end Rows

end Code

end Gamebook
