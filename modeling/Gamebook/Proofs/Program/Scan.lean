import Gamebook.Proofs.Program.Braces

/-!
# Linking as a scan

Linking pairs all braces in one pass over the instructions.  The same pairs come from a plain scan
for each block: a count goes up at every opening brace and down at every closing one, and a block
ends where the count that starts at its opening brace first comes back to zero.  What linking
reports when it fails can be read off the same counts.
-/

namespace Gamebook

variable {instructions first second before inside back : List Instruction}
  {instruction : Instruction} {labels : Labels} {opening closing offset : Nat}

/-! ## Counting -/

/-- The blocks that instructions open less those they close. -/
def nesting (instructions : List Instruction) : Int :=
  (instructions.count .openBlock : Int) - instructions.count .closeBlock

@[simp]
theorem nesting_nil : nesting [] = 0 := rfl

@[simp]
theorem nesting_append : nesting (first ++ second) = nesting first + nesting second := by
  simp only [nesting, List.count_append]
  omega

@[simp]
theorem nesting_open : nesting (.openBlock :: instructions) = nesting instructions + 1 := by
  rw [nesting, List.count_cons_self, List.count_cons_of_ne (by simp), nesting]
  omega

@[simp]
theorem nesting_close : nesting (.closeBlock :: instructions) = nesting instructions - 1 := by
  rw [nesting, List.count_cons_self, List.count_cons_of_ne (by simp), nesting]
  omega

/-- No front part closes too many blocks if the count never falls below zero. -/
theorem ClosesWithin.iff_nesting :
    ClosesWithin 0 instructions ↔ ∀ length, 0 ≤ nesting (instructions.take length) := by
  constructor
  · intro within length
    have := within _ (List.take_prefix length instructions)
    rw [nesting]
    omega
  · intro counts front leading
    have := counts front.length
    rw [← List.prefix_iff_eq_take.mp leading, nesting] at this
    omega

theorem Balanced.iff_nesting : Balanced instructions ↔
    (∀ length, 0 ≤ nesting (instructions.take length)) ∧ nesting instructions = 0 := by
  rw [Balanced.iff_counts, ClosesWithin.iff_nesting, nesting]
  refine and_congr_right fun _ => ?_
  omega

/-! ## Scanning for the end of a block -/

/-- The count that starts at `opening`, as it stands behind the instruction at `offset`. -/
def countFrom (instructions : List Instruction) (opening offset : Nat) : Int :=
  nesting ((instructions.drop opening).take (offset + 1 - opening))

/-- The first offset behind `opening` at which the count that starts there is zero. -/
def scanEnd? (instructions : List Instruction) (opening : Nat) : Option Nat :=
  (List.range instructions.length).find? fun offset =>
    opening < offset ∧ countFrom instructions opening offset = 0

theorem scanEnd?_eq_some_iff : scanEnd? instructions opening = some closing ↔
    closing < instructions.length ∧ opening < closing ∧
      countFrom instructions opening closing = 0 ∧
        ∀ offset, opening < offset → offset < closing →
          countFrom instructions opening offset ≠ 0 := by
  simp only [scanEnd?, List.find?_range_eq_some, decide_eq_true_eq, List.mem_range]
  constructor
  · rintro ⟨⟨behind, zero⟩, bound, earlier⟩
    refine ⟨bound, behind, zero, fun offset after less => ?_⟩
    simpa [after] using earlier offset less
  · rintro ⟨bound, behind, zero, earlier⟩
    refine ⟨⟨behind, zero⟩, bound, fun offset less => ?_⟩
    by_cases after : opening < offset <;> simp [after, earlier offset _ less]

/-- Behind an opening brace the count is one more than that of the instructions in between. -/
theorem countFrom_open (shift : Nat) :
    countFrom (before ++ .openBlock :: back) before.length (before.length + shift) =
      nesting (back.take shift) + 1 := by
  rw [countFrom, List.drop_left,
    show before.length + shift + 1 - before.length = shift + 1 by omega,
    List.take_succ_cons, nesting_open]

/-- The scan finds the end of a block whose inside is balanced. -/
theorem scanEnd?_block (before : List Instruction) (balanced : Balanced inside)
    (after : List Instruction) :
    scanEnd? (before ++ .openBlock :: (inside ++ .closeBlock :: after)) before.length =
      some (before.length + 1 + inside.length) := by
  obtain ⟨counts, even⟩ := Balanced.iff_nesting.mp balanced
  refine scanEnd?_eq_some_iff.mpr ⟨?_, by omega, ?_, fun offset behind within => ?_⟩
  · simp only [List.length_append, List.length_cons]
    omega
  · have whole : (inside ++ .closeBlock :: after).take (1 + inside.length) =
        inside ++ [.closeBlock] := by
      rw [Nat.add_comm, List.take_length_add_append]
      simp
    rw [Nat.add_assoc, countFrom_open, whole]
    simp [even]
  · obtain ⟨shift, rfl⟩ := Nat.exists_eq_add_of_lt behind
    have part : (inside ++ .closeBlock :: after).take (shift + 1) = inside.take (shift + 1) :=
      List.take_append_of_le_length (by omega)
    have := counts (shift + 1)
    rw [Nat.add_assoc, countFrom_open, part]
    omega

/-- The scan finds no end where no block more is closed than opened. -/
theorem scanEnd?_eq_none (within : ClosesWithin 0 back) :
    scanEnd? (before ++ .openBlock :: back) before.length = none := by
  rw [Option.eq_none_iff_forall_ne_some]
  intro closing found
  obtain ⟨-, behind, zero, -⟩ := scanEnd?_eq_some_iff.mp found
  obtain ⟨shift, rfl⟩ := Nat.exists_eq_add_of_lt behind
  have := ClosesWithin.iff_nesting.mp within (shift + 1)
  rw [Nat.add_assoc, countFrom_open] at zero
  omega

/-! ## Blocks of linked instructions -/

private theorem eq_take_append_cons_drop {α : Type} {list : List α} {index : Nat} {element : α}
    (found : list[index]? = some element) :
    list = list.take index ++ element :: list.drop (index + 1) := by
  obtain ⟨inside, rfl⟩ := List.getElem?_eq_some_iff.mp found
  rw [← List.drop_eq_getElem_cons inside, List.take_append_drop]

namespace Program

variable {program : Program}

/-- What stands between the braces of a block is balanced. -/
theorem holds_of_blockEnd? (found : program.blockEnd? opening = some closing) :
    ∃ inside, program.Holds opening (.openBlock :: (inside ++ [.closeBlock])) ∧
      closing = opening + 1 + inside.length ∧ Balanced inside := by
  obtain ⟨opens, closes, ordered⟩ := blockEnd?_braces found
  obtain ⟨shift, rfl⟩ := Nat.exists_eq_add_of_lt ordered
  have bound := (List.getElem?_eq_some_iff.mp closes).1
  have behind : (program.instructions.drop (opening + 1))[shift]? = some .closeBlock := by
    rw [List.getElem?_drop, ← closes, get?]
    congr 1
    omega
  let inside := (program.instructions.drop (opening + 1)).take shift
  have length : inside.length = shift := by
    simp only [inside, List.length_take, List.length_drop]
    omega
  have holds : program.Holds opening (.openBlock :: (inside ++ [.closeBlock])) := by
    refine ⟨program.instructions.take opening,
      (program.instructions.drop (opening + 1)).drop (shift + 1), ?_, ?_⟩
    · conv_lhs => rw [eq_take_append_cons_drop opens, eq_take_append_cons_drop behind]
      simp [inside]
    · rw [List.length_take]
      omega
  refine ⟨inside, holds, by omega, holds.blockEnd?_iff.mp ?_⟩
  rw [found, length]
  congr 1
  omega

/-- The scan finds the ends of the blocks that linking pairs. -/
theorem scanEnd?_of_blockEnd? (found : program.blockEnd? opening = some closing) :
    scanEnd? program.instructions opening = some closing := by
  obtain ⟨inside, ⟨before, after, split, rfl⟩, rfl, balanced⟩ := holds_of_blockEnd? found
  rw [split, List.cons_append, List.append_assoc, List.singleton_append,
    scanEnd?_block before balanced]

/-- Blocks are listed by their opening braces, each of which comes once and in order. -/
theorem openings_eq (program : Program) :
    program.blocksByOpening.map BracePair.opening =
      (List.range program.length).filter fun offset => program.get? offset = some .openBlock := by
  have listed : program.blocksByOpening.Perm program.blocks := List.mergeSort_perm _ _
  have ordered {block : BracePair} (member : block ∈ program.blocks) :
      block.opening < block.closing :=
    (blockEnd?_braces (blockEnd?_eq_some_iff.mpr member)).2.2
  have distinct : (program.blocks.map BracePair.opening).Nodup := by
    rw [List.nodup_iff_pairwise_ne, List.pairwise_map]
    refine (pairBraces_pairwise program.linked .nil).1.imp_of_mem ?_
    intro first second first_mem second_mem precedes same
    have := ordered first_mem
    have := precedes.2
    omega
  have sorted : (program.blocksByOpening.map BracePair.opening).Pairwise (· ≤ ·) := by
    refine List.pairwise_map.mpr ((List.pairwise_mergeSort ?_ ?_ program.blocks).imp ?_)
    · intro first second third
      simp only [decide_eq_true_eq]
      exact Nat.le_trans
    · intro first second
      simp only [Bool.or_eq_true, decide_eq_true_eq]
      exact Nat.le_total _ _
    · simp
  have range_sorted := (List.pairwise_lt_range (n := program.length)).imp Nat.le_of_lt
  refine List.Perm.eq_of_pairwise
    (fun first second _ _ (le : first ≤ second) ge => Nat.le_antisymm le ge) sorted
    (range_sorted.filter _)
    ((List.perm_ext_iff_of_nodup ((listed.map _).nodup_iff.mpr distinct)
      (List.nodup_range.filter _)).mpr fun opening => ?_)
  rw [(listed.map _).mem_iff, List.mem_map, List.mem_filter, List.mem_range]
  constructor
  · rintro ⟨block, member, rfl⟩
    have opens := (blockEnd?_braces (blockEnd?_eq_some_iff.mpr member)).1
    exact ⟨(List.getElem?_eq_some_iff.mp opens).1, by simpa using opens⟩
  · rintro ⟨-, opens⟩
    obtain ⟨closing, found⟩ := exists_blockEnd? (by simpa using opens)
    exact ⟨_, blockEnd?_eq_some_iff.mp found, rfl⟩

end Program

/-- Every opening brace of balanced instructions opens a block whose inside is balanced. -/
theorem Balanced.exists_block (balanced : Balanced instructions)
    (opens : instructions[opening]? = some .openBlock) :
    ∃ before inside after, instructions = before ++ .openBlock :: (inside ++ .closeBlock :: after) ∧
      before.length = opening ∧ Balanced inside := by
  obtain ⟨blocks, paired⟩ := balanced
  let program : Program := ⟨instructions, Table.empty, blocks, paired, by simp [Table.empty]⟩
  obtain ⟨closing, found⟩ := program.exists_blockEnd? opens
  obtain ⟨inside, ⟨before, after, split, start⟩, -, within⟩ := Program.holds_of_blockEnd? found
  exact ⟨before, inside, after, by simpa using split, start, within⟩

/-- In balanced instructions the scan finds an end for every opening brace. -/
theorem Balanced.scanEnd?_ne_none (balanced : Balanced instructions)
    (opens : instructions[opening]? = some .openBlock) : scanEnd? instructions opening ≠ none := by
  obtain ⟨before, inside, after, rfl, rfl, inner⟩ := balanced.exists_block opens
  rw [scanEnd?_block before inner]
  simp

/-! ## Linking and scanning -/

/-- What keeps instructions and labels from being linked, as the counts tell it. -/
inductive Unlinkable (instructions : List Instruction) (labels : Labels) : LinkError → Prop
  /-- The count falls below zero at the reported brace and not before. -/
  | close {offset : Nat} (earlier : ∀ length ≤ offset, 0 ≤ nesting (instructions.take length))
      (falls : nesting (instructions.take (offset + 1)) < 0) :
      Unlinkable instructions labels (.unmatchedClose offset)
  /-- The reported brace is the last one for which the scan finds no end. -/
  | block {offset : Nat} (within : ∀ length, 0 ≤ nesting (instructions.take length))
      (opens : instructions[offset]? = some .openBlock)
      (endless : scanEnd? instructions offset = none)
      (last : ∀ later, offset < later → instructions[later]? = some .openBlock →
        scanEnd? instructions later ≠ none) :
      Unlinkable instructions labels (.unclosedBlock offset)
  /-- Of the labels that point past the end the reported one has the smallest name. -/
  | label {label : String} {offset : Nat}
      (within : ∀ length, 0 ≤ nesting (instructions.take length))
      (even : nesting instructions = 0) (member : (label, offset) ∈ labels.entries)
      (beyond : instructions.length < offset)
      (first : ∀ entry ∈ labels.entries, instructions.length < entry.2 → label ≤ entry.1) :
      Unlinkable instructions labels (.labelOutOfRange label offset instructions.length)

namespace Unlinkable

variable {error other : LinkError}

theorem of_unpaired (unpaired : Unpaired instructions error) :
    Unlinkable instructions labels error := by
  cases unpaired with
  | @close front back split balanced =>
      obtain ⟨counts, even⟩ := Balanced.iff_nesting.mp balanced
      subst split
      refine .close (fun length bound => ?_) ?_
      · rw [List.take_append_of_le_length bound]
        exact counts length
      · rw [List.take_length_add_append]
        simp [even]
  | @block front back split within balanced =>
      obtain ⟨counts, even⟩ := Balanced.iff_nesting.mp balanced
      subst split
      refine .block (fun length => ?_) (by simp)
        (scanEnd?_eq_none (Balanced.iff_counts.mp balanced).1) fun later behind opens => ?_
      · have ahead := ClosesWithin.iff_nesting.mp within length
        rw [List.take_append, nesting_append]
        cases length - front.length with
        | zero => simpa using ahead
        | succ more =>
            have := counts more
            rw [List.take_succ_cons, nesting_open]
            omega
      · obtain ⟨shift, rfl⟩ := Nat.exists_eq_add_of_lt behind
        have opens : back[shift]? = some .openBlock := by
          rw [Nat.add_assoc, List.getElem?_append_right (Nat.le_add_right _ _),
            Nat.add_sub_cancel_left, List.getElem?_cons_succ] at opens
          exact opens
        obtain ⟨before, inside, after, rfl, rfl, inner⟩ := balanced.exists_block opens
        have found := scanEnd?_block (front ++ .openBlock :: before) inner after
        rw [List.append_assoc, List.cons_append, List.length_append, List.length_cons] at found
        rw [Nat.add_assoc, found]
        simp

/-- Nothing is reported of what can be linked. -/
theorem not_linked (unlinkable : Unlinkable instructions labels error)
    (balanced : Balanced instructions) :
    ∃ entry ∈ labels.entries, instructions.length < entry.2 := by
  obtain ⟨counts, -⟩ := Balanced.iff_nesting.mp balanced
  cases unlinkable with
  | @close offset earlier falls =>
      have := counts (offset + 1)
      omega
  | block within opens endless last => exact absurd endless (balanced.scanEnd?_ne_none opens)
  | label within even member beyond first => exact ⟨_, member, beyond⟩

/-- The counts tell of one fault only. -/
theorem unique (unlinkable : Unlinkable instructions labels error)
    (again : Unlinkable instructions labels other) : error = other := by
  cases unlinkable with
  | @close offset earlier falls =>
      cases again with
      | @close place before_place falls_there =>
          congr 1
          by_contra apart
          rcases Nat.lt_or_gt_of_ne apart with less | greater
          · have := before_place (offset + 1) less
            omega
          · have := earlier (place + 1) greater
            omega
      | block within | label within =>
          have := within (offset + 1)
          omega
  | @block offset within opens endless last =>
      cases again with
      | @close place _ falls =>
          have := within (place + 1)
          omega
      | @block place _ opens_there endless_there last_there =>
          congr 1
          by_contra apart
          rcases Nat.lt_or_gt_of_ne apart with less | greater
          · exact last place less opens_there endless_there
          · exact last_there offset greater opens endless
      | label _ even =>
          have balanced := Balanced.iff_nesting.mpr ⟨within, even⟩
          exact absurd endless (balanced.scanEnd?_ne_none opens)
  | @label name offset within even member beyond first =>
      cases again with
      | @close place _ falls =>
          have := within (place + 1)
          omega
      | block _ opens endless =>
          have balanced := Balanced.iff_nesting.mpr ⟨within, even⟩
          exact absurd endless (balanced.scanEnd?_ne_none opens)
      | @label other_name place _ _ member_there beyond_there first_there =>
          obtain rfl : name = other_name :=
            String.le_antisymm (first _ member_there beyond_there) (first_there _ member beyond)
          have found := Table.get?_eq_some_iff.mpr member
          rw [Table.get?_eq_some_iff.mpr member_there] at found
          rw [Option.some.inj found]

end Unlinkable

/-- Linking fails exactly as the counts tell. -/
theorem Program.link_error_iff_unlinkable {error : LinkError} :
    Program.link instructions labels = .error error ↔ Unlinkable instructions labels error := by
  have reported {error : LinkError} (failed : Program.link instructions labels = .error error) :
      Unlinkable instructions labels error := by
    rcases Program.link_error_iff.mp failed with
      unpaired | ⟨balanced, label, offset, found, rfl⟩
    · exact .of_unpaired unpaired
    · obtain ⟨within, even⟩ := Balanced.iff_nesting.mp balanced
      obtain ⟨beyond, before, after, split, none_before⟩ :=
        List.find?_eq_some_iff_append.mp found
      have increasing := labels.increasing
      rw [split, List.pairwise_append] at increasing
      refine .label within even (List.mem_of_find?_eq_some found) (by simpa using beyond)
        fun entry member out => ?_
      rw [split, List.mem_append, List.mem_cons] at member
      rcases member with earlier | rfl | later
      · simpa [out] using none_before entry earlier
      · exact String.le_refl _
      · have less := (List.pairwise_cons.mp increasing.2.1).1 entry later
        exact String.not_lt.mp fun greater => String.lt_irrefl _ (String.lt_trans less greater)
  refine ⟨reported, fun unlinkable => ?_⟩
  cases linked : Program.link instructions labels with
  | error other => rw [(reported linked).unique unlinkable]
  | ok program =>
      obtain ⟨balanced, inside⟩ := Program.exists_link_iff.mp ⟨program, linked⟩
      obtain ⟨entry, member, beyond⟩ := unlinkable.not_linked balanced
      have := inside entry member
      omega

/-- An instruction that is no brace can stand for any other one. -/
theorem pairBraces_replace {replacement : Instruction} {unclosed : List Nat}
    (no_open : instruction ≠ .openBlock) (no_close : instruction ≠ .closeBlock)
    (other_no_open : replacement ≠ .openBlock) (other_no_close : replacement ≠ .closeBlock)
    (before after : List Instruction) :
    pairBraces offset unclosed (before ++ instruction :: after) =
      pairBraces offset unclosed (before ++ replacement :: after) := by
  induction before generalizing offset unclosed with
  | nil =>
      rw [List.nil_append, List.nil_append, pairBraces_plain no_open no_close,
        pairBraces_plain other_no_open other_no_close]
  | cons first before induction =>
      by_cases opens : first = .openBlock
      · subst opens
        rw [List.cons_append, List.cons_append, pairBraces_open, pairBraces_open, induction]
      · by_cases closes : first = .closeBlock
        · subst closes
          cases unclosed with
          | nil => simp [pairBraces]
          | cons opening outer =>
              rw [List.cons_append, List.cons_append, pairBraces_close, pairBraces_close, induction]
        · rw [List.cons_append, List.cons_append, pairBraces_plain opens closes,
            pairBraces_plain opens closes, induction]

/-- The outcome of linking, with the program reduced to its blocks. -/
theorem Program.link_map_blocks : (Program.link instructions labels).map Program.blocks =
    (blocksOf instructions).bind fun blocks =>
      match labels.entries.find? fun entry => instructions.length < entry.2 with
      | some (label, offset) => .error (.labelOutOfRange label offset instructions.length)
      | none => .ok blocks := by
  rw [Program.link]
  split
  · rename_i error failed
    rw [failed]
    rfl
  · rename_i blocks paired
    simp only [paired, Except.bind]
    split
    · rename_i label offset found
      rw [found]
      rfl
    · rename_i none_found
      simp only [none_found]
      rfl

/-- Linking succeeds if the count of open blocks never falls below zero and comes back to it, and no
label points past the end.  A block then ends where the scan from its opening brace says, so any two
blocks are apart or one lies within the other, and the list of blocks goes through the opening
braces in order.  Otherwise linking reports what the counts tell.  Calls of natives are no braces,
whatever they are called. -/
theorem linked_as_scanned (instructions : List Instruction) (labels : Labels) :
    ((∃ program, Program.link instructions labels = .ok program) ↔
        (∀ length, 0 ≤ nesting (instructions.take length)) ∧ nesting instructions = 0 ∧
          ∀ entry ∈ labels.entries, entry.2 ≤ instructions.length) ∧
      (∀ program, Program.link instructions labels = .ok program →
        program.instructions = instructions ∧ program.labels = labels ∧
          (∀ opening, (program.blockEnd? opening).isSome = true ↔
            instructions[opening]? = some .openBlock) ∧
          (∀ opening, instructions[opening]? = some .openBlock →
            program.blockEnd? opening = scanEnd? instructions opening) ∧
          (∀ opening closing inner inner_end, program.blockEnd? opening = some closing →
            program.blockEnd? inner = some inner_end → opening < inner →
              closing < inner ∨ inner_end < closing) ∧
          program.blocksByOpening.map BracePair.opening =
            ((List.range instructions.length).filter fun offset =>
              instructions[offset]? = some .openBlock) ∧
          ∀ block ∈ program.blocksByOpening,
            program.blockEnd? block.opening = some block.closing) ∧
      (∀ error, Program.link instructions labels = .error error ↔
        Unlinkable instructions labels error) ∧
      ∀ before name after, instructions = before ++ .invoke name :: after →
        (Program.link instructions labels).map Program.blocks =
          (Program.link (before ++ .pushNumber 0 :: after) labels).map Program.blocks := by
  refine ⟨?_, fun program linked => ?_, fun error => Program.link_error_iff_unlinkable,
    fun before name after split => ?_⟩
  · rw [Program.exists_link_iff, Balanced.iff_nesting, and_assoc]
  · obtain ⟨rfl, rfl⟩ := Program.link_parts linked
    refine ⟨rfl, rfl, fun opening => ⟨fun defined => ?_, fun opens => ?_⟩, fun opening opens => ?_,
      fun opening closing inner inner_end outer found later =>
        Program.blocks_nested outer found later,
      program.openings_eq, fun block member => ?_⟩
    · obtain ⟨closing, found⟩ := Option.isSome_iff_exists.mp defined
      exact (Program.blockEnd?_braces found).1
    · obtain ⟨closing, found⟩ := Program.exists_blockEnd? opens
      rw [found]
      rfl
    · obtain ⟨closing, found⟩ := Program.exists_blockEnd? opens
      rw [found, Program.scanEnd?_of_blockEnd? found]
    · exact Program.blockEnd?_eq_some_iff.mpr ((List.mergeSort_perm _ _).mem_iff.mp member)
  · subst split
    have same : blocksOf (before ++ .invoke name :: after) =
        blocksOf (before ++ .pushNumber 0 :: after) :=
      pairBraces_replace (by simp) (by simp) (by simp) (by simp) before after
    rw [Program.link_map_blocks, Program.link_map_blocks, same, List.length_append,
      List.length_append, List.length_cons, List.length_cons]

/-- Blocks within each other end in the reverse order. -/
example : (scanEnd? [.openBlock, .openBlock, .pushNumber 1, .closeBlock, .closeBlock] 0,
    scanEnd? [.openBlock, .openBlock, .pushNumber 1, .closeBlock, .closeBlock] 1) =
      (some 4, some 3) := by
  decide

end Gamebook
