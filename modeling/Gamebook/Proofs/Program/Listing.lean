import Gamebook.Program.Listing
import Gamebook.Proofs.Program.Scan

/-!
# Listings and blocks

A listing has one row for each instruction and one for each label, in order of their offsets.  How
far a row is indented comes from a counter that goes up and down with the braces.  It never has to
go below zero, and what it tells is the number of blocks around the instruction.
-/

namespace Gamebook

/-- A row of a listing. -/
inductive ListingRow
  | label (name : String)
  /-- An instruction at an offset, with a number of blocks around it. -/
  | code (offset depth : Nat) (instruction : Instruction)
  deriving DecidableEq

/-- The text of a row. -/
def ListingRow.text : ListingRow → String
  | label name => "#" ++ name
  | code offset depth instruction => Program.instructionLine offset depth instruction

/-- The depth behind an instruction, as a listing counts it. -/
def depthBehind (depth : Nat) : Instruction → Nat
  | .openBlock => depth + 1
  | .closeBlock => depth - 1
  | _ => depth

/-- The depth with which a listing shows an instruction. -/
def shownDepth (depth : Nat) (instruction : Instruction) : Nat :=
  if instruction = .closeBlock then depth - 1 else depth

/-- The depth behind instructions, as a listing counts it from its start. -/
def countedDepth (instructions : List Instruction) : Nat :=
  instructions.foldl depthBehind 0

variable {instructions first second : List Instruction} {instruction : Instruction}
  {offset opening closing : Nat}

/-! ## The counter -/

@[simp]
theorem countedDepth_concat : countedDepth (instructions ++ [instruction]) =
    depthBehind (countedDepth instructions) instruction := by
  simp [countedDepth]

/-- As long as the count of open blocks does not fall below zero, the counter tells it. -/
theorem countedDepth_eq_nesting (counts : ∀ length, 0 ≤ nesting (instructions.take length)) :
    (countedDepth instructions : Int) = nesting instructions := by
  induction instructions using List.reverseRecOn with
  | nil => rfl
  | append_singleton instructions instruction induction =>
      have front (length : Nat) : 0 ≤ nesting (instructions.take length) := by
        have := counts (min length instructions.length)
        rwa [List.take_append_of_le_length (Nat.min_le_right _ _), ← List.take_eq_take_min] at this
      have whole := counts (instructions.length + 1)
      rw [List.take_of_length_le (by simp), nesting_append, ← induction front] at whole
      rw [countedDepth_concat, nesting_append, ← induction front]
      cases instruction with
      | openBlock => simp [depthBehind]
      | closeBlock =>
          rw [nesting_close, nesting_nil] at whole ⊢
          simp only [depthBehind]
          omega
      | _ => simp [depthBehind, nesting]

namespace Program

variable {program : Program}

theorem nesting_take_nonneg (program : Program) (length : Nat) :
    0 ≤ nesting (program.instructions.take length) :=
  (Balanced.iff_nesting.mp ⟨_, program.linked⟩).1 length

/-- Wherever a listing has come to, its counter tells how many blocks are open. -/
theorem countedDepth_take (program : Program) (offset : Nat) :
    (countedDepth (program.instructions.take offset) : Int) =
      nesting (program.instructions.take offset) := by
  refine countedDepth_eq_nesting fun length => ?_
  rw [List.take_take]
  exact program.nesting_take_nonneg _

/-- In front of a closing brace a block is open. -/
theorem countedDepth_pos (closes : program.get? offset = some .closeBlock) :
    0 < countedDepth (program.instructions.take offset) := by
  have behind := program.nesting_take_nonneg (offset + 1)
  rw [List.take_add_one, show program.instructions[offset]? = some .closeBlock from closes,
    nesting_append, ← program.countedDepth_take] at behind
  simp only [Option.toList_some, nesting_close, nesting_nil] at behind
  omega

/-! ## Blocks around an offset -/

/-- The blocks that an offset lies inside of. -/
def enclosing (program : Program) (offset : Nat) : List BracePair :=
  program.blocksByOpening.filter fun block => block.opening < offset ∧ offset < block.closing

theorem mem_blocksByOpening {block : BracePair} :
    block ∈ program.blocksByOpening ↔ program.blockEnd? block.opening = some block.closing :=
  (List.mergeSort_perm _ _).mem_iff.trans blockEnd?_eq_some_iff.symm

/-- Instructions of one kind in front of an offset. -/
theorem countP_range (instructions : List Instruction) (instruction : Instruction) (stop : Nat) :
    ((List.range instructions.length).filter fun offset =>
        instructions[offset]? = some instruction).countP (· < stop) =
      (instructions.take stop).count instruction := by
  induction instructions generalizing stop with
  | nil => simp
  | cons head rest induction =>
      cases stop with
      | zero => simp
      | succ stop =>
          have later := induction stop
          rw [List.countP_filter] at later ⊢
          rw [List.length_cons, List.range_succ_eq_map, List.countP_cons, List.countP_map,
            List.take_succ_cons, List.count_cons, ← later]
          simp [Function.comp_def]

/-- In front of an offset as many blocks open as there are opening braces. -/
theorem countP_opening (program : Program) (stop : Nat) :
    program.blocksByOpening.countP (fun block => block.opening < stop) =
      (program.instructions.take stop).count .openBlock := by
  rw [← countP_range, ← Program.length, show (fun offset : Nat => decide
    (program.instructions[offset]? = some .openBlock)) = fun offset =>
      decide (program.get? offset = some .openBlock) from rfl, ← openings_eq, List.countP_map]
  rfl

/-- Every closing brace closes one block. -/
theorem closings_perm (program : Program) : (program.blocksByOpening.map BracePair.closing).Perm
    ((List.range program.length).filter fun offset => program.get? offset = some .closeBlock) := by
  have listed : program.blocksByOpening.Perm program.blocks := List.mergeSort_perm _ _
  have distinct : (program.blocks.map BracePair.closing).Nodup := by
    rw [List.nodup_iff_pairwise_ne, List.pairwise_map]
    exact (pairBraces_pairwise program.linked .nil).1.imp fun precedes => Nat.ne_of_lt precedes.1
  refine (listed.map _).trans ((List.perm_ext_iff_of_nodup distinct
    (List.nodup_range.filter _)).mpr fun closing => ?_)
  rw [List.mem_map, List.mem_filter, List.mem_range]
  constructor
  · rintro ⟨block, member, rfl⟩
    have closes := (blockEnd?_braces (blockEnd?_eq_some_iff.mpr member)).2.1
    exact ⟨(List.getElem?_eq_some_iff.mp closes).1, by simpa using closes⟩
  · rintro ⟨-, closes⟩
    obtain ⟨opening, member⟩ := pairBraces_closes program.linked (of_decide_eq_true closes)
    exact ⟨_, member, Nat.zero_add closing⟩

/-- In front of an offset as many blocks close as there are closing braces. -/
theorem countP_closing (program : Program) (stop : Nat) :
    program.blocksByOpening.countP (fun block => block.closing < stop) =
      (program.instructions.take stop).count .closeBlock := by
  rw [← countP_range, ← Program.length, show (fun offset : Nat => decide
    (program.instructions[offset]? = some .closeBlock)) = fun offset =>
      decide (program.get? offset = some .closeBlock) from rfl,
    ← program.closings_perm.countP_eq, List.countP_map]
  rfl

/-- Around an offset are the blocks that open in front of it, but for those that close up to it. -/
theorem length_enclosing (program : Program) (offset : Nat) :
    (program.instructions.take offset).count .openBlock =
      (program.enclosing offset).length +
        (program.instructions.take (offset + 1)).count .closeBlock := by
  rw [← countP_opening, ← countP_closing, enclosing, ← List.countP_eq_length_filter]
  have ordered : ∀ block ∈ program.blocksByOpening, block.opening < block.closing :=
    fun block member => (blockEnd?_braces (mem_blocksByOpening.mp member)).2.2
  generalize program.blocksByOpening = blocks at ordered
  induction blocks with
  | nil => rfl
  | cons block blocks induction =>
      obtain ⟨first, others⟩ := List.forall_mem_cons.mp ordered
      simp only [List.countP_cons, induction others]
      have apart : (if decide (block.opening < offset) = true then 1 else 0) =
          (if decide (block.opening < offset ∧ offset < block.closing) = true then 1 else 0) +
            if decide (block.closing < offset + 1) = true then 1 else 0 := by
        simp only [decide_eq_true_eq]
        split <;> split <;> split <;> omega
      omega

/-- A listing shows an instruction with the number of blocks around it. -/
theorem shownDepth_eq (here : program.get? offset = some instruction) :
    shownDepth (countedDepth (program.instructions.take offset)) instruction =
      (program.enclosing offset).length := by
  have counted := program.countedDepth_take offset
  have around := program.length_enclosing offset
  rw [List.take_add_one, show program.instructions[offset]? = some instruction from here,
    List.count_append] at around
  rw [nesting] at counted
  rw [shownDepth]
  split
  · rename_i closes
    subst closes
    simp only [Option.toList_some, List.count_singleton_self] at around
    omega
  · rename_i other
    rw [Option.toList_some, List.count_singleton, if_neg (by simpa using other)] at around
    omega

/-- The two braces of a block lie inside of the same blocks. -/
theorem enclosing_braces (found : program.blockEnd? opening = some closing) :
    program.enclosing opening = program.enclosing closing := by
  have ordered := (blockEnd?_braces found).2.2
  refine List.filter_congr fun block member => decide_eq_decide.mpr ?_
  have other := mem_blocksByOpening.mp member
  constructor
  · rintro ⟨before, within⟩
    have := blocks_nested other found before
    omega
  · rintro ⟨before, within⟩
    refine ⟨?_, by omega⟩
    by_contra late
    rcases Nat.eq_or_lt_of_le (Nat.le_of_not_lt late) with same | later
    · rw [← same, found] at other
      have := Option.some.inj other
      omega
    · have := blocks_nested found other later
      omega

/-! ## Rows -/

/-- The labels that stand for an offset, in order of their names. -/
def labelsAt (program : Program) (offset : Nat) : List String :=
  program.labels.keys.filter fun name => program.label? name = some offset

/-- The rows of the labels that stand for an offset. -/
def labelRows (program : Program) (offset : Nat) : List ListingRow :=
  (program.labelsAt offset).map .label

/-- The rows of instructions, each with its offset, and of the labels that stand for these. -/
def codeRows (program : Program) (code : List (Instruction × Nat)) : List ListingRow :=
  code.flatMap fun (instruction, offset) => program.labelRows offset ++
    [.code offset (program.enclosing offset).length instruction]

/-- The rows of a program in order.  The labels that point at the end come last. -/
def rows (program : Program) : List ListingRow :=
  program.codeRows program.instructions.zipIdx ++ program.labelRows program.length

theorem mem_labelsAt {name : String} :
    name ∈ program.labelsAt offset ↔ program.label? name = some offset := by
  rw [labelsAt, List.mem_filter, decide_eq_true_eq, and_iff_right_iff_imp]
  intro stands
  refine Table.contains_iff_mem_keys.mp ?_
  rw [Table.contains, show program.labels.get? name = some offset from stands]
  rfl

theorem labelsAt_increasing (program : Program) (offset : Nat) :
    (program.labelsAt offset).Pairwise (· < ·) :=
  (List.pairwise_map.mpr program.labels.increasing).filter _

theorem text_labelRows (program : Program) (offset : Nat) :
    (program.labelRows offset).map ListingRow.text = labelLines program.labels offset := by
  rw [labelRows, labelsAt, Table.keys, List.filter_map, labelLines, List.map_map, List.map_map]
  congr 1
  refine List.filter_congr fun entry member => ?_
  have stands : program.label? entry.1 = some entry.2 := Table.get?_eq_some_iff.mpr member
  simp [stands]

theorem listingLines_cons (labels : Labels) (offset depth : Nat) (instruction : Instruction)
    (rest : List Instruction) :
    listingLines labels offset depth (instruction :: rest) =
      labelLines labels offset ++
        instructionLine offset (shownDepth depth instruction) instruction ::
          listingLines labels (offset + 1) (depthBehind depth instruction) rest := by
  cases instruction <;> rfl

/-- A listing goes on behind instructions with the depth that it has counted there. -/
theorem listingLines_append (labels : Labels) (offset depth : Nat)
    (first second : List Instruction) :
    ∃ front, listingLines labels offset depth (first ++ second) =
      front ++ listingLines labels (offset + first.length) (first.foldl depthBehind depth)
        second := by
  induction first generalizing offset depth with
  | nil => exact ⟨[], rfl⟩
  | cons instruction first induction =>
      obtain ⟨front, rest⟩ := induction (offset + 1) (depthBehind depth instruction)
      rw [List.cons_append, listingLines_cons, rest, List.length_cons,
        show offset + (first.length + 1) = offset + 1 + first.length by omega]
      exact ⟨labelLines labels offset ++
        instructionLine offset (shownDepth depth instruction) instruction :: front, by simp⟩

/-- From any offset on, a listing shows the rows of the program. -/
theorem listingLines_eq_rows {before rest : List Instruction}
    (split : program.instructions = before ++ rest) :
    listingLines program.labels before.length (countedDepth before) rest =
      (program.codeRows (rest.zipIdx before.length) ++ program.labelRows program.length).map
        ListingRow.text := by
  induction rest generalizing before with
  | nil =>
      have length : program.length = before.length := by simp [Program.length, split]
      rw [length, List.zipIdx_nil, codeRows, List.flatMap_nil, List.nil_append, text_labelRows]
      rfl
  | cons instruction rest induction =>
      have moved : program.instructions = (before ++ [instruction]) ++ rest := by simp [split]
      have later := induction moved
      have here : program.get? before.length = some instruction := by simp [get?, split]
      have front : program.instructions.take before.length = before := by simp [split]
      have shown := shownDepth_eq here
      rw [front] at shown
      rw [countedDepth_concat, List.length_append, List.length_singleton] at later
      rw [listingLines_cons, later, shown, List.zipIdx_cons, ← text_labelRows]
      simp [codeRows, ListingRow.text]

theorem count_labelRows (program : Program) (name : String) (offset : Nat) :
    (program.labelRows offset).count (.label name) =
      if program.label? name = some offset then 1 else 0 := by
  rw [labelRows, List.count_map_of_injective _ _ fun _ _ => ListingRow.label.inj,
    (program.labelsAt_increasing offset).nodup.count]
  simp only [mem_labelsAt]

/-- Among the rows of instructions a label has one if it stands for the offset of one of them. -/
theorem count_codeRows {name : String} {target : Nat}
    (stands : program.label? name = some target) (instructions : List Instruction) (start : Nat) :
    (program.codeRows (instructions.zipIdx start)).count (.label name) =
      if start ≤ target ∧ target < start + instructions.length then 1 else 0 := by
  induction instructions generalizing start with
  | nil => simp [codeRows]
  | cons instruction instructions induction =>
      have later := induction (start + 1)
      have no_label : [ListingRow.code start (program.enclosing start).length instruction].count
          (.label name) = 0 := List.count_eq_zero.mpr (by simp)
      rw [codeRows] at later
      rw [codeRows, List.zipIdx_cons, List.flatMap_cons, List.count_append, later,
        List.count_append, count_labelRows, stands, no_label]
      simp only [Option.some.injEq, List.length_cons]
      split <;> split <;> split <;> omega

/-- Every label has one row. -/
theorem count_label (program : Program) (name : String) :
    program.rows.count (.label name) = if program.labels.contains name then 1 else 0 := by
  rw [rows, List.count_append, count_labelRows, Table.contains]
  cases stands : program.labels.get? name with
  | none =>
      have nowhere (offset : Nat) : (program.labelRows offset).count (.label name) = 0 := by
        rw [count_labelRows, label?, stands]
        rfl
      have among : (program.codeRows program.instructions.zipIdx).count (.label name) = 0 := by
        refine List.count_eq_zero.mpr fun member => ?_
        obtain ⟨⟨instruction, offset⟩, -, inside⟩ := List.mem_flatMap.mp member
        exact List.count_eq_zero.mp (nowhere offset) (by simpa using inside)
      simp [among, label?, stands]
  | some target =>
      have bound : target ≤ program.length :=
        program.labels_le _ (Table.get?_eq_some_iff.mp stands)
      rw [count_codeRows stands, label?, stands, ← Program.length]
      simp only [Option.some.injEq, Option.isSome_some, Nat.zero_le, true_and, Nat.zero_add]
      split <;> split <;> simp <;> omega

/-- A listing has, in order of offsets, one row for each instruction, behind the rows of the labels
that stand for its offset, these in order of their names; the labels that point at the end come
last, and every label has one row.  An instruction is indented by two spaces for each block that it
lies inside of, which are the same for the two braces of a block.  The counter from which the
listing goes on at an offset is the number of blocks that are open there, and it is not zero in
front of a closing brace. -/
theorem listing_shows_blocks (program : Program) :
    program.listing = String.join (program.rows.map fun row => row.text ++ "\n") ∧
      (∀ offset, (program.labelsAt offset).Pairwise (· < ·) ∧
        ∀ name, name ∈ program.labelsAt offset ↔ program.label? name = some offset) ∧
      (∀ name, program.rows.count (.label name) =
        if program.labels.contains name then 1 else 0) ∧
      (∀ opening closing, program.blockEnd? opening = some closing →
        program.enclosing opening = program.enclosing closing) ∧
      ∀ offset ≤ program.length,
        let depth := countedDepth (program.instructions.take offset)
        (∃ front, listingLines program.labels 0 0 program.instructions =
          front ++ listingLines program.labels offset depth (program.instructions.drop offset)) ∧
        (depth : Int) = nesting (program.instructions.take offset) ∧
        (program.get? offset = some .closeBlock → 0 < depth) := by
  refine ⟨?_, fun offset => ⟨program.labelsAt_increasing offset, fun _ => mem_labelsAt⟩,
    program.count_label, fun _ _ => enclosing_braces, fun offset bound => ⟨?_, ?_, ?_⟩⟩
  · have lines : listingLines program.labels 0 0 program.instructions =
        program.rows.map ListingRow.text := @listingLines_eq_rows program [] _ rfl
    rw [listing, lines, List.map_map]
    rfl
  · have length : (program.instructions.take offset).length = offset := by
      rw [List.length_take]
      exact Nat.min_eq_left bound
    have behind := listingLines_append program.labels 0 0 (program.instructions.take offset)
      (program.instructions.drop offset)
    rwa [List.take_append_drop, Nat.zero_add, length] at behind
  · exact program.countedDepth_take offset
  · exact countedDepth_pos

end Program

end Gamebook
