import Gamebook.Proofs.Program.Blocks

/-!
# Counting braces

Whether the braces of instructions can be paired is a matter of counting: no front part closes more
blocks than it opens, and in the end as many are closed as opened.  Where that fails, linking
reports the first brace that closes nothing, or else the last one that is never closed.
-/

namespace Gamebook

variable {offset depth : Nat} {unclosed : List Nat} {instruction : Instruction}
  {instructions rest : List Instruction}

/-- With `depth` blocks open in front of the instructions, no front part closes more blocks than are
open. -/
def ClosesWithin (depth : Nat) (instructions : List Instruction) : Prop :=
  ∀ front, front <+: instructions → front.count .closeBlock ≤ front.count .openBlock + depth

namespace ClosesWithin

theorem nil : ClosesWithin depth [] := by
  intro front leading
  simp [List.prefix_nil.mp leading]

/-- The first instruction opens or closes a block or leaves the number of open ones as it is. -/
theorem cons_iff : ClosesWithin depth (instruction :: rest) ↔
    ∀ front, front <+: rest →
      (instruction :: front).count .closeBlock ≤
        (instruction :: front).count .openBlock + depth := by
  constructor
  · intro within front leading
    exact within _ (List.cons_prefix_cons.mpr ⟨rfl, leading⟩)
  · intro within front leading
    cases front with
    | nil => simp
    | cons first front =>
        obtain ⟨rfl, behind⟩ := List.cons_prefix_cons.mp leading
        exact within front behind

theorem open_iff :
    ClosesWithin depth (.openBlock :: rest) ↔ ClosesWithin (depth + 1) rest := by
  rw [cons_iff]
  refine forall₂_congr fun front _ => ?_
  rw [List.count_cons_self, List.count_cons_of_ne (by simp)]
  omega

theorem close_iff :
    ClosesWithin (depth + 1) (.closeBlock :: rest) ↔ ClosesWithin depth rest := by
  rw [cons_iff]
  refine forall₂_congr fun front _ => ?_
  rw [List.count_cons_self, List.count_cons_of_ne (by simp)]
  omega

theorem not_close : ¬ClosesWithin 0 (.closeBlock :: rest) := by
  intro within
  have := within [.closeBlock] (List.cons_prefix_cons.mpr ⟨rfl, List.nil_prefix⟩)
  simp at this

theorem plain_iff (no_open : instruction ≠ .openBlock) (no_close : instruction ≠ .closeBlock) :
    ClosesWithin depth (instruction :: rest) ↔ ClosesWithin depth rest := by
  rw [cons_iff]
  refine forall₂_congr fun front _ => ?_
  rw [List.count_cons_of_ne no_open, List.count_cons_of_ne no_close]

/-- One more instruction keeps within the open blocks if it does not close one too many. -/
theorem concat_iff : ClosesWithin depth (instructions ++ [instruction]) ↔
    ClosesWithin depth instructions ∧ (instructions ++ [instruction]).count .closeBlock ≤
      (instructions ++ [instruction]).count .openBlock + depth := by
  simp only [ClosesWithin, List.prefix_concat_iff, forall_eq_or_imp, and_comm]

end ClosesWithin

/-- Braces can be paired if no front part closes too many blocks and all of them are closed. -/
theorem pairBraces_ok_iff :
    (∃ blocks, pairBraces offset unclosed instructions = .ok blocks) ↔
      ClosesWithin unclosed.length instructions ∧
        instructions.count .closeBlock = instructions.count .openBlock + unclosed.length := by
  induction instructions generalizing offset unclosed with
  | nil => cases unclosed <;> simp [pairBraces, ClosesWithin.nil]
  | cons instruction rest induction =>
      by_cases opens : instruction = .openBlock
      · subst opens
        rw [pairBraces_open, induction, ClosesWithin.open_iff, List.count_cons_self,
          List.count_cons_of_ne (by simp), List.length_cons, Nat.add_right_comm, Nat.add_assoc]
      · by_cases closes : instruction = .closeBlock
        · subst closes
          cases unclosed with
          | nil => simp [pairBraces, ClosesWithin.not_close]
          | cons opening outer =>
              have later : (∃ blocks, pairBraces offset (opening :: outer) (.closeBlock :: rest) =
                  .ok blocks) ↔ ∃ blocks, pairBraces (offset + 1) outer rest = .ok blocks := by
                rw [pairBraces_close]
                cases pairBraces (offset + 1) outer rest <;> simp [Except.map]
              rw [later, induction, List.length_cons, ClosesWithin.close_iff,
                List.count_cons_self, List.count_cons_of_ne (by simp), ← Nat.add_assoc,
                Nat.add_right_cancel_iff]
        · rw [pairBraces_plain opens closes, induction, ClosesWithin.plain_iff opens closes,
            List.count_cons_of_ne opens, List.count_cons_of_ne closes]

/-- Instructions are balanced if no front part closes more blocks than it opens, and all that are
opened are closed. -/
theorem Balanced.iff_counts : Balanced instructions ↔
    ClosesWithin 0 instructions ∧ instructions.count .closeBlock = instructions.count .openBlock :=
  pairBraces_ok_iff

/-! ## Braces that cannot be paired -/

/-- Why the braces of instructions cannot be paired. -/
inductive Unpaired (instructions : List Instruction) : LinkError → Prop
  /-- A brace closes nothing: what stands in front of it is balanced. -/
  | close {front back : List Instruction} (split : instructions = front ++ .closeBlock :: back)
      (balanced : Balanced front) : Unpaired instructions (.unmatchedClose front.length)
  /-- A brace is never closed: what stands behind it is balanced. -/
  | block {front back : List Instruction} (split : instructions = front ++ .openBlock :: back)
      (within : ClosesWithin 0 front) (balanced : Balanced back) :
      Unpaired instructions (.unclosedBlock front.length)

/-- Braces are paired in a front part first if it does not close too many blocks. -/
theorem ClosesWithin.pairBraces_append (within : ClosesWithin unclosed.length instructions) :
    ∃ blocks left, ∀ rest, pairBraces offset unclosed (instructions ++ rest) =
      (pairBraces (offset + instructions.length) left rest).map (blocks ++ ·) := by
  induction instructions generalizing offset unclosed with
  | nil =>
      refine ⟨[], unclosed, fun rest => ?_⟩
      simp only [List.nil_append, List.length_nil, Nat.add_zero]
      cases pairBraces offset unclosed rest <;> rfl
  | cons instruction front induction =>
      have length : offset + (instruction :: front).length = offset + 1 + front.length := by
        simp only [List.length_cons]
        omega
      rw [length]
      by_cases opens : instruction = .openBlock
      · subst opens
        have inside : ClosesWithin (offset :: unclosed).length front := open_iff.mp within
        obtain ⟨blocks, left, paired⟩ := induction inside
        exact ⟨blocks, left, fun rest => by rw [List.cons_append, pairBraces_open, paired]⟩
      · by_cases closes : instruction = .closeBlock
        · subst closes
          cases unclosed with
          | nil => exact absurd within not_close
          | cons opening outer =>
              obtain ⟨blocks, left, paired⟩ := induction (close_iff.mp within)
              refine ⟨⟨opening, offset⟩ :: blocks, left, fun rest => ?_⟩
              rw [List.cons_append, pairBraces_close, paired]
              cases pairBraces (offset + 1 + front.length) left rest <;> rfl
        · obtain ⟨blocks, left, paired⟩ := induction ((plain_iff opens closes).mp within)
          exact ⟨blocks, left, fun rest => by
            rw [List.cons_append, pairBraces_plain opens closes, paired]⟩

namespace Unpaired

variable {error : LinkError}

/-- Linking reports what is wrong. -/
theorem blocksOf_eq (unpaired : Unpaired instructions error) :
    blocksOf instructions = .error error := by
  cases unpaired with
  | @close front back split balanced =>
      obtain ⟨blocks, paired⟩ := balanced
      rw [split, blocksOf]
      have reached := Gamebook.pairBraces_append paired [] (.closeBlock :: back)
      rw [List.nil_append] at reached
      rw [reached, pairBraces, Nat.zero_add]
      rfl
  | @block front back split within balanced =>
      have within : ClosesWithin ([] : List Nat).length front := within
      obtain ⟨blocks, left, reached⟩ : ∃ blocks left, ∀ rest, pairBraces 0 [] (front ++ rest) =
          (pairBraces (0 + front.length) left rest).map (blocks ++ ·) :=
        within.pairBraces_append
      obtain ⟨later, behind⟩ := (Balanced.iff_paired_at (0 + front.length + 1)).mp balanced
      have inside := Gamebook.pairBraces_append behind ((0 + front.length) :: left) []
      rw [List.nil_append, List.append_nil] at inside
      rw [split, blocksOf, reached, pairBraces_open, inside, pairBraces, Nat.zero_add]
      rfl

/-- If a front part closes too many blocks, then the first brace too many closes nothing. -/
theorem exists_close (beyond : ¬ClosesWithin 0 instructions) :
    ∃ front back, instructions = front ++ .closeBlock :: back ∧ Balanced front := by
  induction instructions using List.reverseRecOn with
  | nil => exact absurd .nil beyond
  | append_singleton front last induction =>
      by_cases within : ClosesWithin 0 front
      · have before := within front (List.prefix_refl front)
        have exceeds :
            (front ++ [last]).count .openBlock < (front ++ [last]).count .closeBlock := by
          by_contra bounded
          exact beyond (ClosesWithin.concat_iff.mpr ⟨within, by omega⟩)
        rw [List.count_append, List.count_append] at exceeds
        have closes : last = .closeBlock := by
          by_contra other
          rw [List.count_singleton, List.count_singleton] at exceeds
          simp only [beq_iff_eq, other, if_false] at exceeds
          omega
        subst closes
        have same : front.count .closeBlock = front.count .openBlock := by
          simp at exceeds
          omega
        exact ⟨front, [], rfl, Balanced.iff_counts.mpr ⟨within, same⟩⟩
      · obtain ⟨first, back, rfl, balanced⟩ := induction within
        exact ⟨first, back ++ [last], by simp, balanced⟩

/-- If not all blocks are closed, then the last brace too many is never closed. -/
theorem exists_block (within : ClosesWithin 0 instructions)
    (left : instructions.count .closeBlock < instructions.count .openBlock) :
    ∃ front back, instructions = front ++ .openBlock :: back ∧ ClosesWithin 0 front ∧
      Balanced back := by
  -- A block that the last brace closes is left out, so the induction is on the length.
  induction size : instructions.length using Nat.strongRecOn generalizing instructions with
  | ind size induction =>
      rcases List.eq_nil_or_concat instructions with rfl | ⟨front, last, rfl⟩
      · simp at left
      · rw [List.concat_eq_append] at *
        obtain ⟨before, -⟩ := ClosesWithin.concat_iff.mp within
        rw [List.length_append, List.length_singleton] at size
        by_cases opens : last = .openBlock
        · subst opens
          exact ⟨front, [], rfl, before, .nil⟩
        · by_cases closes : last = .closeBlock
          · subst closes
            simp only [List.count_append, List.count_singleton_self, List.count_singleton,
              beq_iff_eq, reduceCtorEq, if_false, Nat.add_zero] at left
            obtain ⟨outer, inside, rfl, opened, balanced⟩ :=
              induction front.length (by omega) before (by omega) rfl
            have even := (Balanced.iff_counts.mp balanced).2
            simp only [List.count_append, List.count_cons_self, ne_eq, reduceCtorEq,
              not_false_eq_true, List.count_cons_of_ne] at left
            rw [List.length_append] at size
            obtain ⟨first, back, rfl, reached, behind⟩ :=
              induction outer.length (by omega) opened (by omega) rfl
            refine ⟨first, back ++ .openBlock :: (inside ++ [.closeBlock]), by simp, reached, ?_⟩
            exact behind.append balanced.block
          · simp only [List.count_append, List.count_singleton, beq_iff_eq, opens, closes, if_false,
              Nat.add_zero] at left
            obtain ⟨first, back, rfl, reached, behind⟩ :=
              induction front.length (by omega) before left rfl
            refine ⟨first, back ++ [last], by simp, reached, ?_⟩
            exact behind.append (.single opens closes)

/-- Braces can be paired, or something is wrong with them. -/
theorem of_not_balanced (unbalanced : ¬Balanced instructions) :
    ∃ error, Unpaired instructions error := by
  by_cases within : ClosesWithin 0 instructions
  · have total := within instructions (List.prefix_refl instructions)
    have left : instructions.count .closeBlock < instructions.count .openBlock := by
      by_contra bounded
      exact unbalanced (Balanced.iff_counts.mpr ⟨within, by omega⟩)
    obtain ⟨front, back, split, opened, balanced⟩ := exists_block within left
    exact ⟨_, .block split opened balanced⟩
  · obtain ⟨front, back, split, balanced⟩ := exists_close within
    exact ⟨_, .close split balanced⟩

end Unpaired

/-- Linking says exactly why braces cannot be paired. -/
theorem blocksOf_error_iff {error : LinkError} :
    blocksOf instructions = .error error ↔ Unpaired instructions error := by
  refine ⟨fun failed => ?_, Unpaired.blocksOf_eq⟩
  have unbalanced : ¬Balanced instructions := by
    rintro ⟨blocks, paired⟩
    rw [paired] at failed
    cases failed
  obtain ⟨reason, unpaired⟩ := Unpaired.of_not_balanced unbalanced
  have same := unpaired.blocksOf_eq
  rw [failed] at same
  cases same
  exact unpaired

/-! ## Linking -/

namespace Program

variable {labels : Labels}

/-- Instructions and labels can be linked if the braces are balanced and no label points past the
end. -/
theorem exists_link_iff : (∃ program, link instructions labels = .ok program) ↔
    Balanced instructions ∧ ∀ entry ∈ labels.entries, entry.2 ≤ instructions.length := by
  constructor
  · rintro ⟨program, linked⟩
    obtain ⟨rfl, rfl⟩ := link_parts linked
    exact ⟨⟨program.blocks, program.linked⟩, program.labels_le⟩
  · rintro ⟨⟨blocks, paired⟩, inside⟩
    exact ⟨_, link_self ⟨instructions, labels, blocks, paired, inside⟩⟩

/-- Linking fails at the braces, or else at the first label that points past the end. -/
theorem link_error_iff {reason : LinkError} : link instructions labels = .error reason ↔
    Unpaired instructions reason ∨ Balanced instructions ∧ ∃ label offset,
      labels.entries.find? (fun entry => instructions.length < entry.2) = some (label, offset) ∧
        reason = .labelOutOfRange label offset instructions.length := by
  rw [← blocksOf_error_iff, link]
  split
  · rename_i error failed
    simp [failed, Balanced, eq_comm]
  · rename_i blocks paired
    have balanced : Balanced instructions := ⟨blocks, paired⟩
    split
    · rename_i label offset found
      simp [paired, balanced, found, eq_comm]
    · rename_i none_found
      simp [paired, none_found]

end Program

end Gamebook
