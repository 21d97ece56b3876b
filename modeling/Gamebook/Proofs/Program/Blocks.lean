import Gamebook.Program.Basic
import Mathlib.Tactic

/-!
# The blocks of a program

Linking pairs the braces of a program.  The pairs hold an opening and a closing brace each, every
opening brace is in one pair, and any two blocks are apart or one lies within the other.  Balanced
instructions keep their pairs wherever they stand.
-/

namespace Gamebook

/-! ## Pairing step by step -/

variable {offset : Nat} {unclosed inner outer : List Nat} {blocks : List BracePair}
  {instruction : Instruction} {rest : List Instruction}

theorem pairBraces_open :
    pairBraces offset unclosed (.openBlock :: rest) =
      pairBraces (offset + 1) (offset :: unclosed) rest := by
  rw [pairBraces]

theorem pairBraces_close (opening : Nat) :
    pairBraces offset (opening :: outer) (.closeBlock :: rest) =
      (pairBraces (offset + 1) outer rest).map (⟨opening, offset⟩ :: ·) := by
  rw [pairBraces]
  cases pairBraces (offset + 1) outer rest <;> rfl

theorem pairBraces_plain (no_open : instruction ≠ .openBlock)
    (no_close : instruction ≠ .closeBlock) :
    pairBraces offset unclosed (instruction :: rest) = pairBraces (offset + 1) unclosed rest := by
  cases instruction <;> first | contradiction | simp [pairBraces]

/-- How braces are paired that start with a given instruction. -/
theorem pairBraces_cons_ok
    (paired : pairBraces offset unclosed (instruction :: rest) = .ok blocks) :
    (instruction = .openBlock ∧ pairBraces (offset + 1) (offset :: unclosed) rest = .ok blocks) ∨
      (∃ opening outer later, instruction = .closeBlock ∧ unclosed = opening :: outer ∧
        blocks = ⟨opening, offset⟩ :: later ∧ pairBraces (offset + 1) outer rest = .ok later) ∨
      (instruction ≠ .openBlock ∧ instruction ≠ .closeBlock ∧
        pairBraces (offset + 1) unclosed rest = .ok blocks) := by
  by_cases opens : instruction = .openBlock
  · subst opens
    exact Or.inl ⟨rfl, pairBraces_open.symm.trans paired⟩
  · by_cases closes : instruction = .closeBlock
    · subst closes
      cases unclosed with
      | nil => simp [pairBraces] at paired
      | cons opening outer =>
          rw [pairBraces_close] at paired
          cases later : pairBraces (offset + 1) outer rest with
          | error error => simp [later, Except.map] at paired
          | ok tail =>
              rw [later] at paired
              exact Or.inr (Or.inl ⟨opening, outer, tail, rfl, rfl,
                (Except.ok.inj paired).symm, later⟩)
    · exact Or.inr (Or.inr ⟨opens, closes, (pairBraces_plain opens closes).symm.trans paired⟩)

/-! ## Balanced instructions -/

/-- Instructions whose braces are balanced on their own. -/
def Balanced (instructions : List Instruction) : Prop :=
  ∃ blocks, blocksOf instructions = .ok blocks

/-- A block that stands `shift` instructions further on. -/
def BracePair.shift (shift : Nat) (block : BracePair) : BracePair :=
  ⟨block.opening + shift, block.closing + shift⟩

/-- Pairing does not depend on where the instructions stand. -/
theorem pairBraces_shift (shift : Nat) {instructions : List Instruction}
    (paired : pairBraces offset unclosed instructions = .ok blocks) :
    pairBraces (offset + shift) (unclosed.map (· + shift)) instructions =
      .ok (blocks.map (BracePair.shift shift)) := by
  induction instructions generalizing offset unclosed blocks with
  | nil =>
      cases unclosed with
      | nil =>
          cases paired
          rfl
      | cons => simp [pairBraces] at paired
  | cons instruction rest induction =>
      rcases pairBraces_cons_ok paired with
        ⟨rfl, inside⟩ | ⟨opening, outer, later, rfl, rfl, rfl, behind⟩ | ⟨opens, closes, behind⟩
      · have shifted := induction inside
        rw [Nat.add_right_comm] at shifted
        rwa [pairBraces_open]
      · have shifted := induction behind
        rw [Nat.add_right_comm] at shifted
        rw [List.map_cons, pairBraces_close, shifted]
        rfl
      · have shifted := induction behind
        rw [Nat.add_right_comm] at shifted
        rwa [pairBraces_plain opens closes]

/-- Whether braces can be paired depends on the number of open blocks only. -/
theorem pairBraces_exists {instructions : List Instruction} {others : List Nat}
    (paired : pairBraces offset unclosed instructions = .ok blocks) (place : Nat)
    (same : others.length = unclosed.length) :
    ∃ placed, pairBraces place others instructions = .ok placed := by
  induction instructions generalizing offset unclosed blocks place others with
  | nil =>
      cases unclosed with
      | nil =>
          obtain rfl := List.length_eq_zero_iff.mp same
          exact ⟨[], rfl⟩
      | cons => simp [pairBraces] at paired
  | cons instruction rest induction =>
      rcases pairBraces_cons_ok paired with
        ⟨rfl, inside⟩ | ⟨opening, outer, later, rfl, rfl, rfl, behind⟩ | ⟨opens, closes, behind⟩
      · rw [pairBraces_open]
        exact induction inside (place + 1) (congrArg (· + 1) same)
      · obtain ⟨innermost, others, rfl⟩ := List.exists_cons_of_length_eq_add_one same
        obtain ⟨placed, paired_on⟩ := induction behind (place + 1) (Nat.succ.inj same)
        rw [pairBraces_close, paired_on]
        exact ⟨_, rfl⟩
      · rw [pairBraces_plain opens closes]
        exact induction behind (place + 1) same

/-- Instructions that close the blocks they open leave the blocks around them to what follows. -/
theorem pairBraces_append {first : List Instruction}
    (paired : pairBraces offset inner first = .ok blocks) (outer : List Nat)
    (rest : List Instruction) :
    pairBraces offset (inner ++ outer) (first ++ rest) =
      (pairBraces (offset + first.length) outer rest).map (blocks ++ ·) := by
  induction first generalizing offset inner blocks with
  | nil =>
      cases inner with
      | nil =>
          cases paired
          simp only [List.nil_append, List.length_nil, Nat.add_zero]
          cases pairBraces offset outer rest <;> rfl
      | cons => simp [pairBraces] at paired
  | cons instruction tail induction =>
      have length : offset + (instruction :: tail).length = offset + 1 + tail.length := by
        simp only [List.length_cons]
        omega
      rw [length, List.cons_append]
      rcases pairBraces_cons_ok paired with
        ⟨rfl, inside⟩ | ⟨opening, others, later, rfl, rfl, rfl, behind⟩ | ⟨opens, closes, behind⟩
      · rw [pairBraces_open]
        exact induction inside
      · rw [List.cons_append, pairBraces_close, induction behind]
        cases pairBraces (offset + 1 + tail.length) outer rest <;> rfl
      · rw [pairBraces_plain opens closes]
        exact induction behind

/-- The blocks of balanced instructions are blocks of whatever the instructions stand in. -/
theorem shift_mem_blocks {before inside after : List Instruction} {within : List BracePair}
    {block : BracePair} (balanced : blocksOf inside = .ok within) (member : block ∈ within)
    (paired : pairBraces offset unclosed (before ++ (inside ++ after)) = .ok blocks) :
    block.shift (offset + before.length) ∈ blocks := by
  induction before generalizing offset unclosed blocks with
  | nil =>
      have placed := pairBraces_shift offset balanced
      rw [Nat.zero_add] at placed
      have enclosed := pairBraces_append placed unclosed after
      rw [List.map_nil, List.nil_append, ← List.nil_append (inside ++ after), paired] at enclosed
      cases behind : pairBraces (offset + inside.length) unclosed after with
      | error error => simp [behind, Except.map] at enclosed
      | ok later =>
          rw [behind] at enclosed
          obtain rfl : blocks = within.map (BracePair.shift offset) ++ later :=
            Except.ok.inj enclosed
          exact List.mem_append_left _ (List.mem_map_of_mem member)
  | cons instruction rest induction =>
      have length : offset + (instruction :: rest).length = offset + 1 + rest.length := by
        simp only [List.length_cons]
        omega
      rw [length]
      rcases pairBraces_cons_ok paired with
        ⟨-, within⟩ | ⟨opening, outer, later, -, -, rfl, behind⟩ | ⟨-, -, behind⟩
      · exact induction within
      · exact List.mem_cons_of_mem _ (induction behind)
      · exact induction behind

/-- The blocks of balanced instructions in braces are theirs and the one that the braces make up. -/
theorem blocksOf_block {inside : List Instruction} (balanced : blocksOf inside = .ok blocks) :
    blocksOf (.openBlock :: (inside ++ [.closeBlock])) =
      .ok (blocks.map (BracePair.shift 1) ++ [⟨0, 1 + inside.length⟩]) := by
  have placed := pairBraces_shift 1 balanced
  rw [Nat.zero_add] at placed
  rw [blocksOf, pairBraces_open]
  exact pairBraces_append placed [0] [.closeBlock]

namespace Balanced

variable {first second instructions : List Instruction}

/-- Instructions are balanced if they can be paired wherever they stand. -/
theorem iff_paired_at (offset : Nat) :
    Balanced instructions ↔ ∃ blocks, pairBraces offset [] instructions = .ok blocks :=
  ⟨fun ⟨_, paired⟩ => pairBraces_exists paired offset rfl,
    fun ⟨_, paired⟩ => pairBraces_exists paired 0 rfl⟩

theorem nil : Balanced [] := ⟨[], rfl⟩

theorem append (left : Balanced first) (right : Balanced second) : Balanced (first ++ second) := by
  obtain ⟨blocks, paired⟩ := left
  obtain ⟨later, behind⟩ := (iff_paired_at (0 + first.length)).mp right
  have joined := pairBraces_append paired [] second
  rw [behind] at joined
  exact ⟨blocks ++ later, joined⟩

theorem single (no_open : instruction ≠ .openBlock) (no_close : instruction ≠ .closeBlock) :
    Balanced [instruction] :=
  ⟨[], pairBraces_plain no_open no_close⟩

/-- Balanced instructions in braces are balanced. -/
theorem block (balanced : Balanced instructions) :
    Balanced (.openBlock :: (instructions ++ [.closeBlock])) := by
  obtain ⟨blocks, paired⟩ := balanced
  exact ⟨_, blocksOf_block paired⟩

theorem flatMap {α : Type} {items : List α} {code : α → List Instruction}
    (each : ∀ item ∈ items, Balanced (code item)) : Balanced (items.flatMap code) := by
  induction items with
  | nil => exact nil
  | cons item items induction =>
      rw [List.flatMap_cons]
      exact (each item List.mem_cons_self).append
        (induction fun other member => each other (List.mem_cons_of_mem item member))

/-- Instructions without braces are balanced. -/
theorem of_braceless (no_open : .openBlock ∉ instructions) (no_close : .closeBlock ∉ instructions) :
    Balanced instructions := by
  rw [← List.flatMap_singleton' instructions]
  refine flatMap fun instruction member => single ?_ ?_
  · rintro rfl
    exact no_open member
  · rintro rfl
    exact no_close member

end Balanced

/-! ## What the pairs hold -/

/-- Every pair holds an opening and a closing brace; `before` are the instructions in front of those
that are paired. -/
theorem pairBraces_braces (before : List Instruction) {instructions : List Instruction}
    (paired : pairBraces before.length unclosed instructions = .ok blocks)
    (opened : ∀ opening ∈ unclosed, (before ++ instructions)[opening]? = some .openBlock ∧
      opening < before.length) :
    ∀ block ∈ blocks,
      (before ++ instructions)[block.opening]? = some .openBlock ∧
        (before ++ instructions)[block.closing]? = some .closeBlock ∧
          block.opening < block.closing ∧ before.length ≤ block.closing := by
  induction instructions generalizing before unclosed blocks with
  | nil =>
      cases unclosed with
      | nil =>
          cases paired
          simp
      | cons => simp [pairBraces] at paired
  | cons instruction rest induction =>
      have moved : before ++ instruction :: rest = before ++ [instruction] ++ rest := by simp
      have length : (before ++ [instruction]).length = before.length + 1 := by simp
      have here : (before ++ instruction :: rest)[before.length]? = some instruction := by simp
      rcases pairBraces_cons_ok paired with
        ⟨rfl, inside⟩ | ⟨opening, outer, later, rfl, rfl, rfl, behind⟩ | ⟨-, -, behind⟩
      · rw [← length] at inside
        intro block member
        have found := induction (before ++ [.openBlock]) inside (fun opening member => by
          rcases List.mem_cons.mp member with rfl | member
          · exact ⟨moved ▸ here, by omega⟩
          · have := opened opening member
            exact ⟨moved ▸ this.1, by omega⟩) block member
        rw [← moved] at found
        exact ⟨found.1, found.2.1, found.2.2.1, by omega⟩
      · have outermost := opened opening List.mem_cons_self
        rw [← length] at behind
        intro block member
        rcases List.mem_cons.mp member with rfl | member
        · exact ⟨outermost.1, here, outermost.2, Nat.le_refl _⟩
        · have found := induction (before ++ [.closeBlock]) behind (fun other member => by
            have := opened other (List.mem_cons_of_mem opening member)
            exact ⟨moved ▸ this.1, by omega⟩) block member
          rw [← moved] at found
          exact ⟨found.1, found.2.1, found.2.2.1, by omega⟩
      · rw [← length] at behind
        intro block member
        have found := induction (before ++ [instruction]) behind (fun opening member => by
          have := opened opening member
          exact ⟨moved ▸ this.1, by omega⟩) block member
        rw [← moved] at found
        exact ⟨found.1, found.2.1, found.2.2.1, by omega⟩

/-- Every opening brace is paired. -/
theorem pairBraces_total (before : List Instruction) {instructions : List Instruction}
    (paired : pairBraces before.length unclosed instructions = .ok blocks) {opening : Nat}
    (open_brace : opening ∈ unclosed ∨ before.length ≤ opening ∧
      (before ++ instructions)[opening]? = some .openBlock) :
    ∃ closing, (⟨opening, closing⟩ : BracePair) ∈ blocks := by
  induction instructions generalizing before unclosed blocks with
  | nil =>
      cases unclosed with
      | nil =>
          simp only [List.not_mem_nil, false_or, List.append_nil, List.getElem?_eq_some_iff]
            at open_brace
          obtain ⟨bound, inside, -⟩ := open_brace
          omega
      | cons => simp [pairBraces] at paired
  | cons instruction rest induction =>
      have moved : before ++ instruction :: rest = before ++ [instruction] ++ rest := by simp
      have length : (before ++ [instruction]).length = before.length + 1 := by simp
      have later (no_open : instruction ≠ .openBlock) (bound : before.length ≤ opening)
          (found : (before ++ instruction :: rest)[opening]? = some .openBlock) :
          (before ++ [instruction]).length ≤ opening := by
        rcases Nat.eq_or_lt_of_le bound with rfl | less
        · simp [no_open] at found
        · omega
      rw [moved] at open_brace later
      rcases pairBraces_cons_ok paired with
        ⟨rfl, inside⟩ | ⟨innermost, outer, tail, rfl, rfl, rfl, behind⟩ | ⟨no_open, -, behind⟩
      · rw [← length] at inside
        apply induction _ inside
        rcases open_brace with member | ⟨bound, found⟩
        · exact Or.inl (List.mem_cons_of_mem _ member)
        · rcases Nat.eq_or_lt_of_le bound with rfl | less
          · exact Or.inl List.mem_cons_self
          · exact Or.inr ⟨by omega, found⟩
      · rw [← length] at behind
        have among : opening = innermost ∨ opening ∈ outer ∨
            (before ++ [Instruction.closeBlock]).length ≤ opening ∧
              (before ++ [Instruction.closeBlock] ++ rest)[opening]? = some .openBlock := by
          rcases open_brace with member | ⟨bound, found⟩
          · exact (List.mem_cons.mp member).imp_right Or.inl
          · exact Or.inr (Or.inr ⟨later (by simp) bound found, found⟩)
        rcases among with rfl | among
        · exact ⟨_, List.mem_cons_self⟩
        · obtain ⟨closing, member⟩ := induction _ behind among
          exact ⟨closing, List.mem_cons_of_mem _ member⟩
      · rw [← length] at behind
        apply induction _ behind
        exact open_brace.imp_right fun ⟨bound, found⟩ => ⟨later no_open bound found, found⟩

/-- Blocks that are open, innermost first, in front of an offset. -/
def OpenAt (offset : Nat) (unclosed : List Nat) : Prop :=
  unclosed.Pairwise (· > ·) ∧ ∀ opening ∈ unclosed, opening < offset

namespace OpenAt

variable {opening : Nat}

theorem nil : OpenAt offset [] :=
  ⟨.nil, by simp⟩

theorem opens (open_at : OpenAt offset unclosed) : OpenAt (offset + 1) (offset :: unclosed) :=
  ⟨List.pairwise_cons.mpr ⟨open_at.2, open_at.1⟩, fun opening member => by
    rcases List.mem_cons.mp member with rfl | member
    · omega
    · have := open_at.2 opening member
      omega⟩

theorem next (open_at : OpenAt offset unclosed) : OpenAt (offset + 1) unclosed :=
  ⟨open_at.1, fun opening member => by
    have := open_at.2 opening member
    omega⟩

theorem closes (open_at : OpenAt offset (opening :: outer)) : OpenAt (offset + 1) outer :=
  next ⟨(List.pairwise_cons.mp open_at.1).2, fun other member =>
    open_at.2 other (List.mem_cons_of_mem _ member)⟩

end OpenAt

/-- Two blocks in the order in which they close: the second one lies behind the first or around it.
-/
def BracePair.Precedes (first second : BracePair) : Prop :=
  first.closing < second.closing ∧
    (second.opening < first.opening ∨ first.closing < second.opening)

theorem pairBraces_pairwise {instructions : List Instruction}
    (paired : pairBraces offset unclosed instructions = .ok blocks)
    (open_at : OpenAt offset unclosed) :
    blocks.Pairwise BracePair.Precedes ∧
      ∀ block ∈ blocks, offset ≤ block.closing ∧
        (block.opening ∈ unclosed ∨ offset ≤ block.opening) := by
  induction instructions generalizing offset unclosed blocks with
  | nil =>
      cases unclosed with
      | nil =>
          cases paired
          simp
      | cons => simp [pairBraces] at paired
  | cons instruction rest induction =>
      rcases pairBraces_cons_ok paired with
        ⟨rfl, inside⟩ | ⟨opening, outer, later, rfl, rfl, rfl, behind⟩ | ⟨-, -, behind⟩
      · obtain ⟨ordered, placed⟩ := induction inside open_at.opens
        refine ⟨ordered, ?_⟩
        intro block member
        obtain ⟨closing, where_opened⟩ := placed block member
        refine ⟨by omega, ?_⟩
        rcases where_opened with member | bound
        · rcases List.mem_cons.mp member with same | member
          · exact Or.inr same.ge
          · exact Or.inl member
        · exact Or.inr (by omega)
      · obtain ⟨innermost, -⟩ := List.pairwise_cons.mp open_at.1
        have below := open_at.2 opening List.mem_cons_self
        obtain ⟨ordered, placed⟩ := induction behind open_at.closes
        constructor
        · apply List.pairwise_cons.mpr
          refine ⟨?_, ordered⟩
          intro block member
          obtain ⟨closing, where_opened⟩ := placed block member
          refine ⟨by simp; omega, ?_⟩
          rcases where_opened with member | bound
          · exact Or.inl (innermost _ member)
          · exact Or.inr (by simp; omega)
        · intro block member
          rcases List.mem_cons.mp member with rfl | member
          · exact ⟨Nat.le_refl _, Or.inl List.mem_cons_self⟩
          · obtain ⟨closing, where_opened⟩ := placed block member
            refine ⟨by omega, ?_⟩
            rcases where_opened with member | bound
            · exact Or.inl (List.mem_cons_of_mem opening member)
            · exact Or.inr (by omega)
      · obtain ⟨ordered, placed⟩ := induction behind open_at.next
        refine ⟨ordered, fun block member => ?_⟩
        obtain ⟨closing, where_opened⟩ := placed block member
        exact ⟨by omega, where_opened.imp_right (by omega)⟩

/-- Every closing brace is paired. -/
theorem pairBraces_closes {instructions : List Instruction} {shift : Nat}
    (paired : pairBraces offset unclosed instructions = .ok blocks)
    (closes : instructions[shift]? = some .closeBlock) :
    ∃ opening, (⟨opening, offset + shift⟩ : BracePair) ∈ blocks := by
  induction instructions generalizing offset unclosed blocks shift with
  | nil => simp at closes
  | cons instruction rest induction =>
      cases shift with
      | zero =>
          obtain rfl : instruction = .closeBlock := by simpa using closes
          rcases pairBraces_cons_ok paired with
            ⟨same, -⟩ | ⟨opening, outer, later, -, -, rfl, -⟩ | ⟨-, other, -⟩
          · cases same
          · exact ⟨opening, List.mem_cons_self⟩
          · exact absurd rfl other
      | succ shift =>
          rw [List.getElem?_cons_succ] at closes
          rw [show offset + (shift + 1) = offset + 1 + shift by omega]
          rcases pairBraces_cons_ok paired with
            ⟨-, inside⟩ | ⟨opening, outer, later, -, -, rfl, behind⟩ | ⟨-, -, behind⟩
          · exact induction inside closes
          · obtain ⟨other, member⟩ := induction behind closes
            exact ⟨other, List.mem_cons_of_mem _ member⟩
          · exact induction behind closes

/-- The blocks that are open somewhere, and those that close from there on. -/
theorem pairBraces_behind {before : List Instruction}
    (paired : pairBraces offset unclosed (before ++ rest) = .ok blocks)
    (open_at : OpenAt offset unclosed) :
    ∃ still later, pairBraces (offset + before.length) still rest = .ok later ∧
      OpenAt (offset + before.length) still ∧
        ∀ block ∈ blocks, offset + before.length ≤ block.closing → block ∈ later := by
  induction before generalizing offset unclosed blocks with
  | nil => exact ⟨unclosed, blocks, paired, open_at, fun _ member _ => member⟩
  | cons instruction tail induction =>
      have length : offset + (instruction :: tail).length = offset + 1 + tail.length := by
        simp only [List.length_cons]
        omega
      rw [length]
      rcases pairBraces_cons_ok paired with
        ⟨-, inside⟩ | ⟨opening, outer, later, -, rfl, rfl, behind⟩ | ⟨-, -, behind⟩
      · exact induction inside open_at.opens
      · obtain ⟨still, last, paired_on, open_on, kept⟩ := induction behind open_at.closes
        refine ⟨still, last, paired_on, open_on, fun block member bound => kept block ?_ bound⟩
        rcases List.mem_cons.mp member with rfl | member
        · simp only at bound
          omega
        · exact member
      · exact induction behind open_at.next

/-- What stands between the braces of a block closes the blocks it opens; `inner` are those that are
open in front of it. -/
theorem pairBraces_between {top : Nat} {inside after : List Instruction}
    (paired : pairBraces offset (inner ++ top :: outer) (inside ++ .closeBlock :: after) =
      .ok blocks)
    (open_at : OpenAt offset (inner ++ top :: outer))
    (member : (⟨top, offset + inside.length⟩ : BracePair) ∈ blocks) :
    ∃ within, pairBraces offset inner inside = .ok within := by
  induction inside generalizing offset inner blocks with
  | nil =>
      cases inner with
      | nil => exact ⟨[], rfl⟩
      | cons opening inner =>
          rcases pairBraces_cons_ok paired with
            ⟨same, -⟩ | ⟨_, _, later, -, ⟨⟩, rfl, behind⟩ | ⟨-, other, -⟩
          · cases same
          · have innermost := (List.pairwise_cons.mp open_at.1).1 top (by simp)
            rcases List.mem_cons.mp member with same | later_member
            · have := (BracePair.mk.inj same).1
              omega
            · have := ((pairBraces_pairwise behind open_at.closes).2 _ later_member).1
              simp at this
          · exact absurd rfl other
  | cons instruction rest induction =>
      have length : offset + (instruction :: rest).length = offset + 1 + rest.length := by
        simp only [List.length_cons]
        omega
      rw [length] at member
      rcases pairBraces_cons_ok paired with
        ⟨rfl, inside⟩ | ⟨opening, others, later, rfl, unclosed, rfl, behind⟩ |
          ⟨opens, closes, behind⟩
      · rw [pairBraces_open]
        rw [← List.cons_append] at inside
        exact induction inside open_at.opens member
      · have later_member : (⟨top, offset + 1 + rest.length⟩ : BracePair) ∈ later := by
          refine (List.mem_cons.mp member).resolve_left fun same => ?_
          have := (BracePair.mk.inj same).2
          omega
        rw [unclosed] at open_at
        have placed := (pairBraces_pairwise behind open_at.closes).2 _ later_member
        cases inner with
        | nil =>
            -- The block would have closed already.
            obtain ⟨rfl, rfl⟩ := List.cons.inj unclosed
            have below := open_at.2 top List.mem_cons_self
            rcases placed.2 with again | bound
            · exact absurd ((List.pairwise_cons.mp open_at.1).1 top again) (Nat.lt_irrefl _)
            · simp only at bound
              omega
        | cons innermost inner =>
            obtain ⟨rfl, rfl⟩ := List.cons.inj unclosed
            obtain ⟨within, paired_within⟩ := induction behind open_at.closes later_member
            rw [pairBraces_close, paired_within]
            exact ⟨_, rfl⟩
      · rw [pairBraces_plain opens closes]
        exact induction behind open_at.next member

/-! ## The blocks of a linked program -/

namespace Program

variable {program : Program} {opening closing : Nat}

/-- Linking keeps instructions and labels as they are. -/
theorem link_parts {instructions : List Instruction} {labels : Labels}
    (linked : Program.link instructions labels = .ok program) :
    program.instructions = instructions ∧ program.labels = labels := by
  rw [Program.link] at linked
  split at linked
  · cases linked
  · split at linked
    · cases linked
    · cases linked
      exact ⟨rfl, rfl⟩

/-- A linked program is what linking its instructions and labels gives. -/
theorem link_self (program : Program) :
    Program.link program.instructions program.labels = .ok program := by
  rw [Program.link]
  split
  · rename_i error failed
    rw [program.linked] at failed
    cases failed
  · split
    · rename_i label offset out_of_range
      have beyond := List.find?_some out_of_range
      have bound := program.labels_le _ (List.mem_of_find?_eq_some out_of_range)
      simp only [decide_eq_true_eq] at beyond bound
      omega
    · exact congrArg Except.ok (Program.ext rfl rfl)

private theorem blocks_pairwise (program : Program) :
    program.blocks.Pairwise BracePair.Precedes :=
  (pairBraces_pairwise program.linked .nil).1

/-- Two blocks are the same or one of them precedes the other. -/
private theorem blocks_connected {first second : BracePair} (first_mem : first ∈ program.blocks)
    (second_mem : second ∈ program.blocks) :
    first = second ∨ first.Precedes second ∨ second.Precedes first := by
  by_cases same : first = second
  · exact Or.inl same
  · have either : program.blocks.Pairwise fun first second =>
        first.Precedes second ∨ second.Precedes first :=
      program.blocks_pairwise.imp Or.inl
    have : Std.Symm fun first second : BracePair =>
        first.Precedes second ∨ second.Precedes first := ⟨fun _ _ => Or.symm⟩
    exact Or.inr (either.forall first_mem second_mem same)

/-- The braces that `blockEnd?` pairs are those of the blocks. -/
theorem blockEnd?_eq_some_iff :
    program.blockEnd? opening = some closing ↔ ⟨opening, closing⟩ ∈ program.blocks := by
  constructor
  · intro found
    obtain ⟨block, first, rfl⟩ := Option.map_eq_some_iff.mp found
    have same : block.opening = opening := by simpa using List.find?_some first
    exact same ▸ List.mem_of_find?_eq_some first
  · intro member
    have some_block : (program.blocks.find? fun block => block.opening = opening).isSome :=
      List.find?_isSome.mpr ⟨_, member, by simp⟩
    obtain ⟨block, first⟩ := Option.isSome_iff_exists.mp some_block
    have same : block.opening = opening := by simpa using List.find?_some first
    have unique : block = ⟨opening, closing⟩ := by
      rcases blocks_connected (List.mem_of_find?_eq_some first) member with equal | before | after
      · exact equal
      · obtain ⟨-, -, opens_first, -⟩ := pairBraces_braces [] program.linked (by simp) _
          (List.mem_of_find?_eq_some first)
        have apart := before.2
        simp only at apart
        omega
      · obtain ⟨-, -, opens_first, -⟩ := pairBraces_braces [] program.linked (by simp) _ member
        have apart := after.2
        simp only at apart opens_first
        omega
    rw [blockEnd?, first, unique]
    rfl

/-- The two braces of a block. -/
theorem blockEnd?_braces (found : program.blockEnd? opening = some closing) :
    program.get? opening = some .openBlock ∧ program.get? closing = some .closeBlock ∧
      opening < closing := by
  have braces := pairBraces_braces [] program.linked (by simp) _ (blockEnd?_eq_some_iff.mp found)
  exact ⟨braces.1, braces.2.1, braces.2.2.1⟩

/-- Every opening brace opens a block. -/
theorem exists_blockEnd? (opens : program.get? opening = some .openBlock) :
    ∃ closing, program.blockEnd? opening = some closing := by
  obtain ⟨closing, member⟩ :=
    pairBraces_total [] program.linked (Or.inr ⟨Nat.zero_le _, opens⟩)
  exact ⟨closing, blockEnd?_eq_some_iff.mpr member⟩

/-- A brace closes one block only. -/
theorem blockEnd?_injective {other : Nat} (found : program.blockEnd? opening = some closing)
    (again : program.blockEnd? other = some closing) : opening = other := by
  rcases blocks_connected (blockEnd?_eq_some_iff.mp found) (blockEnd?_eq_some_iff.mp again) with
    equal | before | after
  · exact (BracePair.mk.inj equal).1
  · exact absurd before.1 (Nat.lt_irrefl _)
  · exact absurd after.1 (Nat.lt_irrefl _)

/-- Of two blocks the one that opens later closes within the other, or opens behind it. -/
theorem blocks_nested {inner inner_end : Nat} (outer : program.blockEnd? opening = some closing)
    (found : program.blockEnd? inner = some inner_end) (later : opening < inner) :
    closing < inner ∨ inner_end < closing := by
  rcases blocks_connected (blockEnd?_eq_some_iff.mp outer) (blockEnd?_eq_some_iff.mp found) with
    equal | before | after
  · simp only [BracePair.mk.injEq] at equal
    omega
  · have := before.2
    simp only at this
    omega
  · exact Or.inr after.1

/-! ## Code at an offset -/

/-- Instructions that stand in a program, the first one at an offset. -/
def Holds (program : Program) (offset : Nat) (code : List Instruction) : Prop :=
  ∃ before after, program.instructions = before ++ (code ++ after) ∧ before.length = offset

variable {offset : Nat} {first second inside : List Instruction} {instruction : Instruction}

theorem Holds.left (holds : program.Holds offset (first ++ second)) :
    program.Holds offset first := by
  obtain ⟨before, after, split, rfl⟩ := holds
  exact ⟨before, second ++ after, by rw [split, List.append_assoc], rfl⟩

theorem Holds.right (holds : program.Holds offset (first ++ second)) :
    program.Holds (offset + first.length) second := by
  obtain ⟨before, after, split, rfl⟩ := holds
  exact ⟨before ++ first, after, by simp [split], by simp⟩

theorem Holds.head (holds : program.Holds offset (instruction :: first)) :
    program.get? offset = some instruction := by
  obtain ⟨before, after, split, rfl⟩ := holds
  simp [get?, split]

theorem Holds.tail (holds : program.Holds offset (instruction :: first)) :
    program.Holds (offset + 1) first :=
  (show program.Holds offset ([instruction] ++ first) from holds).right

theorem Holds.length_le (holds : program.Holds offset first) :
    offset + first.length ≤ program.length := by
  obtain ⟨before, after, split, rfl⟩ := holds
  simp only [length, split, List.length_append]
  omega

theorem Holds.get?_add (holds : program.Holds offset first) {shift : Nat}
    (inside : shift < first.length) : program.get? (offset + shift) = first[shift]? := by
  obtain ⟨before, after, split, rfl⟩ := holds
  rw [get?, split, List.getElem?_append_right (Nat.le_add_right _ _), Nat.add_sub_cancel_left,
    List.getElem?_append_left inside]

/-- The blocks of balanced instructions are blocks wherever the instructions stand. -/
theorem Holds.blockEnd?_shift {blocks : List BracePair} {block : BracePair}
    (holds : program.Holds offset inside) (balanced : blocksOf inside = .ok blocks)
    (member : block ∈ blocks) :
    program.blockEnd? (block.opening + offset) = some (block.closing + offset) := by
  obtain ⟨before, after, split, rfl⟩ := holds
  have placed := shift_mem_blocks balanced member (split ▸ program.linked)
  rw [Nat.zero_add] at placed
  exact blockEnd?_eq_some_iff.mpr placed

/-- Instructions in braces are a block exactly if they are balanced. -/
theorem Holds.blockEnd?_iff
    (holds : program.Holds offset (.openBlock :: (inside ++ [.closeBlock]))) :
    program.blockEnd? offset = some (offset + 1 + inside.length) ↔ Balanced inside := by
  constructor
  · intro found
    obtain ⟨before, after, split, rfl⟩ := holds
    have paired := program.linked
    rw [split, blocksOf] at paired
    obtain ⟨still, later, behind, open_at, kept⟩ := pairBraces_behind paired .nil
    rw [Nat.zero_add] at behind open_at kept
    have member := kept _ (blockEnd?_eq_some_iff.mp found) (by simp only; omega)
    rw [List.cons_append, List.append_assoc, pairBraces_open] at behind
    exact (Balanced.iff_paired_at _).mpr (pairBraces_between behind open_at.opens member)
  · rintro ⟨blocks, paired⟩
    have member : (⟨0, 1 + inside.length⟩ : BracePair) ∈
        blocks.map (BracePair.shift 1) ++ [⟨0, 1 + inside.length⟩] := by simp
    have placed := holds.blockEnd?_shift (blocksOf_block paired) member
    simp only [Nat.zero_add] at placed
    rw [placed]
    congr 1
    omega

/-- Balanced instructions in braces are a block wherever they stand. -/
theorem Holds.blockEnd? (holds : program.Holds offset (.openBlock :: (inside ++ [.closeBlock])))
    (balanced : Balanced inside) :
    program.blockEnd? offset = some (offset + 1 + inside.length) :=
  holds.blockEnd?_iff.mpr balanced

/-! ## Places that blocks do not leave -/

/-- An opening brace of balanced instructions is paired with a closing one of theirs. -/
theorem Holds.exists_blockEnd? (holds : program.Holds offset inside) (balanced : Balanced inside)
    {shift : Nat} (opens : inside[shift]? = some .openBlock) :
    ∃ last, inside[last]? = some .closeBlock ∧
      program.blockEnd? (offset + shift) = some (offset + last) := by
  obtain ⟨blocks, paired⟩ := balanced
  obtain ⟨last, member⟩ := pairBraces_total [] paired (Or.inr ⟨Nat.zero_le _, opens⟩)
  have closes := (pairBraces_braces [] paired (by simp) _ member).2.1
  have placed := holds.blockEnd?_shift paired member
  rw [Nat.add_comm shift, Nat.add_comm last] at placed
  exact ⟨last, closes, placed⟩

/-- A closing brace of balanced instructions is paired with an opening one of theirs. -/
theorem Holds.exists_opening (holds : program.Holds offset inside) (balanced : Balanced inside)
    {shift : Nat} (closes : inside[shift]? = some .closeBlock) :
    ∃ first, inside[first]? = some .openBlock ∧
      program.blockEnd? (offset + first) = some (offset + shift) := by
  obtain ⟨blocks, paired⟩ := balanced
  obtain ⟨first, member⟩ := pairBraces_closes paired closes
  rw [Nat.zero_add] at member
  have opens := (pairBraces_braces [] paired (by simp) _ member).1
  have placed := holds.blockEnd?_shift paired member
  rw [Nat.add_comm first, Nat.add_comm shift] at placed
  exact ⟨first, opens, placed⟩

/-- Blocks have both braces from `start` on and before `stop`, or none. -/
def Seals (program : Program) (start stop : Nat) : Prop :=
  ∀ opening closing, program.blockEnd? opening = some closing →
    ((start ≤ opening ∧ opening < stop) ↔ (start ≤ closing ∧ closing < stop))

/-- No block crosses the boundary of balanced instructions. -/
theorem Holds.seals (holds : program.Holds offset inside) (balanced : Balanced inside) :
    program.Seals offset (offset + inside.length) := by
  intro opening closing found
  obtain ⟨opens, closes, -⟩ := blockEnd?_braces found
  constructor
  · rintro ⟨bound, less⟩
    obtain ⟨shift, rfl⟩ := Nat.exists_eq_add_of_le bound
    rw [holds.get?_add (by omega)] at opens
    obtain ⟨last, at_last, again⟩ := holds.exists_blockEnd? balanced opens
    have := (List.getElem?_eq_some_iff.mp at_last).1
    have := Option.some.inj (found.symm.trans again)
    omega
  · rintro ⟨bound, less⟩
    obtain ⟨shift, rfl⟩ := Nat.exists_eq_add_of_le bound
    rw [holds.get?_add (by omega)] at closes
    obtain ⟨first, at_first, again⟩ := holds.exists_opening balanced closes
    have := (List.getElem?_eq_some_iff.mp at_first).1
    have := blockEnd?_injective found again
    omega

end Program

end Gamebook
