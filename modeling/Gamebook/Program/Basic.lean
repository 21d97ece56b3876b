import Gamebook.Program.Instruction
import Gamebook.Table

/-!
# Linked programs

A program is a list of instructions and a table of labels.  Linking pairs every opening brace with
the closing brace that ends its block; it fails if the braces are not balanced or if a label points
past the end.  The pairs are a function of the instructions, which `Program.linked` records.
-/

namespace Gamebook

/-- The offsets that labels stand for. -/
abbrev Labels := Table Nat

/-- Why a program cannot be linked. -/
inductive LinkError
  /-- A closing brace has no opening one. -/
  | unmatchedClose (offset : Nat)
  /-- An opening brace has no closing one. -/
  | unclosedBlock (offset : Nat)
  /-- A label points past the end of a program of `length` instructions. -/
  | labelOutOfRange (label : String) (offset length : Nat)
  deriving DecidableEq, Repr

/-- The message of an error. -/
def LinkError.message : LinkError → String
  | unmatchedClose offset =>
    "\x60\x7d\x60 at offset " ++ toString offset ++ " has no matching \x60\x7b\x60"
  | unclosedBlock offset => "\x60\x7b\x60 at offset " ++ toString offset ++ " is never closed"
  | labelOutOfRange label offset length =>
    "label \x60" ++ label ++ "\x60 points at offset " ++ toString offset ++
      ", past the end of the program (" ++ toString length ++ " instructions)"

/-- The offsets of the two braces of a block. -/
structure BracePair where
  /-- The offset of the opening brace. -/
  opening : Nat
  /-- The offset of the closing brace. -/
  closing : Nat
  deriving DecidableEq, Repr

/-- Pair the braces of instructions that start at `offset`; `unclosed` holds the opening braces that
are not paired yet, innermost first.  Blocks are listed in the order in which they close. -/
def pairBraces (offset : Nat) (unclosed : List Nat) :
    List Instruction → Except LinkError (List BracePair)
  | [] =>
    match unclosed with
    | [] => .ok []
    | innermost :: _ => .error (.unclosedBlock innermost)
  | .openBlock :: rest => pairBraces (offset + 1) (offset :: unclosed) rest
  | .closeBlock :: rest =>
    match unclosed with
    | [] => .error (.unmatchedClose offset)
    | opening :: outer => do
      let blocks ← pairBraces (offset + 1) outer rest
      return ⟨opening, offset⟩ :: blocks
  | _ :: rest => pairBraces (offset + 1) unclosed rest

/-- The blocks of a list of instructions in the order in which they close. -/
def blocksOf (instructions : List Instruction) : Except LinkError (List BracePair) :=
  pairBraces 0 [] instructions

/-- A linked program. -/
structure Program where
  /-- The instructions in order. -/
  instructions : List Instruction
  /-- The labels and the offsets they stand for. -/
  labels : Labels
  /-- The blocks, in the order in which they close. -/
  blocks : List BracePair
  /-- The blocks are those of the instructions. -/
  linked : blocksOf instructions = .ok blocks
  /-- No label points past the end. -/
  labels_le : ∀ entry ∈ labels.entries, entry.2 ≤ instructions.length

namespace Program

/-- Programs with the same instructions and labels are equal. -/
theorem ext {left right : Program} (instructions : left.instructions = right.instructions)
    (labels : left.labels = right.labels) : left = right := by
  obtain ⟨leftInstructions, leftLabels, leftBlocks, leftLinked, _⟩ := left
  obtain ⟨rightInstructions, rightLabels, rightBlocks, rightLinked, _⟩ := right
  subst instructions
  subst labels
  have same : leftBlocks = rightBlocks :=
    Except.ok.inj (leftLinked.symm.trans rightLinked)
  subst same
  rfl

instance : DecidableEq Program := fun left right =>
  if instructions : left.instructions = right.instructions then
    if labels : left.labels = right.labels then isTrue (ext instructions labels)
    else isFalse fun equal => labels (congrArg Program.labels equal)
  else isFalse fun equal => instructions (congrArg Program.instructions equal)

/-- Link instructions and labels. -/
def link (instructions : List Instruction) (labels : Labels) : Except LinkError Program :=
  match linked : blocksOf instructions with
  | .error error => .error error
  | .ok blocks =>
    match inRange : labels.entries.find? fun entry => instructions.length < entry.2 with
    | some (label, offset) => .error (.labelOutOfRange label offset instructions.length)
    | none =>
      .ok
        { instructions, labels, blocks, linked
          labels_le := fun entry member => by
            have := List.find?_eq_none.mp inRange entry member
            simpa using this }

/-- The number of instructions. -/
def length (program : Program) : Nat :=
  program.instructions.length

/-- The instruction at an offset. -/
def get? (program : Program) (offset : Nat) : Option Instruction :=
  program.instructions[offset]?

/-- The offset that a label stands for. -/
def label? (program : Program) (name : String) : Option Nat :=
  program.labels.get? name

/-- The offset of the brace that closes the block which opens at an offset. -/
def blockEnd? (program : Program) (opening : Nat) : Option Nat :=
  (program.blocks.find? fun block => block.opening = opening).map BracePair.closing

/-- The blocks in the order in which they open. -/
def blocksByOpening (program : Program) : List BracePair :=
  program.blocks.mergeSort fun first second => first.opening ≤ second.opening

/-- The names of the natives that are called, each once, in order of first use. -/
def nativeNames (program : Program) : List String :=
  (program.instructions.filterMap Instruction.native?).eraseDups

end Program

end Gamebook
