import Gamebook.Program.Basic

/-!
# Listings

A listing shows a program with one instruction to a line.  Labels stand on lines of their own in
front of the instruction they point at, and blocks are indented.
-/

namespace Gamebook.Program

/-- A number right-aligned in a field. -/
def alignRight (width : Nat) (text : String) : String :=
  String.ofList (List.replicate (width - text.length) ' ') ++ text

/-- The lines of the labels that stand for an offset, in order of their names. -/
def labelLines (labels : Labels) (offset : Nat) : List String :=
  (labels.entries.filter fun entry => entry.2 = offset).map fun entry => "#" ++ entry.1

/-- The line of an instruction inside `depth` blocks. -/
def instructionLine (offset depth : Nat) (instruction : Instruction) : String :=
  alignRight 6 (toString offset) ++ "  " ++ String.ofList (List.replicate (2 * depth) ' ') ++
    instruction.display

/-- The lines of instructions that start at an offset inside `depth` blocks. -/
def listingLines (labels : Labels) (offset depth : Nat) : List Instruction → List String
  | [] => labelLines labels offset
  | instruction :: rest =>
    let own := if instruction = .closeBlock then depth - 1 else depth
    let inner := if instruction = .openBlock then own + 1 else own
    labelLines labels offset ++
      instructionLine offset own instruction :: listingLines labels (offset + 1) inner rest

/-- The listing of a program. -/
def listing (program : Program) : String :=
  String.join ((listingLines program.labels 0 0 program.instructions).map (· ++ "\n"))

end Gamebook.Program
