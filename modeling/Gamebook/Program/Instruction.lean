import Gamebook.Value

/-!
# Instructions

A program is a list of instructions for a stack machine.  Natives are called by name; the two braces
are instructions of their own, which enclose a block.
-/

namespace Gamebook

/-- An instruction. -/
inductive Instruction
  | pushNumber (value : Float)
  | pushString (value : String)
  /-- Call the native with the given name. -/
  | invoke (name : String)
  /-- Start of a block; reached in sequence, it skips the block. -/
  | openBlock
  /-- End of a block. -/
  | closeBlock
  deriving DecidableEq

namespace Instruction

instance : Inhabited Instruction := ⟨closeBlock⟩

/-- The spelling of the start of a block. -/
def openText : String := "\x7b"

/-- The spelling of the end of a block. -/
def closeText : String := "\x7d"

/-- The instruction that a bare word spells: a brace or the call of a native. -/
def ofWord (word : String) : Instruction :=
  if word = openText then openBlock else if word = closeText then closeBlock else invoke word

/-- The instruction that pushes a value. -/
def push : Value → Instruction
  | .number value => pushNumber value
  | .string value => pushString value

/-- The name of the native that is called. -/
def native? : Instruction → Option String
  | invoke name => some name
  | _ => none

/-- The text of an instruction in a listing. -/
def display : Instruction → String
  | pushNumber value => Decimal.display value
  | pushString value => Text.quote value
  | invoke name => name
  | openBlock => openText
  | closeBlock => closeText

end Instruction

end Gamebook
