import Gamebook.Machine.Basic
import Gamebook.Machine.Whole

/-!
# What natives do

A native pops its operands, the first one from the top of the stack, and may push results.  It tells
the offset of the next instruction if that is not the one that follows.  When it fails, what it has
popped stays popped.
-/

namespace Gamebook.Machine

/-- An action on a machine that may fail. -/
abbrev Action := EStateM RuntimeError Machine

/-- The call of a native: its name in the program, and the offset of the instruction. -/
structure Call where
  /-- The name. -/
  name : String
  /-- The offset. -/
  offset : Nat

namespace Call

variable (call : Call)

/-! ## Operands -/

/-- Push a value. -/
def push (value : Value) : Action Unit :=
  modify fun machine => { machine with stack := value :: machine.stack }

/-- Pop an operand, which is the native's `operand`th one. -/
def pop (operand : Nat) : Action Value := do
  let machine ← get
  match machine.stack with
  | [] => throw (.type call.name operand "value" "an empty stack")
  | value :: rest => do
    set { machine with stack := rest }
    return value

/-- Pop a number. -/
def popNumber (operand : Nat) : Action Float := do
  match ← call.pop operand with
  | .number value => return value
  | other => throw (.type call.name operand "number" other.kind)

/-- Pop a text. -/
def popString (operand : Nat) : Action String := do
  match ← call.pop operand with
  | .string value => return value
  | other => throw (.type call.name operand "string" other.kind)

/-- Fail with a number that is out of range. -/
def outOfRange {α : Type} (value : Float) : Action α :=
  throw (.outOfRange call.name value)

/-! ## Numbers and texts -/

/-- Push what a function makes of two numbers. -/
def arithmetic (combine : Float → Float → Float) : Action Unit := do
  let left ← call.popNumber 1
  let right ← call.popNumber 2
  push (.number (combine left right))

/-- Push whether two numbers are in a relation. -/
def compare (holds : Float → Float → Bool) : Action Unit := do
  let left ← call.popNumber 1
  let right ← call.popNumber 2
  push (.flag (holds left right))

/-- Push what a function makes of two texts. -/
def join (combine : String → String → String) : Action Unit := do
  let first ← call.popString 1
  let second ← call.popString 2
  push (.string (combine first second))

/-- Draws before a random number is given up; each is needed with a chance of one half at most. -/
def maxDraws : Nat := 4096

/-- Push a random whole number below a positive bound. -/
def randomInt : Action Unit := do
  let bound ← call.popNumber 1
  if bound.isFinite && 0 < bound then
    let machine ← get
    let (sample, random) := Random.below bound maxDraws machine.random
    set { machine with random }
    push (.number (floor sample))
  else call.outOfRange bound

/-- The character with a code. -/
def characterOf? (code : Nat) : Option Char :=
  if h : code.isValidChar then some (Char.ofNatAux code h) else none

/-- Push the character with a code as a text. -/
def charCode : Action Unit := do
  let code ← call.popNumber 1
  match (natural? code).bind characterOf? with
  | some c => push (.string (String.singleton c))
  | none => call.outOfRange code

/-! ## Context -/

/-- Push the value of a key. -/
def getContext : Action Unit := do
  let key ← call.popString 1
  match (← get).context.get? key with
  | some value => push value
  | none => throw (.missingContextKey key)

/-- Set a key in the context. -/
def bind (key : String) (value : Value) : Action Unit :=
  modify fun machine => { machine with context := machine.context.insert key value }

/-- Set a key. -/
def setContext : Action Unit := do
  let key ← call.popString 1
  let value ← call.pop 2
  bind key value

/-- Push whether a key is set. -/
def hasContext : Action Unit := do
  let key ← call.popString 1
  push (.flag ((← get).context.contains key))

/-- Pop the name of an option; the key of its flag. -/
def optionKey : Action String := do
  let name ← call.popString 1
  return "optionEnabled_" ++ name

/-- The flag of an option, which is set at first use. -/
def optionFlag : Action Value := do
  let key ← call.optionKey
  match (← get).context.get? key with
  | some value => return value
  | none => do
    bind key (.number 1)
    return .number 1

/-- Push the flag of an option. -/
def optionEnabled : Action Unit := do
  push (← call.optionFlag)

/-- Push whether the flag of an option is not one. -/
def optionDisabled : Action Unit := do
  let value ← call.optionFlag
  push (.flag (!value.equals (.number 1)))

/-- Set the flag of an option. -/
def setOptionFlag (value : Float) : Action Unit := do
  bind (← call.optionKey) (.number value)

/-! ## Control flow -/

/-- The block that directly follows the instruction. -/
def nextBlock : Action BracePair := do
  let program := (← get).program
  let opening := call.offset + 1
  match program.get? opening, program.blockEnd? opening with
  | some .openBlock, some closing => return ⟨opening, closing⟩
  | _, _ => throw (.unguardedBranch call.name call.offset)

/-- Enter the block that follows if a number passes a test, or go on behind it. -/
def branch (enters : Float → Bool) : Action Nat := do
  let value ← call.popNumber 1
  let block ← call.nextBlock
  return if enters value then block.opening + 1 else block.closing + 1

/-- Jump to a label or to an offset within the program. -/
def goto : Action Nat := do
  match ← call.pop 1 with
  | .string label =>
    match (← get).program.label? label with
    | some offset => return offset
    | none => throw (.undefinedLabel label)
  | .number value =>
    let length := (← get).program.length
    match natural? value with
    | some offset => if offset ≤ length then return offset else call.outOfRange value
    | none => call.outOfRange value

/-- End the run. -/
def exit : Action Unit :=
  modify fun machine => { machine with exited := true }

/-! ## The host -/

/-- Hand a value to the host. -/
def emit : Action Unit := do
  let value ← call.pop 1
  modify fun machine => { machine with output := value :: machine.output }

/-- Queue an option. -/
def response : Action Unit := do
  let value ← call.popNumber 1
  let title ← call.popString 2
  match natural? value with
  | some offset =>
    modify fun machine => { machine with queued := machine.queued ++ [⟨title, offset⟩] }
  | none => call.outOfRange value

/-- Offer the queued options and wait; without options, end the run. -/
def getResponse : Action Unit :=
  modify fun machine =>
    if machine.queued.isEmpty then { machine with exited := true }
    else { machine with queued := [], offered := machine.queued, paused := true }

end Call

/-- Do something and go on with the instruction that follows. -/
def goOn (action : Action Unit) : Action (Option Nat) := do
  action
  return none

/-- Call a native.  The offset of the next instruction is returned if it is not the one that
follows. -/
def Call.run (call : Call) : Native → Action (Option Nat)
  | .add => goOn (call.arithmetic (· + ·))
  | .subtract => goOn (call.arithmetic (· - ·))
  | .multiply => goOn (call.arithmetic (· * ·))
  | .greater => goOn (call.compare fun left right => right < left)
  | .less => goOn (call.compare fun left right => left < right)
  | .equal => goOn (call.compare fun left right => left == right)
  | .randomInt => goOn call.randomInt
  | .charCode => goOn call.charCode
  | .concat => goOn (call.join fun first second => first ++ second)
  | .concatReversed => goOn (call.join fun first second => second ++ first)
  | .getContext => goOn call.getContext
  | .setContext => goOn call.setContext
  | .hasContext => goOn call.hasContext
  | .enterIfZero => some <$> call.branch (· == 0)
  | .enterIfPositive => some <$> call.branch (0 < ·)
  | .goto => some <$> call.goto
  | .exit => goOn exit
  | .ownOffset => goOn (push (.ofOffset call.offset))
  | .emit => goOn call.emit
  | .response => goOn call.response
  | .getResponse => goOn getResponse
  | .optionEnabled => goOn call.optionEnabled
  | .optionDisabled => goOn call.optionDisabled
  | .enableOption => goOn (call.setOptionFlag 1)
  | .disableOption => goOn (call.setOptionFlag 0)

end Gamebook.Machine
