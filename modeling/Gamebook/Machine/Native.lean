import Gamebook.Table

/-!
# Natives and registries

Natives are the functions that programs call by name.  A registry tells which native a name stands
for; a native may be registered under several names.
-/

namespace Gamebook

/-- A native function. -/
inductive Native
  /-- The sum of two numbers. -/
  | add
  /-- The first operand less the second. -/
  | subtract
  /-- The product of two numbers. -/
  | multiply
  /-- Whether the first operand is greater than the second. -/
  | greater
  /-- Whether the first operand is less than the second. -/
  | less
  /-- Whether two numbers are equal. -/
  | equal
  /-- A random whole number below a bound. -/
  | randomInt
  /-- The character with a code, as a text. -/
  | charCode
  /-- The first text followed by the second. -/
  | concat
  /-- The second text followed by the first. -/
  | concatReversed
  /-- The value of a key in the context. -/
  | getContext
  /-- Set a key of the context. -/
  | setContext
  /-- Whether the context has a key. -/
  | hasContext
  /-- Enter the block that follows if a number is zero. -/
  | enterIfZero
  /-- Enter the block that follows if a number is positive. -/
  | enterIfPositive
  /-- Jump to a label or an offset. -/
  | goto
  /-- End the run. -/
  | exit
  /-- The offset of the instruction itself. -/
  | ownOffset
  /-- Hand a value to the host. -/
  | emit
  /-- Queue an option: its title and the offset of its effects. -/
  | response
  /-- Offer the queued options and wait. -/
  | getResponse
  /-- The flag of a named option, which is set at first use. -/
  | optionEnabled
  /-- Whether the flag of a named option is not one; it is set at first use. -/
  | optionDisabled
  /-- Set the flag of a named option to one. -/
  | enableOption
  /-- Set the flag of a named option to zero. -/
  | disableOption
  deriving DecidableEq, Repr

/-- The natives that names stand for. -/
abbrev Registry := Table Native

namespace Registry

/-- No natives at all. -/
def none : Registry := Table.empty

/-- Arithmetic, comparison, texts, context, branches and jumps. -/
def builtin : Registry :=
  Table.ofList
    [("+", .add), ("-", .subtract), ("*", .multiply), ("gt", .greater), ("lt", .less),
      ("eq", .equal), ("randInt", .randomInt), ("charCode", .charCode), ("concat", .concat),
      ("rconcat", .concatReversed), ("getContext", .getContext), ("setContext", .setContext),
      ("hasContext", .hasContext), ("jz", .enterIfZero), ("jgz", .enterIfPositive),
      ("goto", .goto), ("exit", .exit), ("ppc", .ownOffset)]

/-- The builtin natives and those that talk to the host. -/
def quest : Registry :=
  builtin.insertAll
    [("emit", .emit), ("response", .response), ("getResponse", .getResponse),
      ("optionEnabled", .optionEnabled), ("optionDisabled", .optionDisabled),
      ("enableOption", .enableOption), ("disableOption", .disableOption)]

/-- Register a native under a further name; nothing changes if there is no such native. -/
def addName (registry : Registry) (name existing : String) : Registry :=
  match registry.get? existing with
  | some native => registry.insert name native
  | Option.none => registry

/-- The text that tells what is registered. -/
def inspect (registry : Registry) (quote : String → String) : String :=
  "NativeRegistry \x7b functions: [" ++ ", ".intercalate (registry.keys.map quote) ++ "] \x7d"

end Registry

end Gamebook
