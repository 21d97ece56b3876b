import Gamebook.Machine.Basic

/-!
# Inspecting a machine

The text that tells the state of a machine.
-/

namespace Gamebook.Machine

/-- A list of texts in brackets. -/
def bracketList (parts : List String) : String :=
  "[" ++ ", ".intercalate parts ++ "]"

/-- Texts in braces. -/
def braceList (parts : List String) : String :=
  "\x7b" ++ ", ".intercalate parts ++ "\x7d"

/-- The text of a truth value. -/
def inspectBool (value : Bool) : String :=
  if value then "true" else "false"

/-- The text of an option. -/
def inspectChoice (choice : PendingChoice) : String :=
  "PendingChoice \x7b title: " ++ Text.quote choice.title ++ ", program_counter: " ++
    toString choice.offset ++ " \x7d"

/-- The text of named values. -/
def inspectContext (context : Context) : String :=
  braceList (context.entries.map fun entry => Text.quote entry.1 ++ ": " ++ entry.2.inspect)

/-- The text that tells the state of a machine. -/
def inspect (machine : Machine) : String :=
  "Vm \x7b pc: " ++ toString machine.counter ++
    ", stack: " ++ bracketList (machine.stack.reverse.map Value.inspect) ++
    ", context: " ++ inspectContext machine.context ++
    ", exit: " ++ inspectBool machine.exited ++
    ", pause: " ++ inspectBool machine.paused ++
    ", offered: " ++ bracketList (machine.offered.map inspectChoice) ++ ", .. \x7d"

end Gamebook.Machine
