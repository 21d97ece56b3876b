import Gamebook.Machine.Error
import Gamebook.Machine.Native
import Gamebook.Machine.Random

/-!
# The story machine

A machine runs one program on a stack, with a context of named values, a queue of options that are
being collected, and the options that are on offer.  What it shows to the player is gathered as
output.
-/

namespace Gamebook

/-- An option as the machine keeps it. -/
structure PendingChoice where
  /-- The title shown to the player. -/
  title : String
  /-- The offset of its effects. -/
  offset : Nat
  deriving DecidableEq, Repr

/-- An option as the player sees it. -/
structure OfferedChoice where
  /-- The number by which it is chosen. -/
  id : Nat
  /-- The title. -/
  title : String
  deriving DecidableEq, Repr

/-- The values that a story keeps by name. -/
abbrev Context := Table Value

/-- A machine in the course of a run. -/
structure Machine where
  /-- The program. -/
  program : Program
  /-- The natives that the program may call. -/
  natives : Registry
  /-- The stack, top first. -/
  stack : List Value
  /-- The named values. -/
  context : Context
  /-- The offset of the next instruction. -/
  counter : Nat
  /-- Whether the run has ended. -/
  exited : Bool
  /-- Whether the machine waits for a choice. -/
  paused : Bool
  /-- The options queued since the last time options were offered. -/
  queued : List PendingChoice
  /-- The options on offer. -/
  offered : List PendingChoice
  /-- The random number generator. -/
  random : Machine.Random
  /-- The values handed to the host, last one first. -/
  output : List Value

/-- Why a run stopped. -/
inductive Outcome
  /-- The machine waits for one of these options. -/
  | suspended (choices : List OfferedChoice)
  /-- The run has ended. -/
  | completed
  deriving DecidableEq, Repr

namespace Machine

/-- The first native a program calls that is not registered. -/
def missingNative? (program : Program) (natives : Registry) : Option String :=
  program.nativeNames.find? fun name => !natives.contains name

/-- A machine at the start of a program.  Its generator is the one of seed zero; a host that wants
other numbers gives it another one. -/
def create (program : Program) (natives : Registry) : Except LoadError Machine :=
  match missingNative? program natives with
  | some name => .error (.undefinedFunction name)
  | none =>
    .ok
      { program, natives, stack := [], context := Table.empty, counter := 0, exited := false
        paused := false, queued := [], offered := [], random := .ofSeed 0, output := [] }

/-- Give the generator a seed. -/
def withSeed (machine : Machine) (seed : UInt64) : Machine :=
  { machine with random := .ofSeed seed }

/-- Set named values. -/
def withContext (machine : Machine) (values : List (String × Value)) : Machine :=
  { machine with context := machine.context.insertAll values }

/-- Forget the output. -/
def clearOutput (machine : Machine) : Machine :=
  { machine with output := [] }

/-- The output in order. -/
def emitted (machine : Machine) : List Value :=
  machine.output.reverse

/-- The options on offer with the numbers by which they are chosen. -/
def choices (machine : Machine) : List OfferedChoice :=
  machine.offered.mapIdx fun id choice => ⟨id, choice.title⟩

/-- End the run and drop all options. -/
def terminate (machine : Machine) : Machine :=
  { machine with exited := true, paused := false, queued := [], offered := [] }

/-- What a run that has stopped tells. -/
def outcome (machine : Machine) : Outcome :=
  if machine.exited then .completed else .suspended machine.choices

end Machine

/-- The text of values, one after the other. -/
def displayAll (values : List Value) : String :=
  String.join (values.map Value.display)

end Gamebook
