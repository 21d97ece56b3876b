import Gamebook.Machine.Basic
import Gamebook.Program.Stored

/-!
# Snapshots

A snapshot is the state of a machine as data: all that is needed to go on elsewhere.  It holds the
program itself, but neither the random number generator nor the output.
-/

namespace Gamebook

/-- The state of a machine. -/
structure Snapshot where
  /-- The stack, bottom first. -/
  stack : List Value
  /-- The named values. -/
  context : Context
  /-- The instructions. -/
  instructions : List Instruction
  /-- The labels. -/
  labels : Labels
  /-- The offset of the next instruction. -/
  counter : Nat
  /-- Whether the run has ended. -/
  exited : Bool
  /-- Whether the machine waits for a choice. -/
  paused : Bool
  /-- The options on offer to a machine that waits, the queued ones otherwise. -/
  pending : List PendingChoice
  deriving DecidableEq

namespace PendingChoice

/-- The keys of an option. -/
def keys : List String := ["title", "programCounter"]

/-- What of an option as data is looked at. -/
def view : Json.View := .record (keys.map fun key => (key, .whole))

/-- An option as data. -/
def toJson (choice : PendingChoice) : Json :=
  .object [("title", .string choice.title), ("programCounter", .ofNat choice.offset)]

/-- The option that data stands for. -/
def ofJson? (json : Json) : Option PendingChoice := do
  match ← Json.fields? keys json with
  | [some title, some offset] => return ⟨← title.asString?, ← offset.asNat?⟩
  | _ => none

end PendingChoice

namespace Snapshot

/-- The keys of a snapshot. -/
def keys : List String :=
  ["stack", "context", "programList", "labelMap", "programCounter", "exit", "pause",
    "pendingChoices"]

/-- The part of a snapshot as data that is looked at.  Of the options only what belongs to them is,
whereas instructions are read whole. -/
def view : Json.View :=
  .record (keys.map fun key =>
    (key, if key = "pendingChoices" then .list PendingChoice.view else .whole))

/-- A snapshot as data. -/
def toJson (snapshot : Snapshot) : Json :=
  .object
    ([("stack", .array (snapshot.stack.map Value.toJson)),
      ("context", .ofTable Value.toJson snapshot.context),
      ("programList", .array (snapshot.instructions.map Instruction.toJson)),
      ("labelMap", .ofTable .ofNat snapshot.labels),
      ("programCounter", .ofNat snapshot.counter),
      ("exit", .bool snapshot.exited),
      ("pause", .bool snapshot.paused)] ++
      if snapshot.pending.isEmpty then []
      else [("pendingChoices", .array (snapshot.pending.map PendingChoice.toJson))])

/-- The text of a snapshot. -/
def text (snapshot : Snapshot) : String :=
  snapshot.toJson.pretty

/-- The snapshot that data stands for. -/
def ofJson? (json : Json) : Option Snapshot := do
  match ← Json.fields? keys json with
  | [some stack, some context, some instructions, some labels, some counter, some exited,
      some paused, pending] =>
    let pending ←
      match pending with
      | some list => Json.asList? PendingChoice.ofJson? list
      | none => some []
    return {
      stack := ← Json.asList? Value.ofJson? stack
      context := ← Json.asTable? Value.ofJson? context
      instructions := ← Json.asList? Instruction.ofJson? instructions
      labels := ← Json.asTable? Json.asNat? labels
      counter := ← counter.asNat?
      exited := ← exited.asBool?
      paused := ← paused.asBool?
      pending }
  | _ => none

/-- Read the text of a snapshot. -/
def read (text : String) : Except LoadError Snapshot :=
  match (Json.readView view text).bind ofJson? with
  | some snapshot => .ok snapshot
  | none => .error .malformedSnapshot

end Snapshot

namespace Machine

/-- The snapshot of a machine. -/
def snapshot (machine : Machine) : Snapshot :=
  { stack := machine.stack.reverse
    context := machine.context
    instructions := machine.program.instructions
    labels := machine.program.labels
    counter := machine.counter
    exited := machine.exited
    paused := machine.paused
    pending := if machine.paused then machine.offered else machine.queued }

/-- The machine of a snapshot; its program is linked again. -/
def ofSnapshot (snapshot : Snapshot) (natives : Registry) : Except LoadError Machine :=
  match Program.link snapshot.instructions snapshot.labels with
  | .error error => .error (.program error)
  | .ok program => do
    let machine ← create program natives
    return {
      machine with
      stack := snapshot.stack.reverse
      context := snapshot.context
      counter := snapshot.counter
      exited := snapshot.exited
      paused := snapshot.paused
      queued := if snapshot.paused then [] else snapshot.pending
      offered := if snapshot.paused then snapshot.pending else [] }

end Machine

end Gamebook
