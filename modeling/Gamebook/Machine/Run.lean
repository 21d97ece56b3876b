import Gamebook.Machine.Action

/-!
# Running a machine

A tick executes one instruction.  A run ticks until the machine ends or waits for a choice; an error
ends it, with the counter left at the instruction that failed.  A program may run forever, so a run is
given the number of ticks it may take.
-/

namespace Gamebook.Machine

/-- Execute an instruction.  The offset of the next one is returned if it is not the one that
follows. -/
def execute (instruction : Instruction) : Action (Option Nat) := do
  let machine ← get
  match instruction with
  | .pushNumber value => goOn (Call.push (.number value))
  | .pushString value => goOn (Call.push (.string value))
  | .openBlock => return (machine.program.blockEnd? machine.counter).map (· + 1)
  | .closeBlock => return none
  | .invoke name =>
    match machine.natives.get? name with
    | some native => Call.run ⟨name, machine.counter⟩ native
    | none => throw (.undefinedFunction name)

/-- Execute the instruction at the counter.  Past the end of the program the run ends; a machine whose
run has ended stays as it is. -/
def tick (machine : Machine) : Machine × Except RuntimeError Unit :=
  if machine.exited then (machine, .ok ())
  else
    match machine.program.get? machine.counter with
    | none => ({ machine with exited := true }, .ok ())
    | some instruction =>
      match execute instruction machine with
      | .ok target after =>
        ({ after with counter := target.getD (machine.counter + 1) }, .ok ())
      | .error error after => ({ after with exited := true }, .error error)

/-- The result of a run: none if it takes more ticks than it may. -/
abbrev RunResult := Option (Except RuntimeError Outcome)

/-- Tick until the machine ends or waits, at most `limit` times. -/
def runFor : Nat → Machine → Machine × RunResult
  | limit, machine =>
    if machine.exited || machine.paused then (machine, some (.ok machine.outcome))
    else
      match limit with
      | 0 => (machine, none)
      | limit + 1 =>
        match machine.tick with
        | (after, .ok ()) => runFor limit after
        | (after, .error error) => (after, some (.error error))

/-- Run a machine.  One that waits for a choice goes on waiting. -/
def run (limit : Nat) (machine : Machine) : Machine × RunResult :=
  if machine.paused && !machine.offered.isEmpty then
    (machine, some (.ok (.suspended machine.choices)))
  else runFor limit { machine with paused := false }

/-- Go on with the option that has the given number.  A number that is not on offer leaves the machine
as it is. -/
def resume (limit id : Nat) (machine : Machine) : Machine × RunResult :=
  if machine.exited || !machine.paused || machine.offered.isEmpty then
    (machine, some (.error .notSuspended))
  else
    match machine.offered[id]? with
    | none => (machine, some (.error (.unresolvedChoice id)))
    | some choice =>
      run limit
        { machine with
          stack := .ofOffset choice.offset :: machine.stack
          offered := []
          paused := false }

/-- Tick `count` times, up to the first error. -/
def ticks : Nat → Machine → Machine × Except RuntimeError Unit
  | 0, machine => (machine, .ok ())
  | count + 1, machine =>
    match machine.tick with
    | (after, .ok ()) => ticks count after
    | (after, .error error) => (after, .error error)

end Gamebook.Machine
