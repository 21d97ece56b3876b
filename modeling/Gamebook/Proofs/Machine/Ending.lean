import Gamebook.Proofs.Machine.History

/-!
# Machines whose run has ended

A run that has ended goes on no further: no operation executes an instruction, and counter, stack
and output stay as they are.  Answers are refused, and the machine tells that the run is complete,
with one exception.  A host may tick a machine that waits for a choice, and the run may end in that
tick; options are then left on offer, and a request to run the machine still tells of them.
-/

namespace Gamebook.Machine

variable {machine : Machine} {limit : Nat}

/-- What a run tells of a machine whose run has ended. -/
def lastOutcome (machine : Machine) : Outcome :=
  if machine.paused && !machine.offered.isEmpty then .suspended machine.choices else .completed

/-- The second machine is the first one after its run has ended, with nothing further done. -/
structure Rests (before after : Machine) : Prop where
  exited : after.exited = true
  awake : before.paused = false → after.paused = false
  counter : after.counter = before.counter
  stack : after.stack = before.stack
  output : after.output = before.output

namespace Rests

variable {first second third : Machine}

theorem refl (exited : machine.exited = true) : Rests machine machine :=
  ⟨exited, id, rfl, rfl, rfl⟩

theorem trans (left : Rests first second) (right : Rests second third) : Rests first third :=
  ⟨right.exited, right.awake ∘ left.awake, right.counter.trans left.counter,
    right.stack.trans left.stack, right.output.trans left.output⟩

end Rests

theorem visited_exited (exited : machine.exited = true) : visited limit machine = [] := by
  cases limit <;> simp [visited, exited]

/-- A run of a machine whose run has ended at most wakes it. -/
theorem run_exited (exited : machine.exited = true) :
    (machine.run limit).2 = some (.ok machine.lastOutcome) ∧
      Rests machine (machine.run limit).1 ∧ (Operation.run limit).visits machine = [] := by
  rw [run, lastOutcome, Operation.visits]
  split
  · exact ⟨rfl, .refl exited, rfl⟩
  · have woken_exited : { machine with paused := false }.exited = true := exited
    rw [runFor_of_stopped limit (Or.inl woken_exited)]
    exact ⟨by simp [outcome, exited], ⟨exited, fun _ => rfl, rfl, rfl, rfl⟩,
      visited_exited woken_exited⟩

theorem resume_exited (exited : machine.exited = true) (limit id : Nat) :
    machine.resume limit id = (machine, some (.error .notSuspended)) := by
  simp [resume, exited]

/-- An operation on a machine whose run has ended executes nothing. -/
theorem perform_exited (exited : machine.exited = true) (operation : Operation) :
    Rests machine (operation.perform machine).1 ∧ operation.visits machine = [] := by
  cases operation with
  | tick =>
      rw [Operation.perform, tick_exited exited]
      exact ⟨.refl exited, by simp [Operation.visits, exited]⟩
  | run limit => exact (run_exited exited).2
  | resume limit id =>
      rw [Operation.perform, resume_exited exited]
      exact ⟨.refl exited, by simp [Operation.visits, chosen?, exited]⟩
  | terminate => exact ⟨⟨rfl, fun _ => rfl, rfl, rfl, rfl⟩, rfl⟩
  | provide values => exact ⟨⟨exited, id, rfl, rfl, rfl⟩, rfl⟩

theorem performAll_exited (exited : machine.exited = true) (operations : List Operation) :
    Rests machine (Operation.performAll machine operations).1 ∧
      Operation.visitsAll machine operations = [] := by
  induction operations generalizing machine with
  | nil => exact ⟨.refl exited, rfl⟩
  | cons operation rest induction =>
      obtain ⟨rests, none_visited⟩ := perform_exited exited operation
      obtain ⟨later, none_later⟩ := induction rests.exited
      exact ⟨rests.trans later, by rw [Operation.visitsAll, none_visited, none_later]; rfl⟩

/-- After a run has ended no operation executes an instruction, moves the counter, changes the stack
or hands a value to the host; answers are refused, and the machine tells that the run is complete
unless options were left on offer.  A host that leaves waiting machines alone never sees such
options. -/
theorem ended_for_good (exited : machine.exited = true) (operations : List Operation) :
    let later := (Operation.performAll machine operations).1
    Operation.visitsAll machine operations = [] ∧ later.exited = true ∧
      later.counter = machine.counter ∧ later.stack = machine.stack ∧
        later.output = machine.output ∧ later.tick = (later, .ok ()) ∧
          (∀ limit id, later.resume limit id = (later, some (.error .notSuspended))) ∧
            (∀ limit, (later.run limit).2 = some (.ok later.lastOutcome)) ∧
              ∀ program natives fresh random events, create program natives = .ok fresh →
                History (fun machine operation => operation.Patient machine)
                    { fresh with random } events machine →
                  later.lastOutcome = .completed := by
  obtain ⟨rests, none_visited⟩ := performAll_exited exited operations
  refine ⟨none_visited, rests.exited, rests.counter, rests.stack, rests.output,
    tick_exited rests.exited, fun limit id => resume_exited rests.exited limit id,
    fun limit => (run_exited rests.exited).1, ?_⟩
  intro program natives fresh random events created history
  have settled := history.settled (fun _ _ => id) (.create created random)
  have awake : machine.paused = false := by
    by_contra waiting
    have running := (settled.waits (by simpa using waiting)).2
    simp [exited] at running
  simp [lastOutcome, rests.awake awake]

/-- A program that offers an option and jumps to its effects, which lie behind the last
instruction. -/
def jumpingProgram : Program where
  instructions :=
    [.pushString "t", .pushNumber 5, .invoke "response", .invoke "getResponse", .invoke "goto"]
  labels := Table.empty
  blocks := []
  linked := rfl
  labels_le := by simp [Table.empty]

/-- The machine at the start of the program. -/
def jumpingMachine : Machine :=
  { program := jumpingProgram, natives := Registry.quest, stack := [], context := Table.empty
    counter := 0, exited := false, paused := false, queued := [], offered := []
    random := .ofSeed 0, output := [] }

/-- A machine that waits and is ticked all the same may end with options on offer, and goes on
telling of them. -/
theorem ended_machine_tells_of_options :
    let waiting := ((Operation.run 8).perform jumpingMachine).1
    let ended := (Operation.tick.perform waiting).1
    create jumpingProgram Registry.quest = .ok jumpingMachine ∧ ended.exited = true ∧
      (ended.run 8).2 = some (.ok (.suspended [⟨0, "t"⟩])) :=
  ⟨rfl, by decide +kernel, by decide +kernel⟩

theorem ended_for_good_offering :
    let waiting := ((Operation.run 8).perform jumpingMachine).1
    let ended := ((Operation.resume 8 0).perform waiting).1
    let later := (Operation.performAll ended [.tick, .provide [("k", .number 1)]]).1
    Operation.visitsAll ended [.tick, .provide [("k", .number 1)]] = [] ∧
      later.resume 8 0 = (later, some (.error .notSuspended)) ∧
        (later.run 8).2 = some (.ok .completed) := by
  have begun : History (fun machine operation => operation.Patient machine)
      { jumpingMachine with random := .ofSeed 0 } [] jumpingMachine := .begin
  have history := (begun.perform (.run 8) nofun).perform (.resume 8 0) nofun
  have ended : ((Operation.resume 8 0).perform
      ((Operation.run 8).perform jumpingMachine).1).1.exited = true := by decide +kernel
  obtain ⟨none_visited, -, -, -, -, -, refuses, tells, completes⟩ :=
    ended_for_good ended [.tick, .provide [("k", .number 1)]]
  have complete := completes jumpingProgram Registry.quest jumpingMachine (.ofSeed 0) _ rfl history
  exact ⟨none_visited, refuses 8 0, (tells 8).trans (congrArg (some ∘ Except.ok) complete)⟩

end Gamebook.Machine
