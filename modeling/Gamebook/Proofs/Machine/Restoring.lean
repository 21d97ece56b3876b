import Gamebook.Machine.Snapshot
import Gamebook.Proofs.Machine.History

/-!
# Machines restored from snapshots

A snapshot keeps neither the random numbers nor the output, and of the two lists of options only the
one that matters.  A machine that a host can bring about is restored from it up to random numbers
and output; and since only the native that draws a random number looks at these, the restored
machine answers every request as the original one does until a number is drawn.
-/

namespace Gamebook

namespace Machine

variable {random : Random} {earlier : List Value} {machine after : Machine}

/-! ## Actions that ignore random numbers and output -/

/-- The machine with other random numbers and further values handed to the host before. -/
def rehost (random : Random) (earlier : List Value) (machine : Machine) : Machine :=
  { machine with random, output := machine.output ++ earlier }

/-- An action that does the same on every host. -/
def Action.Portable {α : Type} (action : Action α) : Prop :=
  ∀ random earlier, action.Commutes (rehost random earlier)

namespace Action.Portable

variable {α β : Type}

theorem bind {action : Action α} {next : α → Action β} (first : action.Portable)
    (second : ∀ value, (next value).Portable) : (action >>= next).Portable :=
  fun random earlier => (first random earlier).bind fun value => second value random earlier

/-- What is looked up in a machine must be the same on every host. -/
theorem look {next : Machine → Action β}
    (same : ∀ machine random output, next { machine with random, output } = next machine)
    (each : ∀ machine, (next machine).Portable) : (get >>= next).Portable :=
  fun random earlier => .look (fun machine => same machine random (machine.output ++ earlier))
    fun machine => each machine random earlier

theorem pop (call : Call) (operand : Nat) : (call.pop operand).Portable := by
  intro random earlier machine
  rw [Call.pop_apply, Call.pop_apply]
  rcases stack : machine.stack with _ | ⟨value, rest⟩ <;> simp [rehost, changed, stack]

theorem compositional : Compositional @Portable where
  pure _ := fun _ _ _ => rfl
  throw _ _ := fun _ _ _ => rfl
  bind := bind
  look same := look fun machine random output =>
    same machine machine.program machine.counter machine.stack random output
  study same := look fun machine random output => same machine machine.stack random output
  pop := pop
  push _ := fun _ _ _ => rfl
  assign _ _ := fun _ _ _ => rfl
  hand _ := fun _ _ _ => rfl

theorem response (call : Call) : call.response.Portable := by
  refine bind (compositional.popNumber call 1) fun value =>
    bind (compositional.popString call 2) fun title => ?_
  split
  · exact fun _ _ _ => rfl
  · exact compositional.throw _ rfl

theorem getResponse : Call.getResponse.Portable := by
  intro random earlier machine
  apply congrArg (EStateM.Result.ok ())
  cases queued : machine.queued <;> simp [rehost, queued]

end Action.Portable

/-- Every native but the one that draws a random number does the same on every host. -/
theorem Call.run_portable (call : Call) {native : Native} (steady : native ≠ .randomInt) :
    (call.run native).Portable := by
  have compositional := Action.Portable.compositional
  cases tame : native.isTame with
  | true => exact compositional.run call tame steady
  | false =>
      cases native with
      | exit => exact fun _ _ _ => rfl
      | response => exact compositional.goOn (.response call)
      | getResponse => exact compositional.goOn .getResponse
      | _ => simp [Native.isTame] at tame

/-- Whether the next instruction draws a random number. -/
def draws (machine : Machine) : Bool :=
  match machine.program.get? machine.counter with
  | some (.invoke name) => machine.natives.get? name = some .randomInt
  | _ => false

theorem execute_rehost {instruction : Instruction}
    (here : machine.program.get? machine.counter = some instruction)
    (steady : machine.draws = false) :
    execute instruction (rehost random earlier machine) =
      changed (rehost random earlier) (execute instruction machine) := by
  cases instruction with
  | pushNumber | pushString | openBlock | closeBlock => rfl
  | invoke name =>
      cases registered : machine.natives.get? name with
      | none =>
          rw [execute_unknown registered,
            show execute (.invoke name) (rehost random earlier machine) = _ from
              execute_unknown registered]
          rfl
      | some native =>
          rw [execute_invoke registered,
            show execute (.invoke name) (rehost random earlier machine) = _ from
              execute_invoke registered]
          refine Call.run_portable _ ?_ random earlier machine
          rintro rfl
          simp [draws, here, registered] at steady

theorem tick_rehost (steady : machine.draws = false) :
    (rehost random earlier machine).tick =
      (rehost random earlier machine.tick.1, machine.tick.2) := by
  cases exited : machine.exited with
  | true =>
      rw [tick_exited exited, show (rehost random earlier machine).tick = _ from tick_exited exited]
  | false =>
      cases here : machine.program.get? machine.counter with
      | none =>
          rw [tick_past exited here,
            show (rehost random earlier machine).tick = _ from tick_past exited here]
          rfl
      | some instruction =>
          have same : execute instruction (rehost random earlier machine) = _ :=
            execute_rehost here steady
          rw [tick_running exited here,
            show (rehost random earlier machine).tick = _ from tick_running exited here, same]
          cases execute instruction machine <;> rfl

theorem runFor_rehost {limit : Nat}
    (steady : ∀ visit ∈ visited limit (rehost random earlier machine), visit.draws = false) :
    runFor limit (rehost random earlier machine) =
      (rehost random earlier (runFor limit machine).1, (runFor limit machine).2) := by
  have same_stop : ((rehost random earlier machine).exited ||
      (rehost random earlier machine).paused) = (machine.exited || machine.paused) := rfl
  induction limit generalizing machine with
  | zero =>
      rw [runFor, runFor, same_stop]
      split <;> rfl
  | succ limit induction =>
      rw [visited, same_stop] at steady
      rw [runFor, runFor, same_stop]
      split
      · rfl
      · rename_i stopped
        rw [if_neg stopped] at steady
        have first : machine.draws = false :=
          steady (rehost random earlier machine) List.mem_cons_self
        have later := fun visit member => steady visit (List.mem_cons_of_mem _ member)
        rw [tick_rehost first] at later ⊢
        cases ticked : machine.tick with
        | mk after result =>
            rw [ticked] at later
            cases result with
            | ok => exact induction later rfl
            | error error => rfl

end Machine

namespace Operation

open Machine (rehost)

variable {random : Machine.Random} {earlier : List Value} {machine : Machine}

theorem perform_rehost (operation : Operation)
    (steady : ∀ visit ∈ operation.visits (rehost random earlier machine), visit.draws = false) :
    operation.perform (rehost random earlier machine) =
      (rehost random earlier (operation.perform machine).1, (operation.perform machine).2) := by
  cases operation with
  | tick =>
      cases exited : machine.exited with
      | true =>
          rw [perform, perform, Machine.tick_exited exited,
            show (rehost random earlier machine).tick = _ from Machine.tick_exited exited]
      | false =>
          have first : machine.draws = false :=
            steady (rehost random earlier machine) (by simp [visits, rehost, exited])
          rw [perform, perform, Machine.tick_rehost first]
  | run limit =>
      rw [visits] at steady
      rw [perform, perform, Machine.run, Machine.run]
      split
      · rename_i waits
        rw [if_pos (show (machine.paused && !machine.offered.isEmpty) = true from waits)]
        rfl
      · rename_i woken
        rw [if_neg (show ¬(machine.paused && !machine.offered.isEmpty) = true from woken)]
        rw [if_neg woken] at steady
        rw [show { rehost random earlier machine with paused := false } =
          rehost random earlier { machine with paused := false } from rfl] at steady ⊢
        rw [Machine.runFor_rehost steady]
  | resume limit id =>
      have same_choice : (rehost random earlier machine).chosen? id = machine.chosen? id := rfl
      rw [visits, same_choice] at steady
      rw [perform, perform]
      cases chosen : machine.chosen? id with
      | some choice =>
          rw [chosen] at steady
          have same : Machine.runFor limit (rehost random earlier (machine.choose choice)) = _ :=
            Machine.runFor_rehost steady
          rw [Machine.resume_of_chosen (same_choice.trans chosen), Machine.resume_of_chosen chosen]
          rw [show (rehost random earlier machine).choose choice =
            rehost random earlier (machine.choose choice) from rfl, same]
      | none =>
          rw [Machine.resume_of_not_chosen limit (same_choice.trans chosen),
            Machine.resume_of_not_chosen limit chosen]
          rfl
  | terminate => rfl
  | provide values => rfl

theorem performAll_rehost (operations : List Operation)
    (steady : ∀ visit ∈ visitsAll (rehost random earlier machine) operations,
      visit.draws = false) :
    performAll (rehost random earlier machine) operations =
      (rehost random earlier (performAll machine operations).1,
        (performAll machine operations).2) := by
  induction operations generalizing machine with
  | nil => rfl
  | cons operation rest induction =>
      rw [visitsAll] at steady
      have first := fun visit member => steady visit (List.mem_append_left _ member)
      have later := fun visit member => steady visit (List.mem_append_right _ member)
      rw [perform_rehost operation first] at later
      simp only [performAll, perform_rehost operation first, induction later]

end Operation

/-! ## Restoring -/

namespace Machine

variable {start machine : Machine} {program : Program} {natives : Registry} {events : List Event}

/-- A machine whose program can be loaded is restored from its snapshot if it is settled. -/
theorem ofSnapshot_snapshot (created : create program natives = .ok start)
    (same_program : machine.program = program) (same_natives : machine.natives = natives)
    (settled : Settled machine) :
    ofSnapshot machine.snapshot natives =
      .ok { machine with random := .ofSeed 0, output := [] } := by
  have linked : Program.link machine.snapshot.instructions machine.snapshot.labels =
      .ok machine.program :=
    machine.program.link_self
  have known : missingNative? machine.program natives = none := by
    rw [same_program]
    cases missing : missingNative? program natives with
    | none => rfl
    | some name => simp [create, missing] at created
  rw [ofSnapshot, linked]
  simp only [create, known]
  apply congrArg Except.ok
  have pending : machine.snapshot.pending =
      if machine.paused then machine.offered else machine.queued := rfl
  have queued : (if machine.paused then [] else machine.snapshot.pending) = machine.queued := by
    cases paused : machine.paused with
    | false => simp [pending, paused]
    | true => simp [(settled.waits paused).1]
  have offered : (if machine.paused then machine.snapshot.pending else []) = machine.offered := by
    cases paused : machine.paused with
    | false => simp [settled.closed paused]
    | true => simp [pending, paused]
  have stack : machine.snapshot.stack.reverse = machine.stack := List.reverse_reverse _
  rw [Machine.mk.injEq]
  exact ⟨rfl, same_natives.symm, stack, rfl, rfl, rfl, rfl, queued, offered, rfl, rfl⟩

/-- Whatever random numbers a host has given to a machine at its start, the machine that it has
brought about is restored from its snapshot up to random numbers and output.  Whatever random
numbers the restored machine is given, it answers all that follows as the original one does, hands
the same values to the host and ends in the same state, as long as no random number is drawn. -/
theorem snapshot_faithful {random : Random} (created : create program natives = .ok start)
    (history : History (fun machine operation => operation.Patient machine)
      { start with random } events machine) :
    ∃ restored, ofSnapshot machine.snapshot natives = .ok restored ∧
      restored = { machine with random := restored.random, output := [] } ∧
        ∀ others operations,
          (∀ visit ∈ Operation.visitsAll machine operations, visit.draws = false) →
            let original := Operation.performAll machine operations
            let other := Operation.performAll { restored with random := others } operations
            original.2 = other.2 ∧
              original.1.emitted = machine.emitted ++ other.1.emitted ∧
                { original.1 with random := other.1.random, output := other.1.output } =
                  other.1 := by
  have evolves := history.evolves
  have same_program : machine.program = program := by
    rw [evolves.program, create_eq created]
  have same_natives : machine.natives = natives := by
    rw [evolves.natives, create_eq created]
  have settled := history.settled (fun _ _ => id) (.create created random)
  refine ⟨_, ofSnapshot_snapshot created same_program same_natives settled, rfl,
    fun others operations steady => ?_⟩
  have same : Operation.performAll
      (rehost machine.random machine.output { machine with random := others, output := [] })
      operations = _ :=
    Operation.performAll_rehost operations steady
  rw [show rehost machine.random machine.output { machine with random := others, output := [] } =
    machine from rfl] at same
  simp only [same]
  refine ⟨trivial, ?_, ?_⟩
  · simp [emitted, rehost]
  · rfl

/-- A program that offers one option, says something when it is chosen and ends. -/
private def offeringProgram : Program where
  instructions :=
    [.pushString "leave", .pushNumber 5, .invoke "response", .invoke "getResponse", .invoke "goto",
      .pushString "bye", .invoke "emit", .invoke "exit"]
  labels := Table.empty
  blocks := []
  linked := rfl
  labels_le := by simp [Table.empty]

theorem snapshot_faithful_offering :
    ∃ start restored,
      let waiting := ((Operation.run 8).perform { start with random := .ofSeed 3 }).1
      create offeringProgram Registry.quest = .ok start ∧ waiting.paused = true ∧
        ofSnapshot waiting.snapshot Registry.quest = .ok restored ∧
          (Operation.performAll waiting [.resume 8 0]).2 =
            (Operation.performAll { restored with random := .ofSeed 7 } [.resume 8 0]).2 := by
  have created : create offeringProgram Registry.quest =
      .ok
        { program := offeringProgram, natives := Registry.quest, stack := []
          context := Table.empty, counter := 0, exited := false, paused := false, queued := []
          offered := [], random := .ofSeed 0, output := [] } := rfl
  obtain ⟨restored, restores, -, same⟩ :=
    snapshot_faithful created (History.begin.perform (.run 8) (fun equal => by cases equal))
  exact ⟨_, restored, created, by decide +kernel, restores,
    (same (.ofSeed 7) [.resume 8 0] (by decide +kernel)).1⟩

end Machine

end Gamebook
