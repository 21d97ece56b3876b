import Gamebook.Proofs.Machine.Resolution

/-!
# Answers that are refused

An answer is refused if the machine waits for none, or if no option on offer has its number.  That
leaves the machine as it is.  Every other error is that of an instruction, which ends the run with
the counter where the instruction stands.  So a host may put refused answers among its operations
as it likes: the other operations reply as they would without them, and lead to the same machine.
-/

namespace Gamebook.Machine

variable {machine after : Machine} {operation : Operation} {error : RuntimeError}

/-- The instruction at the counter of a running machine fails, which ends the run there. -/
structure Fails (machine : Machine) (error : RuntimeError) (after : Machine) : Prop where
  running : machine.exited = false
  failed : ∃ instruction state, machine.program.get? machine.counter = some instruction ∧
    execute instruction machine = .error error state
  own : error.ofInstruction = true
  counter : after.counter = machine.counter
  exited : after.exited = true

theorem fails_of_tick (ticked : machine.tick = (after, .error error)) :
    Fails machine error after := by
  have own := tick_error_ofInstruction ticked
  obtain ⟨running, ⟨instruction, here⟩, state, framed, rfl⟩ := tick_error ticked
  refine ⟨running, ⟨instruction, ?_⟩, own, framed.counter, rfl⟩
  rw [tick_running running here] at ticked
  cases ran : execute instruction machine with
  | ok target other => simp [ran] at ticked
  | error other failed =>
      obtain rfl : other = error := by simpa [ran] using congrArg Prod.snd ticked
      exact ⟨failed, here, rfl⟩

/-- Only answers are refused, and a refused answer leaves the machine as it is. -/
theorem perform_refused (failed : (operation.perform machine).2.error? = some error)
    (refused : error.ofInstruction = false) :
    (∃ limit id, operation = .resume limit id) ∧ operation.visits machine = [] ∧
      (operation.perform machine).1 = machine := by
  rcases perform_error_cases failed with ⟨_, failing, -, ticked⟩ | ⟨limit, id, rfl, unchosen, -⟩
  · simp [tick_error_ofInstruction ticked] at refused
  · refine ⟨⟨limit, id, rfl⟩, ?_, ?_⟩
    · rw [Operation.visits, unchosen]
    · rw [Operation.perform, resume_of_not_chosen limit unchosen]

/-! ## Refused answers among other operations -/

/-- Whether the reply is that of an answer that is refused. -/
def Reply.isRefusal (reply : Reply) : Bool :=
  reply.error?.any fun error => !error.ofInstruction

theorem perform_of_isRefusal (refused : (operation.perform machine).2.isRefusal = true) :
    (operation.perform machine).1 = machine := by
  rw [Reply.isRefusal] at refused
  cases failed : (operation.perform machine).2.error? with
  | none => simp [failed] at refused
  | some error => exact (perform_refused failed (by simpa [failed] using refused)).2.2

/-- What is left of a list without the items that are marked. -/
def unmarked {α : Type} : List Bool → List α → List α
  | [], items => items
  | _ :: _, [] => []
  | true :: marks, _ :: items => unmarked marks items
  | false :: marks, item :: items => item :: unmarked marks items

/-- Answers that are refused can be left out of operations. -/
theorem performAll_unmarked {operations : List Operation} {marks : List Bool}
    (refused : ∀ (position : Nat) (reply : Reply), marks[position]? = some true →
      (Operation.performAll machine operations).2[position]? = some reply →
        reply.isRefusal = true) :
    Operation.performAll machine (unmarked marks operations) =
      ((Operation.performAll machine operations).1,
        unmarked marks (Operation.performAll machine operations).2) := by
  induction operations generalizing machine marks with
  | nil => cases marks <;> rfl
  | cons operation rest induction =>
      cases marks with
      | nil => rfl
      | cons mark marks =>
          have later : Operation.performAll (operation.perform machine).1 (unmarked marks rest) =
              ((Operation.performAll (operation.perform machine).1 rest).1,
                unmarked marks (Operation.performAll (operation.perform machine).1 rest).2) :=
            induction fun position reply => refused (position + 1) reply
          cases mark with
          | false => simp only [unmarked, Operation.performAll, later]
          | true =>
              have same := perform_of_isRefusal (refused 0 _ rfl rfl)
              rw [same] at later
              simp only [unmarked, Operation.performAll, same, later]

/-- An answer is refused without a trace: the machine stays as it is, and nothing is executed or
handed to the host.  Whatever else an operation fails with is the error of the last instruction
that it executes, which ends the run and leaves the counter at that instruction.  And wherever
refused answers stand among operations, the others reply as they do without them and lead to the
same machine, with the same output. -/
theorem refusals_leave_no_trace (machine : Machine) :
    (∀ operation error, (Operation.perform machine operation).2.error? = some error →
      (error.ofInstruction = false →
        (∃ limit id, operation = .resume limit id) ∧ operation.visits machine = [] ∧
          (operation.perform machine).1 = machine) ∧
        (error.ofInstruction = true →
          ∃ before failing, operation.visits machine = before ++ [failing] ∧
            Fails failing error (operation.perform machine).1)) ∧
      ∀ operations marks,
        (∀ (position : Nat) (reply : Reply), marks[position]? = some true →
          (Operation.performAll machine operations).2[position]? = some reply →
            reply.isRefusal = true) →
          Operation.performAll machine (unmarked marks operations) =
            ((Operation.performAll machine operations).1,
              unmarked marks (Operation.performAll machine operations).2) := by
  refine ⟨fun operation error failed => ⟨perform_refused failed, fun own => ?_⟩,
    fun operations marks => performAll_unmarked⟩
  rcases perform_error_cases failed with ⟨before, failing, visits, ticked⟩ | ⟨_, id, -, -, rfl⟩
  · exact ⟨before, failing, visits, fails_of_tick ticked⟩
  · simp [refusal_ofInstruction] at own

/-- A host answers with a number that is not on offer, ticks the machine that waits, which fails, and
answers again when the run is over. -/
theorem refusals_leave_no_trace_jumping :
    let operations : List Operation := [.run 8, .resume 8 3, .tick, .resume 8 0]
    let waiting := ((Operation.run 8).perform jumpingMachine).1
    (Operation.performAll jumpingMachine operations).2.map Reply.isRefusal =
        [false, true, false, true] ∧
      (Operation.performAll jumpingMachine [.run 8, .tick]).1 =
          (Operation.performAll jumpingMachine operations).1 ∧
        ((Operation.resume 8 3).perform waiting).1 = waiting ∧
          ∃ failing, Fails failing (.type "goto" 1 "value" "an empty stack")
            (Operation.tick.perform waiting).1 := by
  intro operations waiting
  have flags : (Operation.performAll jumpingMachine operations).2.map Reply.isRefusal =
      [false, true, false, true] := by decide +kernel
  obtain ⟨-, left_out⟩ := refusals_leave_no_trace jumpingMachine
  obtain ⟨failures, -⟩ := refusals_leave_no_trace waiting
  have refused (position : Nat) (reply : Reply)
      (marked : [false, true, false, true][position]? = some true)
      (replied : (Operation.performAll jumpingMachine operations).2[position]? = some reply) :
      reply.isRefusal = true := by
    have flag := congrArg (Option.map Reply.isRefusal) replied
    rw [← List.getElem?_map, flags, marked] at flag
    exact (Option.some.inj flag).symm
  have same := left_out operations [false, true, false, true] refused
  rw [show unmarked [false, true, false, true] operations = [.run 8, .tick] from rfl] at same
  obtain ⟨-, -, stays⟩ :=
    (failures (.resume 8 3) (.unresolvedChoice 3) (by decide +kernel)).1 rfl
  obtain ⟨_, failing, -, fails⟩ :=
    (failures .tick (.type "goto" 1 "value" "an empty stack") (by decide +kernel)).2 rfl
  exact ⟨flags, by rw [same], stays, failing, fails⟩

end Gamebook.Machine
