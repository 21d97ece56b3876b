import Gamebook.Proofs.Machine.History

/-!
# What lies below the stack

A native looks at no more of the stack than what it pops.  Whatever succeeds on a stack therefore
succeeds on top of further values too: it does the same, and leaves these values as they are.
-/

namespace Gamebook

namespace Machine

variable {below : List Value} {machine after : Machine}

/-! ## Actions on top of further values -/

/-- The machine on top of further values. -/
def atop (below : List Value) (machine : Machine) : Machine :=
  { machine with stack := machine.stack ++ below }

/-- An action that does the same on top of further values if it succeeds. -/
def Action.Shallow {α : Type} (action : Action α) : Prop :=
  ∀ below machine value after, action machine = .ok value after →
    action (machine.atop below) = .ok value (after.atop below)

namespace Action.Shallow

variable {α β : Type}

theorem of_commutes {action : Action α} (commutes : ∀ below, action.Commutes (atop below)) :
    action.Shallow := by
  intro below machine value after ran
  rw [commutes below machine, ran]
  rfl

theorem bind {action : Action α} {next : α → Action β} (first : action.Shallow)
    (second : ∀ value, (next value).Shallow) : (action >>= next).Shallow := by
  intro below machine result after ran
  obtain ⟨value, between, done, rest⟩ := bind_eq_ok_iff.mp ran
  exact bind_eq_ok_iff.mpr ⟨value, between.atop below, first below machine value between done,
    second value below between result after rest⟩

/-- What is looked up must be the same on top of further values. -/
theorem look {next : Machine → Action β}
    (same : ∀ machine stack, next { machine with stack } = next machine)
    (each : ∀ machine, (next machine).Shallow) : (get >>= next).Shallow := by
  intro below machine value after ran
  rw [get_bind] at ran ⊢
  rw [atop, same]
  exact each machine below machine value after ran

theorem pop (call : Call) (operand : Nat) : (call.pop operand).Shallow := by
  intro below machine value after ran
  rw [Call.pop_apply] at ran ⊢
  rcases stack : machine.stack with _ | ⟨top, rest⟩
  · simp [stack] at ran
  · simp only [stack] at ran
    obtain ⟨rfl, rfl⟩ := EStateM.Result.ok.inj ran
    simp [atop, stack]

theorem compositional : Compositional @Shallow where
  pure _ := of_commutes fun _ _ => rfl
  throw _ _ := of_commutes fun _ _ => rfl
  bind := bind
  look same := look fun machine stack =>
    same machine machine.program machine.counter stack machine.random machine.output
  study same := look fun machine stack => same machine stack machine.random machine.output
  pop := pop
  push _ := of_commutes fun _ _ => rfl
  assign _ _ := of_commutes fun _ _ => rfl
  hand _ := of_commutes fun _ _ => rfl

theorem response (call : Call) : call.response.Shallow := by
  refine bind (compositional.popNumber call 1) fun value =>
    bind (compositional.popString call 2) fun title => ?_
  split
  · exact of_commutes fun _ _ => rfl
  · exact compositional.throw _ rfl

theorem getResponse : Call.getResponse.Shallow := by
  apply of_commutes
  intro below machine
  apply congrArg (EStateM.Result.ok ())
  cases queued : machine.queued <;> simp [atop, queued]

theorem randomInt (call : Call) : call.randomInt.Shallow := by
  apply bind (compositional.popNumber call 1)
  intro bound
  split
  · exact of_commutes fun _ _ => rfl
  · exact compositional.throw _ rfl

theorem run (call : Call) (native : Native) : (call.run native).Shallow := by
  cases native with
  | randomInt => exact compositional.goOn (randomInt call)
  | response => exact compositional.goOn (response call)
  | getResponse => exact compositional.goOn getResponse
  | exit => exact of_commutes fun _ _ => rfl
  | _ => exact compositional.run call rfl (by decide)

end Action.Shallow

/-! ## Ticks and runs on top of further values -/

theorem execute_atop {instruction : Instruction} {target : Option Nat}
    (ran : execute instruction machine = .ok target after) :
    execute instruction (machine.atop below) = .ok target (after.atop below) := by
  cases instruction with
  | pushNumber | pushString | openBlock | closeBlock =>
      cases ran
      rfl
  | invoke name =>
      cases registered : machine.natives.get? name with
      | none =>
          rw [execute_unknown registered] at ran
          cases ran
      | some native =>
          rw [execute_invoke registered] at ran
          have registered_atop : (machine.atop below).natives.get? name = some native := registered
          rw [execute_invoke registered_atop]
          exact Action.Shallow.run _ native below machine target after ran

/-- A tick that succeeds does the same on top of further values. -/
theorem tick_atop (ticked : machine.tick = (after, .ok ())) :
    (machine.atop below).tick = (after.atop below, .ok ()) := by
  cases exited : machine.exited with
  | true =>
      rw [tick_exited exited] at ticked
      obtain rfl := (Prod.mk.inj ticked).1
      exact tick_exited exited
  | false =>
      have running : (machine.atop below).exited = false := exited
      cases here : machine.program.get? machine.counter with
      | none =>
          rw [tick_past exited here] at ticked
          obtain rfl := (Prod.mk.inj ticked).1
          exact tick_past running here
      | some instruction =>
          rw [tick_running exited here] at ticked
          cases ran : execute instruction machine with
          | error error state => simp [ran] at ticked
          | ok target state =>
              simp only [ran, Prod.mk.injEq, and_true] at ticked
              have here_atop : (machine.atop below).program.get? (machine.atop below).counter =
                  some instruction := here
              rw [tick_running running here_atop, execute_atop ran, ← ticked]
              rfl

theorem ticks_atop {count : Nat} (ticked : ticks count machine = (after, .ok ())) :
    ticks count (machine.atop below) = (after.atop below, .ok ()) := by
  induction count generalizing machine with
  | zero =>
      obtain rfl := (Prod.mk.inj ticked).1
      rfl
  | succ count induction =>
      rw [ticks] at ticked ⊢
      cases first : machine.tick with
      | mk next result =>
          rw [first] at ticked
          cases result with
          | error error => simp at ticked
          | ok =>
              rw [tick_atop first]
              exact induction ticked

/-- A run that does not fail does the same on top of further values. -/
theorem runFor_atop {limit : Nat}
    (succeeds : (Reply.stopped (runFor limit machine).2).error? = none) :
    runFor limit (machine.atop below) =
      ((runFor limit machine).1.atop below, (runFor limit machine).2) := by
  have same_stop : ((machine.atop below).exited || (machine.atop below).paused) =
      (machine.exited || machine.paused) := rfl
  induction limit generalizing machine with
  | zero =>
      rw [runFor, runFor, same_stop]
      split <;> rfl
  | succ limit induction =>
      rw [runFor] at succeeds
      rw [runFor, runFor, same_stop]
      split
      · rfl
      · rename_i stopped
        rw [if_neg stopped] at succeeds
        cases ticked : machine.tick with
        | mk next result =>
            rw [ticked] at succeeds
            cases result with
            | error error => simp [Reply.error?] at succeeds
            | ok =>
                rw [tick_atop ticked]
                exact induction succeeds rfl

theorem run_atop {limit : Nat} (succeeds : (Reply.stopped (machine.run limit).2).error? = none) :
    (machine.atop below).run limit =
      ((machine.run limit).1.atop below, (machine.run limit).2) := by
  rw [run] at succeeds ⊢
  rw [run]
  by_cases waits : (machine.paused && !machine.offered.isEmpty) = true
  · have waits_atop :
        ((machine.atop below).paused && !(machine.atop below).offered.isEmpty) = true := waits
    rw [if_pos waits, if_pos waits_atop]
    rfl
  · have wakes_atop :
        ¬((machine.atop below).paused && !(machine.atop below).offered.isEmpty) = true := waits
    rw [if_neg waits] at succeeds
    rw [if_neg waits, if_neg wakes_atop]
    exact runFor_atop succeeds

end Machine

namespace Operation

open Machine (Reply ticks)

variable {below : List Value} {machine : Machine}

/-- An operation that does not fail does the same on top of further values. -/
theorem perform_atop {operation : Operation}
    (succeeds : (operation.perform machine).2.error? = none) :
    operation.perform (machine.atop below) =
      ((operation.perform machine).1.atop below, (operation.perform machine).2) := by
  cases operation with
  | tick =>
      rw [perform] at succeeds ⊢
      rw [perform]
      cases ticked : machine.tick with
      | mk next result =>
          rw [ticked] at succeeds
          cases result with
          | error error => simp [Reply.error?] at succeeds
          | ok => rw [Machine.tick_atop ticked]
  | run limit =>
      rw [perform] at succeeds ⊢
      rw [perform, Machine.run_atop succeeds]
  | resume limit id =>
      rw [perform] at succeeds ⊢
      rw [perform]
      have same_choice : (machine.atop below).chosen? id = machine.chosen? id := rfl
      cases chosen : machine.chosen? id with
      | none =>
          rw [Machine.resume_of_not_chosen limit chosen] at succeeds
          simp [Reply.error?] at succeeds
      | some choice =>
          rw [Machine.resume_of_chosen chosen] at succeeds
          rw [Machine.resume_of_chosen chosen,
            Machine.resume_of_chosen (same_choice.trans chosen)]
          have ran : Machine.runFor limit ((machine.choose choice).atop below) = _ :=
            Machine.runFor_atop succeeds
          rw [show (machine.choose choice).atop below = (machine.atop below).choose choice from rfl]
            at ran
          rw [ran]
  | terminate | provide => rfl

theorem performAll_atop {operations : List Operation}
    (succeed : ∀ reply ∈ (performAll machine operations).2, reply.error? = none) :
    performAll (machine.atop below) operations =
      ((performAll machine operations).1.atop below, (performAll machine operations).2) := by
  induction operations generalizing machine with
  | nil => rfl
  | cons operation rest induction =>
      rw [performAll] at succeed ⊢
      have first := succeed _ List.mem_cons_self
      have later := fun reply member => succeed reply (List.mem_cons_of_mem _ member)
      simp only [performAll, perform_atop first, induction later]

end Operation

namespace Machine

/-- What lies below the stack of a machine, whatever the machine, takes no part in what succeeds.
Ticks that all succeed do so on top of further values, with the same effect on everything else, and
leave these values as they are below the same stack; and so do requests of all kinds, ticks and
answers among them, of which none fails. -/
theorem stack_frame (machine : Machine) (below : List Value) :
    (∀ count after, ticks count machine = (after, .ok ()) →
      ticks count { machine with stack := machine.stack ++ below } =
        ({ after with stack := after.stack ++ below }, .ok ())) ∧
      ∀ operations,
        (∀ reply ∈ (Operation.performAll machine operations).2, reply.error? = none) →
          let (after, replies) := Operation.performAll machine operations
          Operation.performAll { machine with stack := machine.stack ++ below } operations =
            ({ after with stack := after.stack ++ below }, replies) :=
  ⟨fun _ _ ticked => ticks_atop ticked, fun _ succeed => Operation.performAll_atop succeed⟩

/-- A program that offers one option and, when it is chosen, says what was left on the stack. -/
private def sayingProgram : Program where
  instructions :=
    [.pushString "say", .pushNumber 5, .invoke "response", .invoke "getResponse", .invoke "goto",
      .invoke "emit", .invoke "exit"]
  labels := Table.empty
  blocks := []
  linked := rfl
  labels_le := by simp [Table.empty]

/-- A machine at the start of the program, with something on the stack. -/
private def sayingMachine : Machine :=
  { program := sayingProgram, natives := Registry.quest, stack := [.number 7]
    context := Table.empty, counter := 0, exited := false, paused := false, queued := []
    offered := [], random := .ofSeed 0, output := [] }

theorem stack_frame_saying :
    let raised := { sayingMachine with stack := sayingMachine.stack ++ [.string "below"] }
    (ticks 4 sayingMachine).2 = .ok () ∧ (ticks 4 raised).1.stack = [.number 7, .string "below"] ∧
      (Operation.performAll raised [.run 8, .resume 8 0]).1.stack = [.string "below"] ∧
        (Operation.performAll raised [.run 8, .resume 8 0]).1.output = [.number 7] := by
  intro raised
  obtain ⟨ticked, performed⟩ := stack_frame sayingMachine [.string "below"]
  have succeeds : (ticks 4 sayingMachine).2 = .ok () := by decide +kernel
  have counted := ticked 4 (ticks 4 sayingMachine).1 (Prod.ext rfl succeeds)
  have answered := performed [.run 8, .resume 8 0] (by decide +kernel)
  rw [show ticks 4 raised = _ from counted,
    show Operation.performAll raised [.run 8, .resume 8 0] = _ from answered]
  exact ⟨succeeds, by decide +kernel, by decide +kernel, by decide +kernel⟩

end Machine

end Gamebook
