import Gamebook.Proofs.Machine.Frame
import Gamebook.Proofs.Program.Blocks

/-!
# What a tick does

A tick of a running machine executes the instruction at its counter.  The relation `Executes` lists
all the ways in which that can go well, and `tick_eq_ok_iff` says that there are no others; a tick
that fails changes values only and ends the run.  Whatever is to be shown of every tick is shown by
cases on `Executes`.
-/

namespace Gamebook

/-- The test that a branch makes of its operand. -/
def Native.test? : Native → Option (Float → Bool)
  | enterIfZero => some (· == 0)
  | enterIfPositive => some (0 < ·)
  | _ => none

/-- The name under which stories know a native. -/
def Native.questName : Native → String
  | add => "+"
  | subtract => "-"
  | multiply => "*"
  | greater => "gt"
  | less => "lt"
  | equal => "eq"
  | randomInt => "randInt"
  | charCode => "charCode"
  | concat => "concat"
  | concatReversed => "rconcat"
  | getContext => "getContext"
  | setContext => "setContext"
  | hasContext => "hasContext"
  | enterIfZero => "jz"
  | enterIfPositive => "jgz"
  | goto => "goto"
  | exit => "exit"
  | ownOffset => "ppc"
  | emit => "emit"
  | response => "response"
  | getResponse => "getResponse"
  | optionEnabled => "optionEnabled"
  | optionDisabled => "optionDisabled"
  | enableOption => "enableOption"
  | disableOption => "disableOption"

/-- Every native has one name in stories. -/
theorem Registry.quest_get?_iff {name : String} {native : Native} :
    Registry.quest.get? name = some native ↔ name = native.questName := by
  constructor
  · intro found
    have names : ∀ entry ∈ Registry.quest.entries, entry.1 = entry.2.questName := by decide
    exact names _ (Table.get?_eq_some_iff.mp found)
  · rintro rfl
    cases native <;> decide

theorem Native.questName_injective : Function.Injective Native.questName := by
  intro first second same
  have found : Registry.quest.get? first.questName = some second :=
    Registry.quest_get?_iff.mpr same
  rw [Registry.quest_get?_iff.mpr rfl] at found
  exact Option.some.inj found

theorem Native.isTame_of_isPlain {native : Native} (plain : native.isPlain = true) :
    native.isTame = true :=
  (Bool.and_eq_true_iff.mp plain).1

/-- The offset to which a jump leads: that of a label, or one within the program. -/
def Program.destination? (program : Program) : Value → Option Nat
  | .string label => program.label? label
  | .number value => (Machine.natural? value).filter (· ≤ program.length)

namespace Machine

variable {machine after : Machine} {instruction : Instruction}

/-! ## Natives that do not only change values -/

namespace Call

variable (call : Call)

private theorem pop_eq_ok_iff {operand : Nat} {value : Value} :
    call.pop operand machine = .ok value after ↔
      ∃ rest, machine.stack = value :: rest ∧ { machine with stack := rest } = after := by
  rw [pop_apply]
  cases machine.stack <;> simp

private theorem popNumber_eq_ok_iff {operand : Nat} {value : Float} :
    call.popNumber operand machine = .ok value after ↔
      ∃ rest, machine.stack = .number value :: rest ∧ { machine with stack := rest } = after := by
  rw [popNumber_apply]
  rcases machine.stack with _ | ⟨_ | _, rest⟩ <;> simp

private theorem popString_eq_ok_iff {operand : Nat} {value : String} :
    call.popString operand machine = .ok value after ↔
      ∃ rest, machine.stack = .string value :: rest ∧ { machine with stack := rest } = after := by
  rw [popString_apply]
  rcases machine.stack with _ | ⟨_ | _, rest⟩ <;> simp

private theorem nextBlock_eq_ok_iff {block : BracePair} :
    call.nextBlock machine = .ok block after ↔
      block.opening = call.offset + 1 ∧
        machine.program.blockEnd? (call.offset + 1) = some block.closing ∧ machine = after := by
  rw [nextBlock, Action.bind_eq_ok_iff]
  constructor
  · rintro ⟨_, _, ⟨⟩, ran⟩
    cases found : machine.program.blockEnd? (call.offset + 1) with
    | none =>
        rcases opens : machine.program.get? (call.offset + 1) with _ | (_ | _ | _ | _ | _) <;>
          simp only [found, opens] at ran <;> cases ran
    | some closing =>
        simp only [found, (Program.blockEnd?_braces found).1] at ran
        cases ran
        exact ⟨rfl, rfl, rfl⟩
  · rintro ⟨opening, found, rfl⟩
    refine ⟨machine, machine, rfl, ?_⟩
    have opens := (Program.blockEnd?_braces found).1
    obtain ⟨_, closing⟩ := block
    subst opening
    simp only [opens, found]
    rfl

/-- A branch pops its operand and goes to the first instruction of the block that follows, or behind
the block. -/
theorem branch_eq_ok_iff {enters : Float → Bool} {offset : Nat} :
    call.branch enters machine = .ok offset after ↔
      ∃ value rest closing, machine.stack = .number value :: rest ∧
        machine.program.blockEnd? (call.offset + 1) = some closing ∧
          (if enters value then call.offset + 2 else closing + 1) = offset ∧
            { machine with stack := rest } = after := by
  simp only [branch, Action.bind_eq_ok_iff, popNumber_eq_ok_iff, nextBlock_eq_ok_iff]
  constructor
  · rintro ⟨value, _, ⟨rest, top, rfl⟩, ⟨_, closing⟩, _, ⟨rfl, found, rfl⟩, ⟨⟩⟩
    exact ⟨value, rest, closing, top, found, rfl, rfl⟩
  · rintro ⟨value, rest, closing, top, found, rfl, rfl⟩
    exact ⟨value, _, ⟨rest, top, rfl⟩, ⟨call.offset + 1, closing⟩, _, ⟨rfl, found, rfl⟩, rfl⟩

/-- A jump pops its operand and goes to where it leads. -/
theorem goto_eq_ok_iff {offset : Nat} :
    call.goto machine = .ok offset after ↔
      ∃ value rest, machine.stack = value :: rest ∧
        machine.program.destination? value = some offset ∧
          { machine with stack := rest } = after := by
  simp only [goto, Action.bind_eq_ok_iff, pop_eq_ok_iff]
  constructor
  · rintro ⟨value, _, ⟨rest, top, rfl⟩, ran⟩
    refine ⟨value, rest, top, ?_⟩
    cases value with
    | string label =>
        obtain ⟨_, _, ⟨⟩, ran⟩ := Action.bind_eq_ok_iff.mp ran
        cases found : machine.program.label? label with
        | none =>
            simp only [found] at ran
            cases ran
        | some offset =>
            simp only [found] at ran
            cases ran
            exact ⟨found, rfl⟩
    | number value =>
        obtain ⟨_, _, ⟨⟩, ran⟩ := Action.bind_eq_ok_iff.mp ran
        cases whole : natural? value with
        | none =>
            simp only [whole] at ran
            cases ran
        | some offset =>
            by_cases inside : offset ≤ machine.program.length
            · simp only [whole, inside, if_true] at ran
              cases ran
              exact ⟨by simp [Program.destination?, whole, inside], rfl⟩
            · simp only [whole, inside, if_false] at ran
              cases ran
  · rintro ⟨value, rest, top, leads, rfl⟩
    refine ⟨value, _, ⟨rest, top, rfl⟩, ?_⟩
    cases value with
    | string label =>
        refine Action.bind_eq_ok_iff.mpr ⟨_, _, rfl, ?_⟩
        simp only [Program.destination?] at leads
        simp only [leads]
        rfl
    | number value =>
        refine Action.bind_eq_ok_iff.mpr ⟨_, _, rfl, ?_⟩
        simp only [Program.destination?, Option.filter_eq_some_iff, decide_eq_true_eq] at leads
        simp only [leads.1, leads.2, if_true]
        rfl

/-- An option is queued with its title and the offset of its effects. -/
theorem response_eq_ok_iff {result : Unit} :
    call.response machine = .ok result after ↔
      ∃ value title rest offset, machine.stack = .number value :: .string title :: rest ∧
        natural? value = some offset ∧
          { machine with stack := rest, queued := machine.queued ++ [⟨title, offset⟩] } =
            after := by
  simp only [response, Action.bind_eq_ok_iff, popNumber_eq_ok_iff, popString_eq_ok_iff]
  constructor
  · rintro ⟨value, _, ⟨_, top, rfl⟩, title, _, ⟨rest, below, rfl⟩, ran⟩
    cases whole : natural? value with
    | none =>
        simp only [whole] at ran
        cases ran
    | some offset =>
        simp only [whole] at ran
        cases ran
        exact ⟨value, title, rest, offset, top.trans (congrArg _ below), whole, rfl⟩
  · rintro ⟨value, title, rest, offset, top, whole, rfl⟩
    refine ⟨value, _, ⟨_, top, rfl⟩, title, _, ⟨rest, rfl, rfl⟩, ?_⟩
    simp only [whole]
    rfl

/-- An option that cannot be queued changes values only. -/
theorem response_error {error : RuntimeError} (ran : call.response machine = .error error after) :
    Framed machine after := by
  rcases Action.bind_eq_error_iff.mp ran with failed | ⟨value, between, popped, ran⟩
  · exact (Action.Keeps.compositional.popNumber call 1).of_error failed
  · apply ((Action.Keeps.compositional.popNumber call 1).of_ok popped).trans
    rcases Action.bind_eq_error_iff.mp ran with failed | ⟨title, below, popped, ran⟩
    · exact (Action.Keeps.compositional.popString call 2).of_error failed
    · apply ((Action.Keeps.compositional.popString call 2).of_ok popped).trans
      cases whole : natural? value with
      | none =>
          simp only [whole] at ran
          cases ran
          exact Framed.refl _
      | some offset =>
          simp only [whole] at ran
          cases ran

end Call

/-! ## Instructions -/

/-- How an instruction that succeeds changes a running machine. -/
inductive Executes (machine : Machine) : Instruction → Machine → Prop
  | pushNumber (value : Float) :
      Executes machine (.pushNumber value)
        { machine with stack := .number value :: machine.stack, counter := machine.counter + 1 }
  | pushString (value : String) :
      Executes machine (.pushString value)
        { machine with stack := .string value :: machine.stack, counter := machine.counter + 1 }
  /-- A block that is reached in sequence is skipped. -/
  | skip {closing : Nat} (found : machine.program.blockEnd? machine.counter = some closing) :
      Executes machine .openBlock { machine with counter := closing + 1 }
  | close : Executes machine .closeBlock { machine with counter := machine.counter + 1 }
  /-- A native changes values only, and the next instruction follows. -/
  | compute {name : String} {native : Native} {state : Machine}
      (registered : machine.natives.get? name = some native) (plain : native.isPlain = true)
      (ran : Call.run ⟨name, machine.counter⟩ native machine = .ok none state) :
      Executes machine (.invoke name) { state with counter := machine.counter + 1 }
  | branch {name : String} {native : Native} {enters : Float → Bool} {value : Float}
      {rest : List Value} {closing : Nat} (registered : machine.natives.get? name = some native)
      (tests : native.test? = some enters) (top : machine.stack = .number value :: rest)
      (found : machine.program.blockEnd? (machine.counter + 1) = some closing) :
      Executes machine (.invoke name)
        { machine with
          stack := rest
          counter := if enters value then machine.counter + 2 else closing + 1 }
  | goto {name : String} {value : Value} {rest : List Value} {offset : Nat}
      (registered : machine.natives.get? name = some .goto) (top : machine.stack = value :: rest)
      (leads : machine.program.destination? value = some offset) :
      Executes machine (.invoke name) { machine with stack := rest, counter := offset }
  | exit {name : String} (registered : machine.natives.get? name = some .exit) :
      Executes machine (.invoke name)
        { machine with exited := true, counter := machine.counter + 1 }
  | respond {name title : String} {value : Float} {rest : List Value} {offset : Nat}
      (registered : machine.natives.get? name = some .response)
      (top : machine.stack = .number value :: .string title :: rest)
      (whole : natural? value = some offset) :
      Executes machine (.invoke name)
        { machine with
          stack := rest
          queued := machine.queued ++ [⟨title, offset⟩]
          counter := machine.counter + 1 }
  /-- The queued options are offered. -/
  | offer {name : String} (registered : machine.natives.get? name = some .getResponse)
      (waiting : machine.queued ≠ []) :
      Executes machine (.invoke name)
        { machine with
          queued := []
          offered := machine.queued
          paused := true
          counter := machine.counter + 1 }
  /-- Without options the run ends. -/
  | finish {name : String} (registered : machine.natives.get? name = some .getResponse)
      (none_queued : machine.queued = []) :
      Executes machine (.invoke name)
        { machine with exited := true, counter := machine.counter + 1 }

theorem execute_invoke {name : String} {native : Native}
    (registered : machine.natives.get? name = some native) :
    execute (.invoke name) machine = Call.run ⟨name, machine.counter⟩ native machine := by
  rw [execute, Action.get_bind]
  simp only [registered]

theorem execute_unknown {name : String} (unknown : machine.natives.get? name = none) :
    execute (.invoke name) machine = .error (.undefinedFunction name) machine := by
  rw [execute, Action.get_bind]
  simp only [unknown]
  rfl

private theorem goOn_eq_ok_iff {action : Action Unit} {target : Option Nat} :
    goOn action machine = .ok target after ↔ target = none ∧ action machine = .ok () after := by
  rw [goOn, Action.bind_eq_ok_iff]
  constructor
  · rintro ⟨_, _, ran, ⟨⟩⟩
    exact ⟨rfl, ran⟩
  · rintro ⟨rfl, ran⟩
    exact ⟨(), after, ran, rfl⟩

private theorem map_some_eq_ok_iff {action : Action Nat} {target : Option Nat} :
    (some <$> action) machine = .ok target after ↔
      ∃ offset, target = some offset ∧ action machine = .ok offset after := by
  simp only [Functor.map, EStateM.map]
  cases action machine <;> simp [eq_comm]

private theorem Call.branch_executes {name : String} {native : Native} {enters : Float → Bool}
    {offset : Nat} {state : Machine} (registered : machine.natives.get? name = some native)
    (tests : native.test? = some enters)
    (ran : Call.branch ⟨name, machine.counter⟩ enters machine = .ok offset state) :
    Executes machine (.invoke name) { state with counter := offset } := by
  obtain ⟨value, rest, closing, top, found, rfl, rfl⟩ := (branch_eq_ok_iff _).mp ran
  exact .branch registered tests top found

/-- A native that has gone well has changed values only, unless it is one of those that `Executes`
lists. -/
private theorem Call.run_executes {name : String} {native : Native} {target : Option Nat}
    {state : Machine}
    (registered : machine.natives.get? name = some native)
    (ran : Call.run ⟨name, machine.counter⟩ native machine = .ok target state) :
    Executes machine (.invoke name)
      { state with counter := target.getD (machine.counter + 1) } := by
  cases native with
  | enterIfZero | enterIfPositive =>
      obtain ⟨_, rfl, branched⟩ := map_some_eq_ok_iff.mp ran
      exact branch_executes registered rfl branched
  | goto =>
      obtain ⟨_, rfl, jumped⟩ := map_some_eq_ok_iff.mp ran
      obtain ⟨value, rest, top, leads, rfl⟩ := goto_eq_ok_iff _ |>.mp jumped
      exact .goto registered top leads
  | exit =>
      obtain ⟨rfl, ⟨⟩⟩ := goOn_eq_ok_iff.mp ran
      exact .exit registered
  | response =>
      obtain ⟨rfl, responded⟩ := goOn_eq_ok_iff.mp ran
      obtain ⟨value, title, rest, offset, top, whole, rfl⟩ := response_eq_ok_iff _ |>.mp responded
      exact .respond registered top whole
  | getResponse =>
      obtain ⟨rfl, asked⟩ := goOn_eq_ok_iff.mp ran
      have left : (if machine.queued.isEmpty then { machine with exited := true }
          else { machine with queued := [], offered := machine.queued, paused := true }) =
            state := by
        cases asked
        rfl
      by_cases waiting : machine.queued = []
      · rw [if_pos (by simp [waiting])] at left
        subst left
        exact .finish registered waiting
      · rw [if_neg (by simp [waiting])] at left
        subst left
        exact .offer registered waiting
  | _ =>
      obtain ⟨rfl, -⟩ := goOn_eq_ok_iff.mp ran
      exact .compute registered rfl ran

theorem execute_executes {target : Option Nat} {state : Machine}
    (here : machine.program.get? machine.counter = some instruction)
    (ran : execute instruction machine = .ok target state) :
    Executes machine instruction { state with counter := target.getD (machine.counter + 1) } := by
  cases instruction with
  | pushNumber value =>
      cases ran
      exact .pushNumber value
  | pushString value =>
      cases ran
      exact .pushString value
  | openBlock =>
      obtain ⟨closing, found⟩ := Program.exists_blockEnd? here
      cases ran
      rw [found]
      exact .skip found
  | closeBlock =>
      cases ran
      exact .close
  | invoke name =>
      cases registered : machine.natives.get? name with
      | none =>
          rw [execute_unknown registered] at ran
          cases ran
      | some native =>
          rw [execute_invoke registered] at ran
          exact Call.run_executes registered ran

/-- The instruction of an `Executes` is the one that is executed. -/
private theorem Executes.execute_eq (executes : Executes machine instruction after) :
    ∃ target state, execute instruction machine = .ok target state ∧
      { state with counter := target.getD (machine.counter + 1) } = after := by
  cases executes with
  | pushNumber value => exact ⟨none, _, rfl, rfl⟩
  | pushString value => exact ⟨none, _, rfl, rfl⟩
  | @skip closing found =>
      refine ⟨some (closing + 1), machine, ?_, rfl⟩
      have ran : execute .openBlock machine =
          .ok ((machine.program.blockEnd? machine.counter).map (· + 1)) machine := rfl
      rw [ran, found]
      rfl
  | close => exact ⟨none, machine, rfl, rfl⟩
  | compute registered plain ran => exact ⟨none, _, (execute_invoke registered).trans ran, rfl⟩
  | @branch name native enters value rest closing registered tests top found =>
      have branched : (some <$> Call.branch ⟨name, machine.counter⟩ enters) machine =
          .ok (some (if enters value then machine.counter + 2 else closing + 1))
            { machine with stack := rest } :=
        map_some_eq_ok_iff.mpr ⟨_, rfl, (Call.branch_eq_ok_iff _).mpr
          ⟨value, rest, closing, top, found, rfl, rfl⟩⟩
      refine ⟨_, _, (execute_invoke registered).trans (Eq.trans ?_ branched), rfl⟩
      cases native <;> cases tests <;> rfl
  | goto registered top leads =>
      exact ⟨_, _, (execute_invoke registered).trans (map_some_eq_ok_iff.mpr ⟨_, rfl,
        (Call.goto_eq_ok_iff _).mpr ⟨_, _, top, leads, rfl⟩⟩), rfl⟩
  | exit registered => exact ⟨none, _, execute_invoke registered, rfl⟩
  | respond registered top whole =>
      exact ⟨_, _, (execute_invoke registered).trans (goOn_eq_ok_iff.mpr ⟨rfl,
        (Call.response_eq_ok_iff _).mpr ⟨_, _, _, _, top, whole, rfl⟩⟩), rfl⟩
  | offer registered waiting =>
      refine ⟨none, if machine.queued.isEmpty then { machine with exited := true }
          else { machine with queued := [], offered := machine.queued, paused := true },
        execute_invoke registered, ?_⟩
      rw [if_neg (by simp [waiting])]
      rfl
  | finish registered none_queued =>
      refine ⟨none, if machine.queued.isEmpty then { machine with exited := true }
          else { machine with queued := [], offered := machine.queued, paused := true },
        execute_invoke registered, ?_⟩
      rw [if_pos (by simp [none_queued])]
      rfl

/-- An instruction that succeeds leads to one machine only. -/
theorem Executes.unique {other : Machine} (executes : Executes machine instruction after)
    (again : Executes machine instruction other) : after = other := by
  obtain ⟨target, state, ran, rfl⟩ := executes.execute_eq
  obtain ⟨other_target, other_state, other_ran, rfl⟩ := again.execute_eq
  rw [ran] at other_ran
  cases other_ran
  rfl

/-! ## Calls -/

/-- The native that the next instruction calls. -/
def called? (machine : Machine) : Option Native :=
  match machine.program.get? machine.counter with
  | some (.invoke name) => machine.natives.get? name
  | _ => none

theorem called?_eq_some_iff {native : Native} :
    machine.called? = some native ↔ ∃ name,
      machine.program.get? machine.counter = some (.invoke name) ∧
        machine.natives.get? name = some native := by
  rw [called?]
  split
  · rename_i name here
    simp [here]
  · rename_i no_call
    simpa using fun name here => (no_call name here).elim

theorem called?_invoke {name : String}
    (here : machine.program.get? machine.counter = some (.invoke name)) :
    machine.called? = machine.natives.get? name := by
  rw [called?, here]

/-! ## Natives whose effect is known -/

section Known

variable {name : String}

theorem executes_ownOffset (registered : machine.natives.get? name = some .ownOffset) :
    Executes machine (.invoke name)
      { machine with
        stack := .ofOffset machine.counter :: machine.stack
        counter := machine.counter + 1 } :=
  .compute registered rfl rfl

theorem executes_add {left right : Float} {rest : List Value}
    (registered : machine.natives.get? name = some .add)
    (top : machine.stack = .number left :: .number right :: rest) :
    Executes machine (.invoke name)
      { machine with
        stack := .number (left + right) :: rest
        counter := machine.counter + 1 } := by
  obtain ⟨program, natives, stack, others⟩ := machine
  subst top
  exact .compute registered rfl rfl

theorem executes_emit {value : Value} {rest : List Value}
    (registered : machine.natives.get? name = some .emit) (top : machine.stack = value :: rest) :
    Executes machine (.invoke name)
      { machine with
        stack := rest
        output := value :: machine.output
        counter := machine.counter + 1 } := by
  obtain ⟨program, natives, stack, others⟩ := machine
  subst top
  exact .compute registered rfl rfl

theorem executes_hasContext {key : String} {rest : List Value}
    (registered : machine.natives.get? name = some .hasContext)
    (top : machine.stack = .string key :: rest) :
    Executes machine (.invoke name)
      { machine with
        stack := .flag (machine.context.contains key) :: rest
        counter := machine.counter + 1 } := by
  obtain ⟨program, natives, stack, others⟩ := machine
  subst top
  exact .compute registered rfl rfl

theorem executes_setContext {key : String} {value : Value} {rest : List Value}
    (registered : machine.natives.get? name = some .setContext)
    (top : machine.stack = .string key :: value :: rest) :
    Executes machine (.invoke name)
      { machine with
        stack := rest
        context := machine.context.insert key value
        counter := machine.counter + 1 } := by
  obtain ⟨program, natives, stack, others⟩ := machine
  subst top
  exact .compute registered rfl rfl

/-- A branch on zero enters the block if a condition does not hold. -/
theorem executes_enterIfZero {condition : Bool} {rest : List Value} {closing : Nat}
    (registered : machine.natives.get? name = some .enterIfZero)
    (top : machine.stack = .flag condition :: rest)
    (found : machine.program.blockEnd? (machine.counter + 1) = some closing) :
    Executes machine (.invoke name)
      { machine with
        stack := rest
        counter := if condition then closing + 1 else machine.counter + 2 } := by
  cases condition <;> exact .branch registered rfl top found

end Known

/-! ## Ticks -/

theorem tick_exited (exited : machine.exited = true) : machine.tick = (machine, .ok ()) := by
  rw [tick, if_pos exited]

/-- Past the end of the program the run ends. -/
theorem tick_past (running : machine.exited = false)
    (past : machine.program.get? machine.counter = none) :
    machine.tick = ({ machine with exited := true }, .ok ()) := by
  simp [tick, running, past]

theorem tick_running (running : machine.exited = false)
    (here : machine.program.get? machine.counter = some instruction) :
    machine.tick =
      match execute instruction machine with
      | .ok target after => ({ after with counter := target.getD (machine.counter + 1) }, .ok ())
      | .error error after => ({ after with exited := true }, .error error) := by
  cases ran : execute instruction machine <;> simp [tick, running, here, ran]

/-- A tick that goes well executes the instruction at the counter. -/
theorem tick_eq_ok_iff (running : machine.exited = false)
    (here : machine.program.get? machine.counter = some instruction) :
    machine.tick = (after, .ok ()) ↔ Executes machine instruction after := by
  rw [tick_running running here]
  constructor
  · intro ticked
    cases ran : execute instruction machine with
    | ok target state =>
        rw [ran] at ticked
        simp only [Prod.mk.injEq, and_true] at ticked
        rw [← ticked]
        exact execute_executes here ran
    | error error state => simp [ran] at ticked
  · intro executes
    obtain ⟨target, state, ran, rfl⟩ := executes.execute_eq
    rw [ran]

/-- An instruction that fails changes values only. -/
theorem execute_error {error : RuntimeError}
    (ran : execute instruction machine = .error error after) : Framed machine after := by
  cases instruction with
  | pushNumber | pushString | openBlock | closeBlock => cases ran
  | invoke name =>
      cases registered : machine.natives.get? name with
      | none =>
          rw [execute_unknown registered] at ran
          cases ran
          exact Framed.refl machine
      | some native =>
          rw [execute_invoke registered] at ran
          by_cases tame : native.isTame = true
          · exact (Call.run_keeps _ tame).of_error ran
          · cases native <;> simp [Native.isTame] at tame
            · cases ran
            · rcases Action.bind_eq_error_iff.mp ran with failed | ⟨_, _, _, ⟨⟩⟩
              exact Call.response_error _ failed
            · cases ran

/-- A tick that fails changes values only and ends the run. -/
theorem tick_error {error : RuntimeError} (ticked : machine.tick = (after, .error error)) :
    machine.exited = false ∧
      (∃ instruction, machine.program.get? machine.counter = some instruction) ∧
        ∃ state, Framed machine state ∧ after = { state with exited := true } := by
  rw [tick] at ticked
  split at ticked
  · simp at ticked
  · rename_i running
    refine ⟨by simpa using running, ?_⟩
    cases here : machine.program.get? machine.counter with
    | none => simp [here] at ticked
    | some instruction =>
        refine ⟨⟨instruction, rfl⟩, ?_⟩
        cases ran : execute instruction machine with
        | ok => simp [here, ran] at ticked
        | error other state =>
            simp only [here, ran, Prod.mk.injEq] at ticked
            exact ⟨state, execute_error ran, ticked.1.symm⟩

/-- A tick of a running machine runs past the end, succeeds, or fails. -/
theorem tick_cases (running : machine.exited = false) (ticked : machine.tick.1 = after) :
    (machine.program.get? machine.counter = none ∧ after = { machine with exited := true }) ∨
      (∃ instruction, machine.program.get? machine.counter = some instruction ∧
        Executes machine instruction after) ∨
        ∃ state, Framed machine state ∧ after = { state with exited := true } := by
  subst ticked
  cases here : machine.program.get? machine.counter with
  | none => exact Or.inl ⟨rfl, by rw [tick_past running here]⟩
  | some instruction =>
      cases result : machine.tick with
      | mk state reply =>
          cases reply with
          | ok => exact Or.inr (Or.inl ⟨instruction, rfl, (tick_eq_ok_iff running here).mp result⟩)
          | error error => exact Or.inr (Or.inr (tick_error result).2.2)

/-! ## What no tick takes back -/

/-- The second machine runs the same program and has lost neither a key of the context nor a value
that was handed to the host, nor has it started again. -/
structure Evolves (before after : Machine) : Prop where
  program : after.program = before.program
  natives : after.natives = before.natives
  exited : before.exited = true → after.exited = true
  keys : ∀ key, before.context.contains key = true → after.context.contains key = true
  output : before.output <:+ after.output

namespace Evolves

variable {first second third : Machine}

theorem refl (machine : Machine) : Evolves machine machine :=
  ⟨rfl, rfl, id, fun _ => id, List.suffix_refl _⟩

theorem trans (left : Evolves first second) (right : Evolves second third) :
    Evolves first third where
  program := right.program.trans left.program
  natives := right.natives.trans left.natives
  exited := right.exited ∘ left.exited
  keys := fun key present => right.keys key (left.keys key present)
  output := left.output.trans right.output

theorem of_framed {counter : Nat} (framed : Framed first second) :
    Evolves first { second with counter } :=
  ⟨framed.program, framed.natives, fun exited => framed.exited.trans exited, framed.keys,
    framed.output⟩

end Evolves

theorem Executes.evolves (executes : Executes machine instruction after) :
    Evolves machine after := by
  cases executes with
  | compute registered plain ran =>
      exact .of_framed ((Call.run_keeps _ (Native.isTame_of_isPlain plain)).of_ok ran)
  | exit | finish => exact ⟨rfl, rfl, fun _ => rfl, fun _ => id, List.suffix_refl _⟩
  | _ => exact ⟨rfl, rfl, id, fun _ => id, List.suffix_refl _⟩

theorem tick_evolves (machine : Machine) : Evolves machine machine.tick.1 := by
  cases running : machine.exited with
  | true =>
      rw [tick_exited running]
      exact .refl machine
  | false =>
      rcases tick_cases running rfl with
        ⟨-, after⟩ | ⟨instruction, -, executes⟩ | ⟨state, framed, after⟩
      · rw [after]
        exact ⟨rfl, rfl, fun _ => rfl, fun _ => id, List.suffix_refl _⟩
      · exact executes.evolves
      · rw [after]
        exact ⟨framed.program, framed.natives, fun _ => rfl, framed.keys, framed.output⟩

/-! ## Where control goes -/

/-- Whether an instruction is a branch into the block that follows it. -/
def Branches (machine : Machine) (instruction : Instruction) : Prop :=
  ∃ name native, instruction = .invoke name ∧ machine.natives.get? name = some native ∧
    native.test?.isSome = true

/-- Whether an instruction is a jump to an offset. -/
def Jumps (machine : Machine) (instruction : Instruction) (offset : Nat) : Prop :=
  ∃ name value rest, instruction = .invoke name ∧ machine.natives.get? name = some .goto ∧
    machine.stack = value :: rest ∧ machine.program.destination? value = some offset

/-- The offsets to which control may go from an instruction. -/
inductive Lands (machine : Machine) (instruction : Instruction) : Nat → Prop
  | next (no_brace : instruction ≠ .openBlock)
      (proceeds : ∀ name, instruction = .invoke name →
        ∃ native, machine.natives.get? name = some native ∧ native.proceeds = true) :
      Lands machine instruction (machine.counter + 1)
  | behind {opening closing : Nat} (block : machine.program.blockEnd? opening = some closing)
      (place : (opening = machine.counter ∧ instruction = .openBlock) ∨
        (opening = machine.counter + 1 ∧ Branches machine instruction)) :
      Lands machine instruction (closing + 1)
  | into {opening closing : Nat} (block : machine.program.blockEnd? opening = some closing)
      (place : opening = machine.counter + 1) (branches : Branches machine instruction) :
      Lands machine instruction (opening + 1)
  | jump {offset : Nat} (jumps : Jumps machine instruction offset) :
      Lands machine instruction offset

/-- Control goes to one of these offsets unless the run ends or the machine waits. -/
theorem Executes.lands (executes : Executes machine instruction after)
    (running : after.exited = false) (awake : after.paused = false) :
    Lands machine instruction after.counter := by
  cases executes with
  | pushNumber | pushString | close => exact .next (by simp) (by simp)
  | skip found => exact .behind found (Or.inl ⟨rfl, rfl⟩)
  | @compute name native state registered plain ran =>
      refine .next (by simp) fun other same => ?_
      cases same
      exact ⟨native, registered, (Bool.and_eq_true_iff.mp plain).2⟩
  | @branch name native enters value rest closing registered tests top found =>
      have branches : Branches machine (.invoke name) :=
        ⟨name, native, rfl, registered, by simp [tests]⟩
      simp only
      split
      · exact .into found rfl branches
      · exact .behind found (Or.inr ⟨rfl, branches⟩)
  | goto registered top leads => exact .jump ⟨_, _, _, rfl, registered, top, leads⟩
  | exit | finish => cases running
  | offer => cases awake
  | @respond name title value rest offset registered top whole =>
      refine .next (by simp) fun other same => ?_
      cases same
      exact ⟨.response, registered, rfl⟩

/-- Control goes forward unless by a jump. -/
theorem Lands.advances {target : Nat} (lands : Lands machine instruction target) :
    machine.counter < target ∨ Jumps machine instruction target := by
  cases lands with
  | next => exact Or.inl (Nat.lt_succ_self _)
  | behind block place =>
      obtain ⟨-, -, ordered⟩ := Program.blockEnd?_braces block
      rcases place with ⟨rfl, -⟩ | ⟨rfl, -⟩ <;> omega
  | into block place branches => omega
  | jump jumps => exact Or.inr jumps

section Crossing

variable {opening closing target : Nat}

/-- Control comes into a block from within, from the branch in front of it, or by a jump. -/
theorem Lands.enters (lands : Lands machine instruction target)
    (here : machine.program.get? machine.counter = some instruction)
    (block : machine.program.blockEnd? opening = some closing) (after : opening < target)
    (before : target ≤ closing) :
    (opening < machine.counter ∧ machine.counter ≤ closing) ∨
      (machine.counter + 1 = opening ∧ Branches machine instruction) ∨
        Jumps machine instruction target := by
  have opens := (Program.blockEnd?_braces block).1
  have not_opening (branches : Branches machine instruction) : machine.counter ≠ opening := by
    rintro rfl
    obtain ⟨name, native, rfl, -⟩ := branches
    simp [opens] at here
  cases lands with
  | next no_brace proceeds =>
      have : machine.counter ≠ opening := by
        rintro rfl
        exact no_brace (Option.some.inj (here.symm.trans opens))
      omega
  | @behind other other_end found place =>
      obtain ⟨-, -, ordered⟩ := Program.blockEnd?_braces found
      rcases Nat.lt_trichotomy other opening with earlier | rfl | later
      · rcases Program.blocks_nested found block earlier with apart | around <;> omega
      · have := Option.some.inj (found.symm.trans block)
        omega
      · rcases place with ⟨rfl, -⟩ | ⟨rfl, branches⟩
        · omega
        · have := not_opening branches
          omega
  | @into other other_end found place branches =>
      have := not_opening branches
      rcases Nat.lt_or_ge machine.counter opening with less | greater
      · exact Or.inr (Or.inl ⟨by omega, branches⟩)
      · omega
  | jump jumps => exact Or.inr (Or.inr jumps)

/-- From within a block control does not go beyond the brace that closes it, unless by a jump. -/
theorem Lands.stays (lands : Lands machine instruction target)
    (block : machine.program.blockEnd? opening = some closing) (after : opening < machine.counter)
    (before : machine.counter < closing) :
    (opening < target ∧ target ≤ closing) ∨ Jumps machine instruction target := by
  have closes := (Program.blockEnd?_braces block).2.1
  have inside {other other_end : Nat} (found : machine.program.blockEnd? other = some other_end)
      (place : other = machine.counter ∨ other = machine.counter + 1) :
      other < other_end ∧ other_end < closing := by
    obtain ⟨opens, -, ordered⟩ := Program.blockEnd?_braces found
    have not_closing : other ≠ closing := by
      rintro rfl
      simp [closes] at opens
    rcases Program.blocks_nested block found (by omega) with apart | within <;> omega
  cases lands with
  | next => omega
  | behind found place =>
      have := inside found (place.imp And.left And.left)
      rcases place with ⟨rfl, -⟩ | ⟨rfl, -⟩ <;> omega
  | into found place branches =>
      have := inside found (Or.inr place)
      omega
  | jump jumps => exact Or.inr jumps

end Crossing

/-! ## Ticks in a row -/

/-- A number of instructions that are executed one after the other, all with success. -/
inductive Leads : Nat → Machine → Machine → Prop
  | refl (machine : Machine) : Leads 0 machine machine
  | step {count : Nat} {machine next last : Machine} {instruction : Instruction}
      (running : machine.exited = false) (awake : machine.paused = false)
      (here : machine.program.get? machine.counter = some instruction)
      (executes : Executes machine instruction next) (leads : Leads count next last) :
      Leads (count + 1) machine last

namespace Leads

variable {count more : Nat} {first second third : Machine}

theorem trans (left : Leads count first second) (right : Leads more second third) :
    Leads (count + more) first third := by
  induction left with
  | refl => simpa using right
  | step running awake here executes _ induction =>
      rw [Nat.add_right_comm]
      exact .step running awake here executes (induction right)

theorem snoc (leads : Leads count first second) (running : second.exited = false)
    (awake : second.paused = false)
    (here : second.program.get? second.counter = some instruction)
    (executes : Executes second instruction third) : Leads (count + 1) first third :=
  leads.trans (.step running awake here executes (.refl third))

end Leads

/-- So many instructions at most that are executed one after the other, all with success. -/
def LeadsWithin (most : Nat) (first second : Machine) : Prop :=
  ∃ count ≤ most, Leads count first second

namespace LeadsWithin

variable {most more : Nat} {first second third : Machine}

theorem of_leads {count : Nat} (leads : Leads count first second) (within : count ≤ most) :
    LeadsWithin most first second :=
  ⟨count, within, leads⟩

theorem trans (left : LeadsWithin most first second) (right : LeadsWithin more second third) :
    LeadsWithin (most + more) first third := by
  obtain ⟨count, within, leads⟩ := left
  obtain ⟨later, later_within, leads_on⟩ := right
  exact ⟨count + later, by omega, leads.trans leads_on⟩

theorem mono (leads : LeadsWithin most first second) (le : most ≤ more) :
    LeadsWithin more first second := by
  obtain ⟨count, within, leads⟩ := leads
  exact ⟨count, by omega, leads⟩

end LeadsWithin

end Machine

end Gamebook
