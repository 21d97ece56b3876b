import Gamebook.Machine.Run
import Mathlib.Tactic

/-!
# What actions leave alone

Natives are composed of a few basic actions.  What is kept by composing actions and holds of the
basic ones therefore holds of most natives, and is shown of them once and for all.

The main use is that most natives only touch the stack, the context, the random numbers and the
output of a machine.  They never remove a key from the context and never take back a value that was
handed to the host, and the same goes for what is left of them when they fail.  The exceptions are
the natives that queue or offer options and the one that ends the run.
-/

namespace Gamebook

/-- Whether a native neither queues nor offers options nor ends the run. -/
def Native.isTame : Native → Bool
  | exit | response | getResponse => false
  | _ => true

/-- Whether the instruction that follows is always the next one. -/
def Native.proceeds : Native → Bool
  | enterIfZero | enterIfPositive | goto | exit | getResponse => false
  | _ => true

/-- Whether a native changes values only and the instruction that follows is the next one. -/
def Native.isPlain (native : Native) : Bool :=
  native.isTame && native.proceeds

/-- Whether an error is that of an instruction; the others refuse an answer of the host. -/
def RuntimeError.ofInstruction : RuntimeError → Bool
  | unresolvedChoice _ | notSuspended => false
  | _ => true

/-- Whether an error is that of a native; an instruction that calls none fails with another one. -/
def RuntimeError.ofNative : RuntimeError → Bool
  | undefinedFunction _ => false
  | error => error.ofInstruction

namespace Machine

/-! ## Machines that differ in their values only -/

/-- The second machine differs from the first one in its stack, random numbers, new or changed keys
of its context and further output at most. -/
structure Framed (before after : Machine) : Prop where
  program : after.program = before.program
  natives : after.natives = before.natives
  counter : after.counter = before.counter
  exited : after.exited = before.exited
  paused : after.paused = before.paused
  queued : after.queued = before.queued
  offered : after.offered = before.offered
  keys : ∀ key, before.context.contains key = true → after.context.contains key = true
  output : before.output <:+ after.output

namespace Framed

variable {first second third : Machine}

theorem refl (machine : Machine) : Framed machine machine :=
  ⟨rfl, rfl, rfl, rfl, rfl, rfl, rfl, fun _ => id, List.suffix_refl _⟩

theorem trans (left : Framed first second) (right : Framed second third) :
    Framed first third where
  program := right.program.trans left.program
  natives := right.natives.trans left.natives
  counter := right.counter.trans left.counter
  exited := right.exited.trans left.exited
  paused := right.paused.trans left.paused
  queued := right.queued.trans left.queued
  offered := right.offered.trans left.offered
  keys := fun key present => right.keys key (left.keys key present)
  output := left.output.trans right.output

theorem of_stack (machine : Machine) (stack : List Value) :
    Framed machine { machine with stack } :=
  ⟨rfl, rfl, rfl, rfl, rfl, rfl, rfl, fun _ => id, List.suffix_refl _⟩

theorem of_random (machine : Machine) (random : Random) : Framed machine { machine with random } :=
  ⟨rfl, rfl, rfl, rfl, rfl, rfl, rfl, fun _ => id, List.suffix_refl _⟩

theorem of_insert (machine : Machine) (key : String) (value : Value) :
    Framed machine { machine with context := machine.context.insert key value } :=
  ⟨rfl, rfl, rfl, rfl, rfl, rfl, rfl, fun other present => by simp [present], List.suffix_refl _⟩

theorem of_output (machine : Machine) (value : Value) :
    Framed machine { machine with output := value :: machine.output } :=
  ⟨rfl, rfl, rfl, rfl, rfl, rfl, rfl, fun _ => id, List.suffix_cons _ _⟩

end Framed

/-! ## Composed actions -/

namespace Action

variable {α β : Type} {machine after : Machine}

/-- Two actions succeed one after the other if the first does and the second does on what it left.
-/
theorem bind_eq_ok_iff {action : Action α} {next : α → Action β} {result : β} :
    (action >>= next) machine = .ok result after ↔
      ∃ value between, action machine = .ok value between ∧
        next value between = .ok result after := by
  simp only [Bind.bind, EStateM.bind]
  cases action machine <;> simp

theorem get_bind (next : Machine → Action α) : (get >>= next) machine = next machine machine := rfl

/-- Of two actions the first one fails, or the second one does on what the first left. -/
theorem bind_eq_error_iff {action : Action α} {next : α → Action β} {error : RuntimeError} :
    (action >>= next) machine = .error error after ↔
      action machine = .error error after ∨
        ∃ value between, action machine = .ok value between ∧
          next value between = .error error after := by
  simp only [Bind.bind, EStateM.bind]
  cases action machine <;> simp

/-- A property of actions that is kept by composing them and holds of the basic ones.  Of a machine
these look up nothing but what is neither its program nor its place in it, nor its stack, its random
numbers or its output. -/
structure Elementary (Holds : ∀ {α : Type}, Action α → Prop) : Prop where
  pure : ∀ {α : Type} (value : α), Holds (pure value : Action α)
  throw : ∀ {α : Type} (error : RuntimeError), error.ofNative = true →
    Holds (throw error : Action α)
  bind : ∀ {α β : Type} {action : Action α} {next : α → Action β}, Holds action →
    (∀ value, Holds (next value)) → Holds (action >>= next)
  look : ∀ {β : Type} {next : Machine → Action β},
    (∀ machine program counter stack random output,
      next { machine with program, counter, stack, random, output } = next machine) →
      (∀ machine, Holds (next machine)) → Holds (get >>= next)
  pop : ∀ call operand, Holds (Call.pop call operand)
  push : ∀ value, Holds (Call.push value)
  assign : ∀ key value, Holds (Call.bind key value)
  hand : ∀ value, Holds (modify fun machine => { machine with output := value :: machine.output })

/-- A property of actions that is kept even if they look things up in the program. -/
structure Compositional (Holds : ∀ {α : Type}, Action α → Prop) : Prop
    extends Elementary @Holds where
  study : ∀ {β : Type} {next : Machine → Action β},
    (∀ machine stack random output,
      next { machine with stack, random, output } = next machine) →
      (∀ machine, Holds (next machine)) → Holds (get >>= next)

section Natives

variable {Holds : ∀ {α : Type}, Action α → Prop} (call : Call)

namespace Elementary

variable (elementary : Elementary @Holds)

include elementary

theorem goOn {action : Action Unit} (holds : Holds action) : Holds (goOn action) :=
  elementary.bind holds fun _ => elementary.pure none

theorem map {action : Action α} (f : α → β) (holds : Holds action) : Holds (f <$> action) :=
  elementary.bind holds fun value => elementary.pure (f value)

theorem popNumber (operand : Nat) : Holds (call.popNumber operand) := by
  apply elementary.bind (elementary.pop call operand)
  intro value
  cases value with
  | number value => exact elementary.pure value
  | string value => exact elementary.throw _ rfl

theorem popString (operand : Nat) : Holds (call.popString operand) := by
  apply elementary.bind (elementary.pop call operand)
  intro value
  cases value with
  | number value => exact elementary.throw _ rfl
  | string value => exact elementary.pure value

theorem arithmetic (combine : Float → Float → Float) : Holds (call.arithmetic combine) :=
  elementary.bind (elementary.popNumber call 1) fun _ =>
    elementary.bind (elementary.popNumber call 2) fun _ => elementary.push _

theorem compare (relates : Float → Float → Bool) : Holds (call.compare relates) :=
  elementary.bind (elementary.popNumber call 1) fun _ =>
    elementary.bind (elementary.popNumber call 2) fun _ => elementary.push _

theorem join (combine : String → String → String) : Holds (call.join combine) :=
  elementary.bind (elementary.popString call 1) fun _ =>
    elementary.bind (elementary.popString call 2) fun _ => elementary.push _

theorem charCode : Holds call.charCode := by
  apply elementary.bind (elementary.popNumber call 1)
  intro code
  split
  · exact elementary.push _
  · exact elementary.throw _ rfl

theorem getContext : Holds call.getContext := by
  refine elementary.bind (elementary.popString call 1) fun key =>
    elementary.look (fun _ _ _ _ _ _ => rfl) fun machine => ?_
  split
  · exact elementary.push _
  · exact elementary.throw _ rfl

theorem setContext : Holds call.setContext :=
  elementary.bind (elementary.popString call 1) fun _ =>
    elementary.bind (elementary.pop call 2) fun _ => elementary.assign _ _

theorem hasContext : Holds call.hasContext :=
  elementary.bind (elementary.popString call 1) fun _ =>
    elementary.look (fun _ _ _ _ _ _ => rfl) fun _ => elementary.push _

theorem optionKey : Holds call.optionKey :=
  elementary.bind (elementary.popString call 1) fun _ => elementary.pure _

theorem optionFlag : Holds call.optionFlag := by
  refine elementary.bind (elementary.optionKey call) fun key =>
    elementary.look (fun _ _ _ _ _ _ => rfl) fun machine => ?_
  split
  · exact elementary.pure _
  · exact elementary.bind (elementary.assign _ _) fun _ => elementary.pure _

/-- The property holds of every native that only changes values and after which the next instruction
follows, unless it draws a random number. -/
theorem run {native : Native} (plain : native.isPlain = true) (steady : native ≠ .randomInt) :
    Holds (call.run native) := by
  cases native with
  | add | subtract | multiply => exact elementary.goOn (elementary.arithmetic call _)
  | greater | less | equal => exact elementary.goOn (elementary.compare call _)
  | randomInt => exact absurd rfl steady
  | charCode => exact elementary.goOn (elementary.charCode call)
  | concat | concatReversed => exact elementary.goOn (elementary.join call _)
  | getContext => exact elementary.goOn (elementary.getContext call)
  | setContext => exact elementary.goOn (elementary.setContext call)
  | hasContext => exact elementary.goOn (elementary.hasContext call)
  | ownOffset => exact elementary.goOn (elementary.push _)
  | emit =>
      exact elementary.goOn (elementary.bind (elementary.pop call 1) fun _ => elementary.hand _)
  | optionEnabled | optionDisabled =>
      exact elementary.goOn (elementary.bind (elementary.optionFlag call) fun _ =>
        elementary.push _)
  | enableOption | disableOption =>
      exact elementary.goOn (elementary.bind (elementary.optionKey call) fun _ =>
        elementary.assign _ _)
  | enterIfZero | enterIfPositive | goto | exit | response | getResponse =>
      simp [Native.isPlain, Native.isTame, Native.proceeds] at plain

end Elementary

namespace Compositional

variable (compositional : Compositional @Holds)

include compositional

theorem nextBlock : Holds call.nextBlock := by
  apply compositional.study (fun _ _ _ _ => rfl)
  intro machine
  simp only
  split
  · exact compositional.pure _
  · exact compositional.throw _ rfl

theorem branch (enters : Float → Bool) : Holds (call.branch enters) :=
  compositional.bind (compositional.popNumber call 1) fun _ =>
    compositional.bind (compositional.nextBlock call) fun _ => compositional.pure _

theorem goto : Holds call.goto := by
  apply compositional.bind (compositional.pop call 1)
  intro target
  cases target with
  | string label =>
      apply compositional.study (fun _ _ _ _ => rfl)
      intro machine
      split
      · exact compositional.pure _
      · exact compositional.throw _ rfl
  | number value =>
      apply compositional.study (fun _ _ _ _ => rfl)
      intro machine
      simp only
      split
      · split
        · exact compositional.pure _
        · exact compositional.throw _ rfl
      · exact compositional.throw _ rfl

/-- The property holds of every native that neither draws random numbers nor changes the options nor
ends the run. -/
theorem run {native : Native} (tame : native.isTame = true) (steady : native ≠ .randomInt) :
    Holds (call.run native) := by
  cases proceeds : native.proceeds with
  | true =>
      have plain : native.isPlain = true := by simp [Native.isPlain, tame, proceeds]
      exact compositional.toElementary.run call plain steady
  | false =>
      cases native with
      | enterIfZero | enterIfPositive => exact compositional.map some (compositional.branch call _)
      | goto => exact compositional.map some (compositional.goto call)
      | exit | getResponse => simp [Native.isTame] at tame
      | _ => simp [Native.proceeds] at proceeds

end Compositional

end Natives

end Action

namespace Call

variable (call : Call)

/-- What popping does, by the stack. -/
theorem pop_apply (operand : Nat) (machine : Machine) :
    call.pop operand machine =
      match machine.stack with
      | [] => .error (.type call.name operand "value" "an empty stack") machine
      | value :: rest => .ok value { machine with stack := rest } := by
  rcases machine with ⟨_, _, _ | ⟨value, rest⟩, _⟩ <;> rfl

theorem popNumber_apply (operand : Nat) (machine : Machine) :
    call.popNumber operand machine =
      match machine.stack with
      | [] => .error (.type call.name operand "value" "an empty stack") machine
      | .number value :: rest => .ok value { machine with stack := rest }
      | other :: rest =>
        .error (.type call.name operand "number" other.kind) { machine with stack := rest } := by
  rcases machine with ⟨_, _, _ | ⟨_ | _, rest⟩, _⟩ <;> rfl

theorem popString_apply (operand : Nat) (machine : Machine) :
    call.popString operand machine =
      match machine.stack with
      | [] => .error (.type call.name operand "value" "an empty stack") machine
      | .string value :: rest => .ok value { machine with stack := rest }
      | other :: rest =>
        .error (.type call.name operand "string" other.kind) { machine with stack := rest } := by
  rcases machine with ⟨_, _, _ | ⟨_ | _, rest⟩, _⟩ <;> rfl

end Call

/-! ## Actions that do the same to a changed machine -/

/-- What is left of an action, with its machine changed. -/
def changed {α : Type} (change : Machine → Machine) :
    EStateM.Result RuntimeError Machine α → EStateM.Result RuntimeError Machine α
  | .ok value after => .ok value (change after)
  | .error error after => .error error (change after)

/-- An action that does the same to a changed machine. -/
def Action.Commutes (change : Machine → Machine) {α : Type} (action : Action α) : Prop :=
  ∀ machine, action (change machine) = changed change (action machine)

namespace Action.Commutes

variable {α β : Type} {change : Machine → Machine}

theorem bind {action : Action α} {next : α → Action β} (first : action.Commutes change)
    (second : ∀ value, (next value).Commutes change) : (action >>= next).Commutes change := by
  intro machine
  have same := first machine
  simp only [Bind.bind, EStateM.bind, same]
  cases action machine with
  | ok value after => exact second value after
  | error error after => rfl

/-- What is looked up must be the same in the changed machine. -/
theorem look {next : Machine → Action β} (same : ∀ machine, next (change machine) = next machine)
    (each : ∀ machine, (next machine).Commutes change) : (get >>= next).Commutes change := by
  intro machine
  refine Eq.trans (b := next (change machine) (change machine)) rfl ?_
  rw [same]
  exact each machine machine

end Action.Commutes

/-! ## Actions that change values only -/

namespace Action

variable {α β : Type} {machine after : Machine}

/-- The machine that an action leaves behind, whether it fails or not. -/
def leaves (action : Action α) (machine : Machine) : Machine :=
  match action machine with
  | .ok _ after => after
  | .error _ after => after

/-- An action that changes the values of a machine only. -/
def Keeps (action : Action α) : Prop :=
  ∀ machine, Framed machine (action.leaves machine)

namespace Keeps

theorem of_ok {action : Action α} {value : α} (keeps : action.Keeps)
    (ran : action machine = .ok value after) : Framed machine after := by
  simpa only [Action.leaves, ran] using keeps machine

theorem of_error {action : Action α} {error : RuntimeError} (keeps : action.Keeps)
    (ran : action machine = .error error after) : Framed machine after := by
  simpa only [Action.leaves, ran] using keeps machine

theorem bind {action : Action α} {next : α → Action β} (first : action.Keeps)
    (second : ∀ value, (next value).Keeps) : (action >>= next).Keeps := by
  intro machine
  rw [Action.leaves]
  split
  · rename_i after both
    obtain ⟨value, between, ran, later⟩ := bind_eq_ok_iff.mp both
    exact (first.of_ok ran).trans ((second value).of_ok later)
  · rename_i after both
    rcases bind_eq_error_iff.mp both with failed | ⟨value, between, ran, later⟩
    · exact first.of_error failed
    · exact (first.of_ok ran).trans ((second value).of_error later)

theorem pop (call : Call) (operand : Nat) : (call.pop operand).Keeps := by
  intro machine
  rw [Action.leaves, Call.pop_apply]
  rcases stack : machine.stack with _ | ⟨value, rest⟩
  · exact Framed.refl machine
  · exact Framed.of_stack machine rest

theorem compositional : Compositional @Keeps where
  pure _ := Framed.refl
  throw _ _ := Framed.refl
  bind := bind
  look _ each := fun machine => each machine machine
  study _ each := fun machine => each machine machine
  pop := pop
  push _ := fun machine => Framed.of_stack machine _
  assign key value := fun machine => Framed.of_insert machine key value
  hand value := fun machine => Framed.of_output machine value

theorem randomInt (call : Call) : call.randomInt.Keeps := by
  apply bind (compositional.popNumber call 1)
  intro bound
  split
  · intro machine
    exact (Framed.of_random machine _).trans (Framed.of_stack _ _)
  · exact compositional.throw _ rfl

end Keeps

end Action

/-- All natives but those that change the options or end the run only change values. -/
theorem Call.run_keeps (call : Call) {native : Native} (tame : native.isTame = true) :
    (call.run native).Keeps := by
  by_cases steady : native = .randomInt
  · subst steady
    exact Action.Keeps.compositional.goOn (.randomInt call)
  · exact Action.Keeps.compositional.run call tame steady

end Machine

end Gamebook
