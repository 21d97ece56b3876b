import Gamebook.Proofs.Machine.Tick

/-!
# Programs within programs

Where a program stands within another one, its instructions, blocks and labels are moved by the same
offset.  There it does what it does on its own, as long as it is not left and neither asks for its
offset nor jumps to a number.  This is shown for one tick by cases on `Executes`; natives that only
change values see nothing of where they are called.
-/

namespace Gamebook

/-- A program stands within another one, moved by an offset. -/
structure Program.Embeds (inner outer : Program) (base : Nat) : Prop where
  get? : ∀ {offset : Nat} {instruction : Instruction},
    inner.get? offset = some instruction → outer.get? (base + offset) = some instruction
  blockEnd? : ∀ {opening closing : Nat},
    inner.blockEnd? opening = some closing → outer.blockEnd? (base + opening) = some (base + closing)
  label? : ∀ {name : String} {offset : Nat},
    inner.label? name = some offset → outer.label? name = some (base + offset)

namespace Machine

variable {program : Program} {base : Nat} {earlier other : List Value}
  {machine alone within after : Machine} {instruction : Instruction}

/-! ## Natives at another place -/

/-- The machine at a place of another program, with further values handed to the host before. -/
def transplant (program : Program) (counter : Nat) (earlier : List Value) (machine : Machine) :
    Machine :=
  { machine with program, counter, output := machine.output ++ earlier }

theorem transplant_elementary (program : Program) (counter : Nat) (earlier : List Value) :
    Action.Elementary (@Action.Commutes (transplant program counter earlier)) where
  pure _ := fun _ => rfl
  throw _ _ := fun _ => rfl
  bind := .bind
  look same := .look fun machine =>
    same machine program counter machine.stack machine.random (machine.output ++ earlier)
  pop call operand := by
    intro machine
    rw [Call.pop_apply, Call.pop_apply]
    rcases stack : machine.stack with _ | ⟨value, rest⟩ <;> simp [transplant, changed, stack]
  push _ := fun _ => rfl
  assign _ _ := fun _ => rfl
  hand _ := fun _ => rfl

/-- A native that only changes values does the same at every place. -/
theorem Call.run_transplant (call : Call) {native : Native} (plain : native.isPlain = true)
    (program : Program) (counter : Nat) (earlier : List Value) :
    (call.run native).Commutes (transplant program counter earlier) := by
  have elementary := transplant_elementary program counter earlier
  by_cases steady : native = .randomInt
  · subst steady
    refine elementary.goOn (.bind (elementary.popNumber call 1) fun bound => ?_)
    split
    · exact fun _ => rfl
    · exact elementary.throw _ rfl
  · exact elementary.run call plain steady

/-- Only one of these natives tells where it is called. -/
theorem Call.run_elsewhere {native : Native} (plain : native.isPlain = true)
    (no_offset : native ≠ .ownOffset) (name : String) (offset place : Nat) :
    Call.run ⟨name, offset⟩ native = Call.run ⟨name, place⟩ native := by
  cases native with
  | ownOffset => exact absurd rfl no_offset
  | enterIfZero | enterIfPositive | goto | exit | response | getResponse => cases plain
  | _ => rfl

/-! ## Ticks at another place -/

/-- The second machine is where the first one is, in a program within which that of the first one
stands, and has handed over the same values since the first one had handed over `earlier` and the
second one `other`. -/
def Alongside (program : Program) (base : Nat) (earlier other : List Value)
    (alone within : Machine) : Prop :=
  ∃ emitted, alone.output = emitted ++ earlier ∧
    within = { alone with
      program, counter := base + alone.counter, output := emitted ++ other }

/-- Whether the run has ended, or the next instruction is one of the program that neither asks for
its offset nor jumps to a number. -/
def isLocal (machine : Machine) : Bool :=
  machine.exited ||
    (machine.program.get? machine.counter).isSome &&
      match machine.called?, machine.stack with
      | some .ownOffset, _ | some .goto, .number _ :: _ => false
      | _, _ => true

/-- An instruction that neither asks for its offset nor jumps to a number. -/
structure Local (machine : Machine) (instruction : Instruction) : Prop where
  here : machine.program.get? machine.counter = some instruction
  no_offset : machine.called? ≠ some .ownOffset
  no_number : machine.called? = some .goto → ∀ value rest, machine.stack ≠ .number value :: rest

theorem exists_local (running : machine.exited = false) (is_local : machine.isLocal = true) :
    ∃ instruction, Local machine instruction := by
  rw [isLocal, running, Bool.false_or, Bool.and_eq_true, Option.isSome_iff_exists] at is_local
  obtain ⟨⟨instruction, here⟩, calls⟩ := is_local
  refine ⟨instruction, here, fun called => ?_, fun called value rest top => ?_⟩
  · simp [called] at calls
  · simp [called, top] at calls

theorem Alongside.run {name : String} {native : Native} {state : Machine}
    (alongside : Alongside program base earlier other alone within) (plain : native.isPlain = true)
    (no_offset : native ≠ .ownOffset)
    (ran : Call.run ⟨name, alone.counter⟩ native alone = .ok none state) :
    ∃ moved, Call.run ⟨name, within.counter⟩ native within = .ok none moved ∧
      Alongside program base earlier other { state with counter := alone.counter + 1 }
        { moved with counter := within.counter + 1 } := by
  obtain ⟨emitted, output, rfl⟩ := alongside
  -- Both machines are transplants of one that has not handed over anything before.
  let core : Machine := { alone with output := emitted }
  have alone_eq : transplant alone.program alone.counter earlier core = alone := by
    simp only [transplant, core, ← output]
  have alone_ran := Call.run_transplant ⟨name, alone.counter⟩ plain alone.program alone.counter
    earlier core
  have within_ran := Call.run_transplant ⟨name, alone.counter⟩ plain program
    (base + alone.counter) other core
  rw [alone_eq, ran] at alone_ran
  cases core_ran : Call.run ⟨name, alone.counter⟩ native core with
  | error error rest => simp [core_ran, changed] at alone_ran
  | ok target rest =>
      rw [core_ran] at alone_ran within_ran
      obtain ⟨rfl, rfl⟩ := EStateM.Result.ok.inj alone_ran
      have moved_ran := congrFun (Call.run_elsewhere plain no_offset name (base + alone.counter)
        alone.counter) (transplant program (base + alone.counter) other core)
      exact ⟨_, moved_ran.trans within_ran, rest.output, rfl, rfl⟩

theorem Alongside.executes (alongside : Alongside program base earlier other alone within)
    (embeds : alone.program.Embeds program base)
    (is_local : Local alone instruction) (executes : Executes alone instruction after) :
    ∃ next, Executes within instruction next ∧
      Alongside program base earlier other after next := by
  have ⟨emitted, output, same⟩ := alongside
  subst same
  cases executes with
  | pushNumber value => exact ⟨_, .pushNumber value, emitted, output, rfl⟩
  | pushString value => exact ⟨_, .pushString value, emitted, output, rfl⟩
  | skip found => exact ⟨_, .skip (embeds.blockEnd? found), emitted, output, rfl⟩
  | close => exact ⟨_, .close, emitted, output, rfl⟩
  | @compute name native state registered plain ran =>
      have elsewhere : native ≠ .ownOffset := by
        rintro rfl
        exact is_local.no_offset ((called?_invoke is_local.here).trans registered)
      obtain ⟨moved, moved_ran, beside⟩ := alongside.run plain elsewhere ran
      exact ⟨_, .compute registered plain moved_ran, beside⟩
  | @branch name native enters value rest closing registered tests top found =>
      refine ⟨_, .branch registered tests top (embeds.blockEnd? found), emitted, output, ?_⟩
      cases enters value <;> rfl
  | @goto name value rest offset registered top leads =>
      cases value with
      | string label => exact ⟨_, .goto registered top (embeds.label? leads), emitted, output, rfl⟩
      | number value =>
          have called := (called?_invoke is_local.here).trans registered
          exact absurd top (is_local.no_number called value rest)
  | exit registered => exact ⟨_, .exit registered, emitted, output, rfl⟩
  | respond registered top whole => exact ⟨_, .respond registered top whole, emitted, output, rfl⟩
  | offer registered waiting => exact ⟨_, .offer registered waiting, emitted, output, rfl⟩
  | finish registered none_queued => exact ⟨_, .finish registered none_queued, emitted, output, rfl⟩

/-- A tick that succeeds and is local succeeds alongside. -/
theorem Alongside.tick (alongside : Alongside program base earlier other alone within)
    (embeds : alone.program.Embeds program base) (is_local : alone.isLocal = true)
    (ticked : alone.tick = (after, .ok ())) :
    ∃ next, within.tick = (next, .ok ()) ∧ Alongside program base earlier other after next := by
  have same_end : within.exited = alone.exited := by
    obtain ⟨emitted, -, rfl⟩ := alongside
    rfl
  cases exited : alone.exited with
  | true =>
      obtain rfl : alone = after := by
        rw [tick_exited exited] at ticked
        exact (Prod.mk.inj ticked).1
      exact ⟨within, tick_exited (same_end.trans exited), alongside⟩
  | false =>
      obtain ⟨instruction, is_local⟩ := exists_local exited is_local
      obtain ⟨next, executes, beside⟩ :=
        alongside.executes embeds is_local ((tick_eq_ok_iff exited is_local.here).mp ticked)
      have here_within : within.program.get? within.counter = some instruction := by
        obtain ⟨emitted, -, rfl⟩ := alongside
        exact embeds.get? is_local.here
      exact ⟨next, (tick_eq_ok_iff (same_end.trans exited) here_within).mpr executes, beside⟩

/-- Ticks that succeed and are local succeed alongside. -/
theorem Alongside.ticks {count : Nat}
    (alongside : Alongside program base earlier other alone within)
    (embeds : alone.program.Embeds program base)
    (is_local : ∀ early < count, (ticks early alone).1.isLocal = true)
    (succeeds : (ticks count alone).2 = .ok ()) :
    (ticks count within).2 = .ok () ∧
      Alongside program base earlier other (ticks count alone).1 (ticks count within).1 := by
  induction count generalizing alone within with
  | zero => exact ⟨rfl, alongside⟩
  | succ count induction =>
      cases ticked : alone.tick with
      | mk after result =>
          cases result with
          | error error => simp [Machine.ticks, ticked] at succeeds
          | ok =>
              obtain ⟨next, ticked_within, beside⟩ :=
                alongside.tick embeds (is_local 0 (Nat.zero_lt_succ count)) ticked
              have same_program : after.program = alone.program := by
                simpa [ticked] using alone.tick_evolves.program
              have later (early : Nat) (less : early < count) :
                  (Machine.ticks early after).1.isLocal = true := by
                simpa [Machine.ticks, ticked] using is_local (early + 1) (by omega)
              simp only [Machine.ticks, ticked, ticked_within] at succeeds ⊢
              exact induction beside (same_program ▸ embeds) later succeeds

end Machine

end Gamebook
