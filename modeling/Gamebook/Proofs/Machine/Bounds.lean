import Gamebook.Proofs.Machine.History
import Gamebook.Proofs.Machine.Offset

/-!
# The bounds of the counter

However a host drives a machine, its counter stays within the program or right behind it.  Labels
and blocks lie inside by the linking of the program, and a jump to a number asks whether the number
is the offset of an instruction; so it does not matter how large a number an option has been queued
with.
-/

namespace Gamebook

variable {program : Program} {machine after : Machine}

theorem Program.get?_length (program : Program) : program.get? program.length = none := by
  rw [get?, length, List.getElem?_eq_none_iff]

theorem Program.lt_length {offset : Nat} {instruction : Instruction}
    (here : program.get? offset = some instruction) : offset < program.length :=
  (List.getElem?_eq_some_iff.mp here).1

theorem Program.destination?_le {value : Value} {offset : Nat}
    (leads : program.destination? value = some offset) : offset ≤ program.length := by
  cases value with
  | string label => exact program.labels_le _ (Table.get?_eq_some_iff.mp leads)
  | number value =>
      rw [destination?, Option.filter_eq_some_iff] at leads
      simpa using leads.2

/-- The number that an offset became leads to that offset in a program that reaches so far, and
nowhere otherwise. -/
theorem Program.destination?_ofOffset (short : program.length < 2 ^ 53) {offset : Nat}
    (bounded : offset < 2 ^ 64) :
    program.destination? (.ofOffset offset) =
      if offset ≤ program.length then some offset else none := by
  rw [Value.ofOffset, destination?]
  by_cases exact : offset < 2 ^ 53
  · simp [Machine.natural?_toFloat exact, Option.filter]
  · rw [if_neg (by omega)]
    refine Option.filter_eq_none_iff.mpr fun read whole => ?_
    have := Machine.le_of_natural?_toFloat (by omega) bounded whole
    simp only [decide_eq_true_eq]
    omega

namespace Machine

theorem natural?_lt {value : Float} {offset : Nat} (whole : natural? value = some offset) :
    offset < 2 ^ 64 := by
  rw [natural?] at whole
  split at whole
  · split at whole
    · obtain rfl := Option.some.inj whole
      exact value.toUInt64.toNat_lt
    · cases whole
  · cases whole

/-- The counter is within the program or right behind it, and the options that are queued or on
offer have offsets of machine size. -/
structure Contained (machine : Machine) : Prop where
  counter : machine.counter ≤ machine.program.length
  queued : ∀ choice ∈ machine.queued, choice.offset < 2 ^ 64
  offered : ∀ choice ∈ machine.offered, choice.offset < 2 ^ 64

namespace Contained

theorem create {natives : Registry} (created : create program natives = .ok machine) :
    Contained machine := by
  rw [create_eq created]
  exact ⟨Nat.zero_le _, by simp, by simp⟩

theorem of_framed (contained : Contained machine) (framed : Framed machine after) {counter : Nat}
    (inside : counter ≤ machine.program.length) : Contained { after with counter } :=
  ⟨framed.program ▸ inside, framed.queued ▸ contained.queued, framed.offered ▸ contained.offered⟩

theorem executes {instruction : Instruction} (contained : Contained machine)
    (here : machine.program.get? machine.counter = some instruction)
    (executes : Executes machine instruction after) : Contained after := by
  have next : machine.counter + 1 ≤ machine.program.length := Program.lt_length here
  have behind {opening closing : Nat} (found : machine.program.blockEnd? opening = some closing) :
      opening + 1 ≤ machine.program.length ∧ closing + 1 ≤ machine.program.length :=
    ⟨Program.lt_length (Program.blockEnd?_braces found).1,
      Program.lt_length (Program.blockEnd?_braces found).2.1⟩
  cases executes with
  | pushNumber | pushString | close | exit | finish =>
      exact ⟨next, contained.queued, contained.offered⟩
  | skip found => exact ⟨(behind found).2, contained.queued, contained.offered⟩
  | compute registered plain ran =>
      have framed := (Call.run_keeps _ (Native.isTame_of_isPlain plain)).of_ok ran
      exact contained.of_framed framed next
  | branch registered tests top found =>
      refine ⟨?_, contained.queued, contained.offered⟩
      have := behind found
      dsimp only
      split <;> omega
  | goto registered top leads =>
      exact ⟨Program.destination?_le leads, contained.queued, contained.offered⟩
  | respond registered top whole =>
      refine ⟨next, fun choice member => ?_, contained.offered⟩
      rcases List.mem_append.mp member with earlier | last
      · exact contained.queued choice earlier
      · obtain rfl := List.mem_singleton.mp last
        exact natural?_lt whole
  | offer => exact ⟨next, by simp, contained.queued⟩

theorem tick (contained : Contained machine) (running : machine.exited = false) :
    Contained machine.tick.1 := by
  rcases tick_cases running rfl with
    ⟨-, ended⟩ | ⟨instruction, here, executes⟩ | ⟨state, framed, failed⟩
  · rw [ended]
    exact ⟨contained.counter, contained.queued, contained.offered⟩
  · exact contained.executes here executes
  · rw [failed]
    have same := contained.of_framed framed contained.counter
    exact ⟨framed.counter ▸ same.counter, same.queued, same.offered⟩

theorem perform (contained : Contained machine) (operation : Operation) :
    Contained (operation.perform machine).1 := by
  apply perform_preserves Contained _ _ _ _ _ operation contained
  · exact fun machine => Contained.tick
  · exact fun machine contained _ => ⟨contained.counter, contained.queued, contained.offered⟩
  · exact fun machine id choice contained _ =>
      ⟨contained.counter, contained.queued, by simp [choose]⟩
  · exact fun machine contained => ⟨contained.counter, by simp [terminate], by simp [terminate]⟩
  · exact fun machine values contained => ⟨contained.counter, contained.queued, contained.offered⟩

end Contained

/-! ## Branches and jumps -/

/-- A branch that goes well enters the block that follows, or leaves it behind. -/
theorem Executes.of_branch {name : String} {native : Native} {enters : Float → Bool}
    (executes : Executes machine (.invoke name) after)
    (registered : machine.natives.get? name = some native) (tests : native.test? = some enters) :
    ∃ value rest closing, machine.stack = .number value :: rest ∧
      machine.program.blockEnd? (machine.counter + 1) = some closing ∧
        after =
          { machine with
            stack := rest
            counter := if enters value then machine.counter + 2 else closing + 1 } := by
  have only {other : Native} (again : machine.natives.get? name = some other) : other = native :=
    Option.some.inj (again.symm.trans registered)
  cases executes with
  | @compute _ other state again plain ran =>
      obtain rfl := only again
      cases other <;> first | cases tests; done | exact absurd plain (by decide)
  | @branch _ other others value rest closing again other_tests top found =>
      obtain rfl := only again
      obtain rfl := Option.some.inj (other_tests.symm.trans tests)
      exact ⟨value, rest, closing, top, found, rfl⟩
  | goto again | exit again | respond again | offer again | finish again =>
      obtain rfl := only again
      cases tests

private theorem goto_astray {call : Call} {value : Float} {rest : List Value}
    (top : machine.stack = .number value :: rest)
    (astray : machine.program.destination? (.number value) = none) :
    call.goto machine = .error (.outOfRange call.name value) { machine with stack := rest } := by
  rw [Program.destination?, Option.filter_eq_none_iff] at astray
  refine Action.bind_eq_error_iff.mpr
    (Or.inr ⟨.number value, { machine with stack := rest }, by rw [Call.pop_apply, top], ?_⟩)
  refine Action.bind_eq_error_iff.mpr (Or.inr ⟨_, _, rfl, ?_⟩)
  cases whole : natural? value with
  | none => rfl
  | some offset =>
      have beyond : ¬offset ≤ machine.program.length := by simpa using astray offset whole
      simp only [if_neg beyond]
      rfl

/-- A jump to a number goes to the offset that the number is, or fails with the number. -/
theorem tick_goto_number {name : String} {value : Float} {rest : List Value}
    (running : machine.exited = false)
    (here : machine.program.get? machine.counter = some (.invoke name))
    (registered : machine.natives.get? name = some .goto)
    (top : machine.stack = .number value :: rest) :
    machine.tick =
      match machine.program.destination? (.number value) with
      | some offset => ({ machine with stack := rest, counter := offset }, .ok ())
      | none =>
        ({ machine with stack := rest, exited := true }, .error (.outOfRange name value)) := by
  cases leads : machine.program.destination? (.number value) with
  | some offset => exact (tick_eq_ok_iff running here).mpr (.goto registered top leads)
  | none =>
      have failed : Call.run ⟨name, machine.counter⟩ .goto machine =
          .error (.outOfRange name value) { machine with stack := rest } :=
        Action.bind_eq_error_iff.mpr (Or.inl (goto_astray top leads))
      rw [tick_running running here, execute_invoke registered, failed]

/-- A jump to the number of an option goes to the offset of the option, or fails with the nearest
number. -/
theorem tick_goto_offset {name : String} {offset : Nat} {rest : List Value}
    (short : machine.program.length < 2 ^ 53) (bounded : offset < 2 ^ 64)
    (running : machine.exited = false)
    (here : machine.program.get? machine.counter = some (.invoke name))
    (registered : machine.natives.get? name = some .goto)
    (top : machine.stack = .ofOffset offset :: rest) :
    machine.tick =
      if offset ≤ machine.program.length then
        ({ machine with stack := rest, counter := offset }, .ok ())
      else
        ({ machine with stack := rest, exited := true },
          .error (.outOfRange name offset.toUInt64.toFloat)) := by
  have leads := Program.destination?_ofOffset short bounded
  rw [Value.ofOffset] at leads top
  rw [tick_goto_number running here registered top, leads]
  by_cases reached : offset ≤ machine.program.length
  · simp only [if_pos reached]
  · simp only [if_neg reached]

/-- A tick that performs one of the branches of stories enters the block that follows, or leaves it
behind. -/
theorem tick_branch {name : String} (branch : name = "jz" ∨ name = "jgz")
    (natives : machine.natives = Registry.quest) (running : machine.exited = false)
    (here : machine.program.get? machine.counter = some (.invoke name))
    (ticked : machine.tick = (after, .ok ())) :
    ∃ closing target, machine.program.blockEnd? (machine.counter + 1) = some closing ∧
      (target = machine.counter + 2 ∨ target = closing + 1) ∧
        after = { machine with stack := machine.stack.tail, counter := target } := by
  have tests : ∃ native enters, machine.natives.get? name = some native ∧
      native.test? = some enters := by
    rcases branch with rfl | rfl
    · exact ⟨.enterIfZero, _, natives ▸ Registry.quest_get?_iff.mpr rfl, rfl⟩
    · exact ⟨.enterIfPositive, _, natives ▸ Registry.quest_get?_iff.mpr rfl, rfl⟩
  obtain ⟨native, enters, registered, tests⟩ := tests
  obtain ⟨value, rest, closing, top, found, rfl⟩ :=
    ((tick_eq_ok_iff running here).mp ticked).of_branch registered tests
  refine ⟨closing, _, found, ?_, by rw [top, List.tail_cons]⟩
  split
  · exact Or.inl rfl
  · exact Or.inr rfl

/-! ## Every history -/

/-- However a host drives a machine with the natives of stories, and whether or not it ticks the
machine while it waits, the counter stays within the program or right behind it.  From there a tick
ends the run and changes nothing else.  A block that is reached in sequence is left behind, and a
branch that goes well enters the block in front of it or leaves it behind.  A jump to a number goes
to an offset within the program or right behind it, or fails and leaves the counter where it is; the
number of an option, however large the offset of the option, leads to this offset or fails. -/
theorem counter_stays_inside {program : Program} {fresh machine : Machine} {events : List Event}
    (short : program.length < 2 ^ 53) (created : create program Registry.quest = .ok fresh)
    (random : Random)
    (history : History (fun _ _ => True) { fresh with random } events machine) :
    machine.counter ≤ program.length ∧
      (machine.counter = program.length →
        machine.tick = ({ machine with exited := true }, .ok ())) ∧
      (machine.exited = false → program.get? machine.counter = some .openBlock →
        ∃ closing, program.blockEnd? machine.counter = some closing ∧
          machine.tick = ({ machine with counter := closing + 1 }, .ok ())) ∧
      (∀ name after, name = "jz" ∨ name = "jgz" → machine.exited = false →
        program.get? machine.counter = some (.invoke name) → machine.tick = (after, .ok ()) →
          ∃ closing target, program.blockEnd? (machine.counter + 1) = some closing ∧
            (target = machine.counter + 2 ∨ target = closing + 1) ∧
              after = { machine with stack := machine.stack.tail, counter := target }) ∧
      (∀ value rest, machine.exited = false →
        program.get? machine.counter = some (.invoke "goto") →
          machine.stack = .number value :: rest →
            (∃ offset ≤ program.length,
              machine.tick = ({ machine with stack := rest, counter := offset }, .ok ())) ∨
            machine.tick =
              ({ machine with stack := rest, exited := true },
                .error (.outOfRange "goto" value))) ∧
      ∀ choice ∈ machine.queued ++ machine.offered, ∀ (later : Machine) (rest : List Value),
        later.program = program → later.natives = Registry.quest → later.exited = false →
          program.get? later.counter = some (.invoke "goto") →
            later.stack = .ofOffset choice.offset :: rest →
              later.tick =
                if choice.offset ≤ program.length then
                  ({ later with stack := rest, counter := choice.offset }, .ok ())
                else
                  ({ later with stack := rest, exited := true },
                    .error (.outOfRange "goto" choice.offset.toUInt64.toFloat)) := by
  have contained : Contained machine := by
    induction history with
    | begin =>
        have start := Contained.create created
        exact ⟨start.counter, start.queued, start.offered⟩
    | perform history operation allowed induction => exact induction.perform operation
  have evolves := history.evolves
  rw [create_eq created] at evolves
  obtain rfl : machine.program = program := evolves.program
  have natives : machine.natives = Registry.quest := evolves.natives
  have goto_registered : Registry.quest.get? "goto" = some .goto :=
    Registry.quest_get?_iff.mpr rfl
  refine ⟨contained.counter, fun behind => ?_, fun running opens => ?_,
    fun name after branch running here ticked => tick_branch branch natives running here ticked,
    fun value rest running here top => ?_,
    fun choice member later rest same same_natives running here top => ?_⟩
  · cases exited : machine.exited with
    | true =>
        rw [tick_exited exited, ← exited]
    | false =>
        refine tick_past exited ?_
        rw [behind, Program.get?_length]
  · obtain ⟨closing, found⟩ := Program.exists_blockEnd? opens
    exact ⟨closing, found, (tick_eq_ok_iff running opens).mpr (.skip found)⟩
  · rw [tick_goto_number running here (natives ▸ goto_registered) top]
    cases leads : machine.program.destination? (.number value) with
    | some offset => exact Or.inl ⟨offset, Program.destination?_le leads, rfl⟩
    | none => exact Or.inr rfl
  · have bounded : choice.offset < 2 ^ 64 :=
      (List.mem_append.mp member).elim (contained.queued choice) (contained.offered choice)
    rw [← same] at here short ⊢
    exact tick_goto_offset short bounded running here (same_natives ▸ goto_registered) top

/-- A program that queues an option with a number that no offset is, and jumps to the number with
which the option is answered. -/
private def strayProgram : Program where
  instructions :=
    [.pushString "t", .pushNumber 1e300, .invoke "response", .invoke "getResponse", .invoke "goto"]
  labels := Table.empty
  blocks := []
  linked := rfl
  labels_le := by simp [Table.empty]

/-- The machine at the start of the program. -/
private def strayMachine : Machine :=
  { program := strayProgram, natives := Registry.quest, stack := [], context := Table.empty
    counter := 0, exited := false, paused := false, queued := [], offered := []
    random := .ofSeed 0, output := [] }

theorem counter_stays_inside_stray :
    let waiting := ((Operation.run 8).perform strayMachine).1
    let answered := ((Operation.resume 0 0).perform waiting).1
    create strayProgram Registry.quest = .ok strayMachine ∧ strayProgram.length < 2 ^ 53 ∧
      answered.counter ≤ strayProgram.length ∧
        answered.tick =
          ({ answered with stack := [], exited := true },
            .error (.outOfRange "goto" 18446744073709551616)) := by
  have created : create strayProgram Registry.quest = .ok strayMachine := rfl
  have short : strayProgram.length < 2 ^ 53 := by decide
  have begun : History (fun _ _ => True) { strayMachine with random := .ofSeed 0 } []
      strayMachine := .begin
  have waits := begun.perform (.run 8) trivial
  have answers := waits.perform (.resume 0 0) trivial
  obtain ⟨-, -, -, -, -, jumps⟩ := counter_stays_inside short created (.ofSeed 0) waits
  obtain ⟨inside, -⟩ := counter_stays_inside short created (.ofSeed 0) answers
  have strays := jumps ⟨"t", 18446744073709551615⟩ (by decide +kernel) _ []
    answers.evolves.program answers.evolves.natives (by decide +kernel) (by decide +kernel)
    (by decide +kernel)
  have nearest : (18446744073709551615 : Nat).toUInt64.toFloat = 18446744073709551616 := by
    decide +kernel
  rw [if_neg (by decide), nearest] at strays
  exact ⟨created, short, inside, strays⟩

end Machine

end Gamebook
