import Gamebook.Proofs.Compile.Jumps

/-!
# How long a call takes

In the program of a tame document control goes forward but for jumps, and a call takes two of them
at most.  An answer is taken to the effects of its option, which are left for a label; from a label
on control comes to no further jump, since effects are passed by and the request for a choice at the
end of a state stops the run.  So every call is at most three passes over the program.
-/

namespace Gamebook.Compile

open Machine (Event Evolves Executes History)
open Story (Document Settings)

variable {settings : Settings} {document : Document} {start machine previous : Machine}
  {program : Program} {events : List Event} {instruction : Instruction} {offset : Nat}

/-! ## Where jumps stand -/

/-- Whether an offset follows the request for a choice. -/
def Answering (program : Program) (offset : Nat) : Prop :=
  ∃ asking, offset = asking + 1 ∧ program.get? asking = some (.invoke "getResponse")

/-- An offset from which control comes to no jump unless it is taken there: it is behind the
preamble, not among effects, and not behind the request for a choice. -/
structure Clear (document : Document) (settings : Settings) (program : Program) (offset : Nat) :
    Prop where
  started : (preambleCode settings).length ≤ offset
  outside : ∀ site : Site document, offset < site.entry settings ∨ site.closing settings ≤ offset
  unanswered : ¬ Answering program offset

/-- All labels stand behind the instructions that set the context up. -/
theorem Laid.preamble_le (laid : Laid (script settings document) program) {label : String}
    (labelled : program.label? label = some offset) : (preambleCode settings).length ≤ offset := by
  obtain ⟨before, step, after, shift, split, member, rfl⟩ := (laid.label label offset).mp labelled
  have absent : step ∉ whitespaceWarnings settings ++ preambleSteps settings := by
    intro among
    rcases List.mem_append.mp among with warning | preamble
    · obtain ⟨warning, rfl⟩ := whitespaceWarnings_warns settings step warning
      simp [Step.labels] at member
    · rcases preambleSteps_cases preamble with ⟨_, rfl⟩ | ⟨_, _, rfl⟩ | rfl | rfl <;>
        simp [Step.labels, Step.invoke] at member
  rw [script, List.append_assoc] at split
  obtain ⟨rest, -, rfl⟩ := split_behind split absent
  simp only [codeOf_append, (whitespaceWarnings_warns settings).code, codeOf_preambleSteps,
    List.nil_append, List.length_append]
  omega

/-- A jump stands in the preamble, among effects, or behind the request for a choice. -/
theorem Footing.jump_not_clear (footing : Footing document settings start)
    (jumps : start.program.get? offset = some (.invoke "goto")) :
    ¬ Clear document settings start.program offset := by
  rintro ⟨started, outside, unanswered⟩
  obtain ⟨before, after, split, rfl⟩ := footing.split_of_get? (by simp [transferNatives]) jumps
  rcases jump_split split with
    ⟨front, back, preamble, rfl⟩ | ⟨site, inner, outer, effects, rfl⟩ | ⟨front, rfl⟩
  · rw [← codeOf_preambleSteps, preamble] at started
    simp [(whitespaceWarnings_warns settings).code, Step.code, Step.invoke] at started
  · have inside := outside site
    simp [Site.closing, Site.entry, Site.opening, Site.heading, Site.start, effects, headerSteps,
      Step.code, Step.push, Step.invoke] at inside
    omega
  · refine unanswered ⟨(codeOf front).length, by simp [Step.code, Step.invoke], ?_⟩
    exact footing.get?_of_split front (.invoke "goto" :: after) (by simpa [Step.invoke] using split)

namespace Stage

variable (stage : Stage document settings start)

include stage

/-- A label leads to an offset from which control comes to no jump. -/
theorem label_clear {label : String} (labelled : start.program.label? label = some offset) :
    Clear document settings start.program offset := by
  refine ⟨stage.laid.preamble_le labelled, fun site => ?_, ?_⟩
  · have apart := stage.option_label_outside site labelled
    have bounds := site.stop_eq settings
    simp only [Site.closing, Site.entry, Site.opening, Site.heading] at *
    omega
  · rintro ⟨asking, rfl, request⟩
    obtain ⟨_, -, -, no_label⟩ := stage.before_jump (stage.after_request request)
    exact no_label label labelled

end Stage

/-! ## Jumps that are left -/

/-- Where control is when so many jumps at most are left of a run: with none left it is clear of
them, and with one left it is not behind the request for a choice. -/
def JumpsAtMost (document : Document) (settings : Settings) (program : Program) :
    Nat → Nat → Prop
  | 0, offset => Clear document settings program offset
  | 1, offset => ¬ Answering program offset
  | _ + 2, _ => True

namespace Stage

variable (stage : Stage document settings start)

include stage

section Arrival

variable (sound : Sound document settings start previous) (evolves : Evolves start previous)
  (running : previous.exited = false) (awake : previous.paused = false)
  (here : start.program.get? previous.counter = some instruction)
  (executes : Executes previous instruction machine) (still_running : machine.exited = false)
  (still_awake : machine.paused = false)

include sound evolves running awake here executes still_running still_awake

theorem unanswered_step : ¬ Answering start.program machine.counter := by
  rintro ⟨asking, counter, request⟩
  exact stage.resumed_step sound evolves running awake here executes still_running still_awake
    asking request (stage.after_request request) counter

/-- Going forward, control does not come to the effects of an option. -/
theorem clear_step (clear : Clear document settings start.program previous.counter)
    (ahead : previous.counter < machine.counter) :
    Clear document settings start.program machine.counter := by
  refine ⟨clear.started.trans ahead.le, fun site => ?_, stage.unanswered_step sound evolves running
    awake here executes still_running still_awake⟩
  by_contra inside
  simp only [not_or, not_lt, not_le] at inside
  obtain ⟨name, value, rest, rfl, registered, -⟩ :=
    stage.enters_by_jump sound evolves running awake here executes still_running still_awake site
      (clear.outside site) inside.1 inside.2
  obtain rfl := (stage.registered_iff evolves).mp registered
  exact stage.jump_not_clear here clear

/-- Control goes forward, or there is one jump less to come. -/
theorem jumps_step {jumps : Nat}
    (left : JumpsAtMost document settings start.program jumps previous.counter) :
    (previous.counter < machine.counter ∧
        JumpsAtMost document settings start.program jumps machine.counter) ∨
      ∃ fewer < jumps, JumpsAtMost document settings start.program fewer machine.counter := by
  have unanswered := stage.unanswered_step sound evolves running awake here executes still_running
    still_awake
  rcases (executes.lands still_running still_awake).advances with ahead | jumped
  · refine Or.inl ⟨ahead, ?_⟩
    match jumps, left with
    | 0, clear =>
        exact stage.clear_step sound evolves running awake here executes still_running still_awake
          clear ahead
    | 1, _ => exact unanswered
    | _ + 2, _ => trivial
  · right
    have target := stage.jump_target sound evolves running awake here jumped
    obtain ⟨name, value, rest, rfl, registered, -⟩ := jumped
    obtain rfl := (stage.registered_iff evolves).mp registered
    have not_clear := stage.jump_not_clear here
    rcases target with ⟨label, labelled⟩ | ⟨site, asking, others, -, -, counter, request⟩
    · refine ⟨0, ?_, stage.label_clear labelled⟩
      match jumps, left with
      | 0, clear => exact absurd clear not_clear
      | _ + 1, _ => exact Nat.succ_pos _
    · have answering : Answering start.program previous.counter := ⟨asking, counter, request⟩
      match jumps, left with
      | 0, clear => exact absurd clear not_clear
      | 1, behind => exact absurd answering behind
      | _ + 2, _ => exact ⟨1, by omega, unanswered⟩

end Arrival

end Stage

/-! ## Ticks that are left -/

/-- Whether a machine stops within so many ticks: at most a pass over the program for every jump
that is left, and the way to its end. -/
structure Paced (document : Document) (settings : Settings) (start : Machine) (ticks : Nat)
    (machine : Machine) : Prop where
  evolves : Evolves start machine
  sound : Sound document settings start machine
  left : machine.exited = false → machine.paused = false → ∃ jumps,
    JumpsAtMost document settings start.program jumps machine.counter ∧
      jumps * (start.program.length + 1) + (start.program.length - machine.counter) < ticks

/-- No machine has more than two jumps left. -/
theorem Paced.of_sound (evolves : Evolves start machine)
    (sound : Sound document settings start machine) :
    Paced document settings start (3 * (start.program.length + 1)) machine :=
  ⟨evolves, sound, fun _ _ => ⟨2, trivial, by omega⟩⟩

theorem Stage.paced_tick (stage : Stage document settings start) (ticks : Nat) (machine : Machine)
    (paced : Paced document settings start ticks machine) (running : machine.exited = false)
    (awake : machine.paused = false) :
    ∃ fewer < ticks, Paced document settings start fewer machine.tick.1 := by
  obtain ⟨evolves, sound, left⟩ := paced
  obtain ⟨jumps, few, within⟩ := left running awake
  have evolves_on := evolves.trans machine.tick_evolves
  have sound_on := stage.tick_sound sound evolves running awake
  have stops (stopped : machine.tick.1.exited = true ∨ machine.tick.1.paused = true) :
      Paced document settings start 0 machine.tick.1 := by
    refine ⟨evolves_on, sound_on, fun still_running still_awake => ?_⟩
    simp [still_running, still_awake] at stopped
  rcases Machine.tick_cases running rfl with
    ⟨-, past⟩ | ⟨instruction, here, executes⟩ | ⟨state, -, failed⟩
  · exact ⟨0, by omega, stops (Or.inl (by rw [past]))⟩
  · by_cases stopped : machine.tick.1.exited = true ∨ machine.tick.1.paused = true
    · exact ⟨0, by omega, stops stopped⟩
    · simp only [not_or, Bool.not_eq_true] at stopped
      rw [evolves.program] at here
      have inside : machine.counter < start.program.length := (List.getElem?_eq_some_iff.mp here).1
      refine ⟨_, within, evolves_on, sound_on, fun _ _ => ?_⟩
      rcases stage.jumps_step sound evolves running awake here executes stopped.1 stopped.2 few with
        ⟨ahead, few_on⟩ | ⟨fewer, less, fewer_on⟩
      · exact ⟨jumps, few_on, by omega⟩
      · refine ⟨fewer, fewer_on, ?_⟩
        have pass := Nat.mul_le_mul_right (start.program.length + 1) (Nat.succ_le_of_lt less)
        rw [Nat.succ_mul] at pass
        omega
  · exact ⟨0, by omega, stops (Or.inl (by rw [failed]))⟩

/-- In a tame document a call takes at most three passes over the program.  However a host has
driven a machine from its start, whatever it puts into the context, each further run and each answer
returns within that time, provided that the host has never ticked a machine that was waiting for an
answer.  Offsets are exact in a program of fewer than `2 ^ 53` instructions. -/
theorem calls_return_in_three_passes {compiled : Compiled} {fresh : Machine}
    {values : List (String × Value)} {random : Machine.Random}
    (accepted : compile document = .ok compiled) (tame : document.IsTame)
    (short : compiled.program.length < 2 ^ 53)
    (created : Machine.create compiled.program Registry.quest = .ok fresh)
    (history : History (fun machine operation => operation.Patient machine)
      ({ fresh with random }.withContext values) events machine) :
    machine.ReturnsWithin (3 * (compiled.program.length + 1)) .run ∧
      ∀ id, machine.ReturnsWithin (3 * (compiled.program.length + 1)) (.resume · id) := by
  obtain ⟨settings, read, -⟩ := compile_laid accepted
  have stage := Stage.of_compile accepted tame short read created random values
  have program : ({ fresh with random }.withContext values).program = compiled.program := by
    rw [Machine.create_eq created]
    rfl
  rw [← program]
  have patient (machine : Machine) (operation : Operation)
      (allowed : operation.Patient machine) : operation.Patient machine := allowed
  obtain ⟨evolves, sound⟩ := stage.sound_of_history history patient
  refine ⟨Machine.run_returns stage.paced_tick (history.settled patient stage.settled)
    (.of_sound evolves sound), fun id => Machine.resume_returns stage.paced_tick ?_⟩
  intro choice chosen
  exact .of_sound (evolves.trans (Machine.choose_evolves machine choice))
    (stage.choose_sound sound chosen)

theorem calls_return_in_three_passes_garden :
    let waiting := ((Operation.run 40).perform gardenMachine).1
    waiting.ReturnsWithin 96 .run ∧ waiting.ReturnsWithin 96 (.resume · 0) := by
  have begun : History (fun machine operation => operation.Patient machine)
      ({ gardenMachine with random := .ofSeed 0 }.withContext []) [] _ := .begin
  have history := begun.perform (.run 40) (by simp [Operation.Patient])
  obtain ⟨runs, answers⟩ :=
    calls_return_in_three_passes garden_accepted garden_tame (by decide) garden_created history
  exact ⟨runs, answers 0⟩

/-! ## An impatient host -/

/-- A story whose options leave numbers on the stack.  The offset of the jump behind the request for
a choice is 33, and the option `y` is queued at offset 31. -/
def echo : Document :=
  let loud : Story.Choice :=
    ⟨some "x", none, [], [], [.code "33 33 33 33 33 33 33 33 33 33 33" ⟨0, 0⟩], ⟨0, 0⟩⟩
  let sly : Story.Choice := ⟨some "y", none, [], [], [.code "\"t\" 33 31" ⟨0, 0⟩], ⟨0, 0⟩⟩
  ⟨Table.empty, [⟨"a", [], [loud, sly], ⟨0, 0⟩⟩]⟩

/-- The program of the echo. -/
def echoProgram : Program where
  instructions :=
    [.pushString "x", .invoke "ppc", .pushNumber 4, .invoke "+", .openBlock] ++
      List.replicate 11 (.pushNumber 33) ++
      [.pushString "a__options", .invoke "goto", .closeBlock, .invoke "response", .pushString "y",
        .invoke "ppc", .pushNumber 4, .invoke "+", .openBlock, .pushString "t", .pushNumber 33,
        .pushNumber 31, .pushString "a__options", .invoke "goto", .closeBlock, .invoke "response",
        .invoke "getResponse", .invoke "goto", .invoke "exit"]
  labels := Table.ofList [("a", 0), ("a__options", 0)]
  blocks := [⟨4, 18⟩, ⟨24, 30⟩]
  linked := rfl
  labels_le := by decide

/-- The machine at the start of the echo. -/
def echoMachine : Machine :=
  { program := echoProgram, natives := Registry.quest, stack := [], context := Table.empty
    counter := 0, exited := false, paused := false, queued := [], offered := []
    random := .ofSeed 0, output := [] }

theorem echo_tame : echo.IsTame := by
  have loud : Code.compile "33 33 33 33 33 33 33 33 33 33 33" =
      .ok ⟨List.replicate 11 (.pushNumber 33), Table.empty⟩ := by decide +kernel
  have sly : Code.compile "\"t\" 33 31" =
      .ok ⟨[.pushString "t", .pushNumber 33, .pushNumber 31], Table.empty⟩ := by decide +kernel
  intro content member code found fragment compiled
  simp only [echo, Document.contents, List.flatMap_cons, List.flatMap_nil, List.append_nil,
    List.nil_append, List.cons_append, List.mem_cons, List.not_mem_nil, or_false] at member
  rcases member with rfl | rfl
  · cases found
    cases loud.symm.trans compiled
    exact ⟨.of_braceless (by simp) (by simp), rfl, by simp [controlNatives]⟩
  · cases found
    cases sly.symm.trans compiled
    exact ⟨.of_braceless (by simp) (by simp), rfl, by simp [controlNatives]⟩

/-- A host that leaves many numbers on the stack, and then ticks the machine while it waits. -/
def impatience : List Operation :=
  .run 200 :: List.replicate 10 (.resume 200 0) ++ [.resume 200 1, .tick, .tick, .tick]

/-- A tick of a machine that waits executes the jump without an answer.  In the echo it leads to
where options are queued, the machine comes to offer the jump itself, and the answer that chooses it
takes a jump for every number on the stack: 112 ticks in a program of 35 instructions. -/
theorem impatience_delays_an_answer :
    let driven := (Operation.performAll echoMachine impatience).1
    ∃ compiled, compile echo = .ok compiled ∧ echo.IsTame ∧ compiled.program.length = 35 ∧
      Machine.create compiled.program Registry.quest = .ok echoMachine ∧
        (∃ events, History (fun _ _ => True) (echoMachine.withContext []) events driven) ∧
          ((Operation.resume 200 0).visits driven).length = 112 ∧
            ¬ driven.ReturnsWithin (3 * (compiled.program.length + 1)) (.resume · 0) := by
  intro driven
  have compiles : (compile echo).toOption.map Compiled.program = some echoProgram := by
    decide +kernel
  obtain ⟨compiled, accepted, program⟩ := exists_compiled compiles
  have begun : History (fun _ _ => True) (echoMachine.withContext []) []
      (echoMachine.withContext []) := .begin
  have late : ((Operation.resume 200 0).visits driven).length = 112 := by decide +kernel
  refine ⟨compiled, accepted, echo_tame, by rw [program]; rfl, by rw [program]; rfl,
    begun.performAll (fun _ _ => trivial) impatience, late, fun returns => ?_⟩
  have within := returns.ticks 200
  rw [program] at within
  exact absurd (late.symm.trans_le within) (by decide)

end Gamebook.Compile
