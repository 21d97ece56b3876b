import Gamebook.Proofs.Compile.Chosen
import Gamebook.Proofs.Compile.Stream

/-!
# Jumps of orderly documents

Code that is orderly leaves jumps to the layout of its document.  The layout pushes a label right in
front of a jump, or it jumps to what has just been handed to the program for an answer.  Both always
lead somewhere in the program, whatever code does in between.
-/

namespace Gamebook.Compile

open Machine (Course Event Executes History)
open Story (Document Settings)

variable {settings : Settings} {document : Document} {start machine : Machine}
  {program : Program} {events : List Event}

/-! ## Labels that are jumped to -/

section Labels

variable (laid : Laid (script settings document) program)

include laid

/-- A label that a document asks for stands for an instruction. -/
theorem Laid.requested_label {label : String} {span : Option Text.Span}
    (asked : (label, span) ∈ requested settings document) :
    ∃ offset, program.label? label = some offset ∧ offset < program.length := by
  rw [← referencesOf_outline, ← notesOf_script, referencesOf_notesOf] at asked
  obtain ⟨step, among, refers⟩ := List.mem_filterMap.mp asked
  have in_script : .refer label span ∈ script settings document := by
    cases step with
    | refer => cases refers; exact among
    | _ => cases refers
  obtain ⟨offset, labelled⟩ := laid.refers label span in_script
  exact ⟨offset, labelled, laid.label_lt labelled⟩

/-- The label of the options of a state stands for an instruction. -/
theorem Laid.state_options_label {state : Story.State} (member : state ∈ document.states) :
    ∃ offset, program.label? (optionsLabel state.name) = some offset ∧ offset < program.length := by
  obtain ⟨earlier, later, states⟩ := List.append_of_mem member
  have labelled := laid.options_label ⟨earlier, state, later, states⟩
  exact ⟨_, labelled, laid.label_lt labelled⟩

theorem Laid.targeted_label {label : String} (targeted : Targeted settings document label) :
    ∃ offset, program.label? label = some offset ∧ offset < program.length := by
  rcases targeted with ⟨span, asked⟩ | ⟨state, member, rfl⟩
  · obtain ⟨offset, labelled⟩ := laid.refers label span asked
    exact ⟨offset, labelled, laid.label_lt labelled⟩
  · exact laid.state_options_label member

end Labels

/-! ## Jumps that are executed -/

namespace Footing

variable (footing : Footing document settings start)

include footing

/-- The first instruction of effects is an instruction of the program. -/
theorem entry_lt (site : Site document) : site.entry settings < start.program.length := by
  have bound := (footing.effects_hold site).length_le
  simp only [List.length_append, List.length_cons, List.length_nil] at bound
  omega

/-- Every jump that is executed leads to an instruction: to that of a label that the layout aims at,
or to the first one of the effects for which an answer has just been given. -/
theorem jump_leads_inside (course : Course start events machine) (running : machine.exited = false)
    (awake : machine.paused = false)
    (jumps : start.program.get? machine.counter = some (.invoke "goto")) :
    ∃ value rest offset, machine.stack = value :: rest ∧
      start.program.destination? value = some offset ∧ offset < start.program.length ∧
        ((∃ label pushing, Targeted settings document label ∧ value = .string label ∧
            machine.counter = pushing + 1 ∧
              start.program.get? pushing = some (.pushString label)) ∨
          ∃ asking earlier choice, machine.counter = asking + 1 ∧
            start.program.get? asking = some (.invoke "getResponse") ∧
              events = earlier ++ [.choose choice] ∧ value = .ofOffset choice.offset ∧
                offset = choice.offset) := by
  rcases footing.jump_operand (footing.sound course) running awake jumps with
    ⟨label, pushing, rest, targeted, stack, counter, pushes⟩ |
      ⟨-, asking, -, -, counter, request⟩
  · obtain ⟨offset, labelled, inside⟩ := footing.laid.targeted_label targeted
    exact ⟨_, rest, offset, stack, labelled, inside,
      Or.inl ⟨label, pushing, targeted, rfl, counter, pushes⟩⟩
  · obtain ⟨earlier, choice, rest, split, ⟨site, entry⟩, stack⟩ :=
      footing.answered course running awake request (counter ▸ jumps) counter
    refine ⟨_, rest, choice.offset, stack, ?_, ?_,
      Or.inr ⟨asking, earlier, choice, counter, request, split, rfl, rfl⟩⟩
    · rw [entry]
      exact footing.destination?_entry site
    · rw [entry]
      exact footing.entry_lt site

end Footing

/-- Jumps never fail in an orderly document.  The labels that its layout asks for and those of the
options of its states stand for instructions.  While the host runs the story and answers, whatever
values and seed it has set at first, every jump that is executed succeeds and leads to an
instruction.  Either it takes one of these labels from the stack, which the instruction in front of
it has pushed, or it stands behind the request for a choice, nothing has been executed since the host
gave an answer, and the jump takes the number that has been pushed for it. -/
theorem jumps_never_fail {compiled : Compiled} {fresh : Machine} {values : List (String × Value)}
    {random : Machine.Random} (accepted : compile document = .ok compiled)
    (orderly : document.IsOrderly) (short : compiled.program.length < 2 ^ 53)
    (read : Settings.ofTable document.settings = .ok settings)
    (created : Machine.create compiled.program Registry.quest = .ok fresh)
    (history : History (fun _ operation => operation.Plays)
      ({ fresh with random }.withContext values) events machine) :
    (∀ label span, (label, span) ∈ requested settings document → ∃ offset,
      compiled.program.label? label = some offset ∧ offset < compiled.program.length) ∧
      (∀ state ∈ document.states, ∃ offset,
        compiled.program.label? (optionsLabel state.name) = some offset ∧
          offset < compiled.program.length) ∧
      ∀ (operation : Operation) (before after : List Machine) (visited : Machine),
        operation.Plays → operation.visits machine = before ++ visited :: after →
          compiled.program.get? visited.counter = some (.invoke "goto") →
            ∃ value rest offset, visited.stack = value :: rest ∧
              visited.tick = ({ visited with stack := rest, counter := offset }, .ok ()) ∧
              offset < compiled.program.length ∧
              ((∃ label pushing, Targeted settings document label ∧ value = .string label ∧
                  compiled.program.label? label = some offset ∧ visited.counter = pushing + 1 ∧
                    compiled.program.get? pushing = some (.pushString label)) ∨
                ∃ asking, visited.counter = asking + 1 ∧
                  compiled.program.get? asking = some (.invoke "getResponse") ∧ before = [] ∧
                    ∃ earlier choice,
                      events ++ (operation.chosen? machine).toList.map .choose =
                          earlier ++ [.choose choice] ∧
                        value = .ofOffset choice.offset ∧ offset = choice.offset) := by
  have footing := Footing.of_compile accepted orderly short read created random values
  have program : ({ fresh with random }.withContext values).program = compiled.program := by
    rw [Machine.create_eq created]
    rfl
  rw [← program]
  refine ⟨fun label span asked => footing.laid.requested_label asked,
    fun state member => footing.laid.state_options_label member, ?_⟩
  intro operation before after visited plays split jumps
  have settled := footing.settled
  have course := history.course settled
  obtain ⟨reached, running, awake⟩ := course.of_visits (course.settled settled) plays split
  obtain ⟨value, rest, offset, top, leads, inside, kind⟩ :=
    footing.jump_leads_inside reached running awake jumps
  have evolves := reached.evolves
  have here : visited.program.get? visited.counter = some (.invoke "goto") :=
    evolves.program ▸ jumps
  have executes : Executes visited (.invoke "goto")
      { visited with stack := rest, counter := offset } :=
    .goto ((footing.registered_iff evolves).mpr rfl) top (evolves.program ▸ leads)
  refine ⟨value, rest, offset, top, (Machine.tick_eq_ok_iff running here).mpr executes, inside, ?_⟩
  rcases kind with ⟨label, pushing, targeted, rfl, counter, pushes⟩ |
    ⟨asking, earlier, choice, counter, request, since, pushed, same⟩
  · exact Or.inl ⟨label, pushing, targeted, rfl, leads, counter, pushes⟩
  · refine Or.inr ⟨asking, counter, request, ?_⟩
    rcases List.eq_nil_or_concat before with rfl | ⟨front, last, rfl⟩
    · exact ⟨rfl, earlier, choice, by simpa using since, pushed, same⟩
    · rw [List.concat_eq_append, List.map_append, ← List.append_assoc] at since
      obtain ⟨-, ends⟩ := List.append_inj' since rfl
      cases ends

/-! ## A cellar with a spot -/

/-- The program of the cellar whose option has a label. -/
def spotProgram : Program where
  instructions :=
    [.pushString "leave", .invoke "ppc", .pushNumber 4, .invoke "+", .openBlock, .pushNumber 1,
      .pushString "cellar__options", .invoke "goto", .closeBlock, .invoke "response",
      .invoke "getResponse", .invoke "goto", .invoke "exit"]
  labels := Table.ofList [("cellar", 0), ("cellar__options", 0), ("spot", 6)]
  blocks := [⟨4, 8⟩]
  linked := rfl
  labels_le := by decide

/-- The machine at the start of that cellar. -/
def spotMachine : Machine :=
  { program := spotProgram, natives := Registry.quest, stack := [], context := Table.empty
    counter := 0, exited := false, paused := false, queued := [], offered := []
    random := .ofSeed 0, output := [] }

theorem exists_compiled
    (compiles : (compile document).toOption.map Compiled.program = some program) :
    ∃ compiled, compile document = .ok compiled ∧ compiled.program = program := by
  cases accepted : compile document with
  | error error => simp [accepted, Except.toOption] at compiles
  | ok compiled => exact ⟨compiled, rfl, by simpa [accepted, Except.toOption] using compiles⟩

theorem spot_orderly : (cellar spotCode).IsOrderly := by
  intro content member code found fragment compiled
  obtain rfl := List.mem_singleton.mp member
  cases found
  have compiles : Code.compile spotCode =
      .ok ⟨[.pushNumber 1], ⟨[("spot", 1)], by simp⟩⟩ := by decide +kernel
  cases compiles.symm.trans compiled
  exact ⟨.of_braceless (by simp) (by simp), by simp [transferNatives]⟩

theorem jumps_never_fail_cellar :
    let waiting := ((Operation.run 40).perform spotMachine).1
    ∃ before visited after, (Operation.resume 40 0).visits waiting = before ++ visited :: after ∧
      visited.counter = 7 ∧ ∃ rest offset,
        visited.tick = ({ visited with stack := rest, counter := offset }, .ok ()) ∧
          offset < 13 := by
  intro waiting
  have compiles : (compile (cellar spotCode)).toOption.map Compiled.program =
      some spotProgram := by
    decide +kernel
  obtain ⟨compiled, accepted, program⟩ := exists_compiled compiles
  have created : Machine.create compiled.program Registry.quest = .ok spotMachine := by
    rw [program]
    rfl
  have begun : History (fun _ operation => operation.Plays)
      ({ spotMachine with random := .ofSeed 0 }.withContext []) [] _ := .begin
  have history := begun.perform (.run 40) trivial
  obtain ⟨-, -, succeed⟩ :=
    jumps_never_fail accepted spot_orderly (by rw [program]; decide) rfl created history
  have executed : ∃ visited ∈ (Operation.resume 40 0).visits waiting, visited.counter = 7 := by
    decide +kernel
  obtain ⟨visited, among, counter⟩ := executed
  obtain ⟨before, after, split⟩ := List.append_of_mem among
  obtain ⟨-, rest, offset, -, ticks, inside, -⟩ := succeed (.resume 40 0) before after visited
    trivial split (by rw [program, counter]; rfl)
  rw [program] at inside
  exact ⟨before, visited, after, split, counter, rest, offset, ticks, inside⟩

end Gamebook.Compile
