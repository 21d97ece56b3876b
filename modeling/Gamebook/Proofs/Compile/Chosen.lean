import Gamebook.Proofs.Compile.Control

/-!
# Effects of options that were not chosen

In the program of a document with tame code the effects of an option stand in the midst of its
state.  They are executed only after an answer that chose the option, from their first instruction
on: whatever happens before that passes them by.
-/

namespace Gamebook.Compile

open Machine (Course Event Evolves Executes History Lands)
open Story (Document Settings)

variable {settings : Settings} {document : Document} {start machine previous : Machine}
  {events : List Event} {instruction : Instruction} {offset : Nat}

/-- What comes before the execution of an instruction is a course of its own. -/
theorem course_before_execute {before after : List Event} (course : Course start events machine)
    (split : events = before ++ .execute offset :: after) :
    ∃ visited, Course start before visited ∧ visited.exited = false ∧ visited.paused = false ∧
      visited.counter = offset := by
  induction course generalizing after with
  | begin => simp at split
  | @execute earlier previous course running awake induction =>
      rcases append_singleton_eq_append_cons split with ⟨rest, inside, -⟩ | ⟨same, rfl, -⟩
      · exact induction inside
      · exact ⟨previous, course, running, awake, Event.execute.inj same⟩
  | choose course chosen induction =>
      rcases append_singleton_eq_append_cons split with ⟨rest, inside, -⟩ | ⟨same, -, -⟩
      · exact induction inside
      · cases same

/-- At an offset within its effects, an option has been chosen, and since the answer was handed to
the program nothing but its effects has been executed, from the first instruction on. -/
def Entered (site : Site document) (settings : Settings) (events : List Event) (offset : Nat) :
    Prop :=
  ∃ earlier choice answer trail,
    events = earlier ++ .choose choice :: .execute answer :: trail.map .execute ∧
      choice.offset = site.entry settings ∧
        (trail ++ [offset]).head? = some (site.entry settings) ∧
          ∀ visited ∈ trail, site.entry settings ≤ visited ∧ visited < site.closing settings

/-- At a jump behind the request for a choice the last thing that has happened is an answer. -/
theorem Footing.answered (footing : Footing document settings start)
    (course : Course start events machine) (running : machine.exited = false)
    (awake : machine.paused = false)
    (request : start.program.get? offset = some (.invoke "getResponse"))
    (jumps : start.program.get? (offset + 1) = some (.invoke "goto"))
    (counter : machine.counter = offset + 1) :
    ∃ earlier choice rest, events = earlier ++ [.choose choice] ∧
      (∃ site : Site document, choice.offset = site.entry settings) ∧
        machine.stack = .ofOffset choice.offset :: rest := by
  rcases course.arrival running awake with
    ⟨-, rfl⟩ |
      ⟨earlier, previous, instruction, before, was_running, was_awake, rfl, here, executes⟩ |
      ⟨earlier, previous, id, choice, before, chosen, rfl, rfl⟩
  · rw [footing.counter] at counter
    omega
  · rw [before.evolves.program] at here
    exact absurd counter (footing.resumed_step (footing.sound before) before.evolves was_running
      was_awake here executes running awake offset request jumps)
  · obtain ⟨-, -, on_offer⟩ := Machine.chosen?_eq_some_iff.mp chosen
    exact ⟨earlier, choice, previous.stack, rfl,
      (footing.sound before).options choice (Or.inr (List.mem_of_getElem? on_offer)), rfl⟩

namespace Stage

variable (stage : Stage document settings start) (site : Site document)

include stage

/-- No choice is asked for within the effects of an option. -/
theorem no_request_inside (after : site.entry settings ≤ offset + 1)
    (before : offset + 1 < site.closing settings) :
    start.program.get? offset ≠ some (.invoke "getResponse") := by
  intro request
  have outside := stage.request_outside site request
  have bounds := site.stop_eq settings
  simp only [Site.closing, Site.entry, Site.opening, Site.heading] at *
  omega

section Entering

variable (course : Course start events previous) (running : previous.exited = false)
  (awake : previous.paused = false)
  (here : start.program.get? previous.counter = some instruction)
  (executes : Executes previous instruction machine) (still_running : machine.exited = false)
  (still_awake : machine.paused = false)

include course running awake here executes still_running still_awake

/-- From outside control comes into the effects of an option by an answer only. -/
theorem enters (outside : previous.counter < site.entry settings ∨
      site.closing settings ≤ previous.counter)
    (after : site.entry settings ≤ machine.counter)
    (before : machine.counter < site.closing settings) :
    ∃ earlier choice, events = earlier ++ [.choose choice] ∧
      choice.offset = site.entry settings ∧ machine.counter = site.entry settings := by
  have sound := stage.sound course
  have evolves := course.evolves
  have jumps := stage.enters_by_jump sound evolves running awake here executes still_running
    still_awake site outside after before
  rcases stage.jump_target sound evolves running awake here jumps with
    ⟨label, labelled⟩ | ⟨other, asking, rest, entry, top, counter, request⟩
  · have apart := stage.option_label_outside site labelled
    have bounds := site.stop_eq settings
    simp only [Site.closing, Site.entry, Site.opening, Site.heading] at *
    omega
  · obtain ⟨earlier, choice, others, split, ⟨chosen, chosen_entry⟩, stack⟩ :=
      stage.answered course running awake request (stage.after_request request) counter
    have same_value : Value.ofOffset machine.counter = .ofOffset choice.offset :=
      (List.cons.inj (top.symm.trans stack)).1
    have leads := stage.destination?_entry other
    rw [← entry, same_value, chosen_entry, stage.destination?_entry chosen] at leads
    have same_entry := Option.some.inj leads
    obtain rfl : chosen = site :=
      Site.eq_of_entry (show site.entry settings ≤ chosen.entry settings by omega) (by omega)
    exact ⟨earlier, choice, split, chosen_entry, same_entry.symm⟩

end Entering

/-- At an offset within the effects of an option, the option has been chosen, and its effects have
been entered at their first instruction. -/
theorem entered (course : Course start events machine) (running : machine.exited = false)
    (awake : machine.paused = false) (after : site.entry settings ≤ machine.counter)
    (before : machine.counter < site.closing settings) :
    Entered site settings events machine.counter := by
  induction course with
  | begin =>
      rw [stage.counter] at after
      simp [Site.entry] at after
  | @execute events previous course was_running was_awake induction =>
      rcases Machine.tick_cases was_running rfl with
        ⟨-, past⟩ | ⟨instruction, here, executes⟩ | ⟨state, -, failed⟩
      · simp [past] at running
      · rw [course.evolves.program] at here
        by_cases inside : site.entry settings ≤ previous.counter ∧
            previous.counter < site.closing settings
        · obtain ⟨earlier, choice, answer, trail, split, chosen, first, within⟩ :=
            induction was_running was_awake inside.1 inside.2
          refine ⟨earlier, choice, answer, trail ++ [previous.counter], by simp [split], chosen, ?_,
            fun visited member => ?_⟩
          · simpa using first
          · rcases List.mem_append.mp member with member | same
            · exact within visited member
            · rwa [List.mem_singleton.mp same]
        · obtain ⟨earlier, choice, split, chosen, counter⟩ := stage.enters site course was_running
            was_awake here executes running awake (by omega) after before
          exact ⟨earlier, choice, previous.counter, [], by simp [split], chosen, by simp [counter],
            by simp⟩
      · simp [failed] at running
  | @choose events previous id choice course chosen induction =>
      obtain ⟨-, waiting, -⟩ := Machine.chosen?_eq_some_iff.mp chosen
      obtain ⟨asking, counter, request⟩ := stage.paused_counter course waiting
      have reached : (previous.choose choice).counter = asking + 1 := counter
      rw [reached] at after before
      exact absurd request (stage.no_request_inside site after before)

end Stage

/-- The effects of an option are a block of the program, and no instruction of it is executed unless
the option has been chosen by the last answer and its effects have been entered at their first
instruction since.  The host may set any values at first, and any random numbers; after that it runs the story
and answers.  Offsets are numbers, and in a program of fewer than `2 ^ 53` instructions all of them
are exact. -/
theorem effects_only_when_chosen {compiled : Compiled} {fresh : Machine}
    {values : List (String × Value)} {random : Machine.Random}
    (accepted : compile document = .ok compiled) (tame : document.IsTame)
    (short : compiled.program.length < 2 ^ 53)
    (read : Settings.ofTable document.settings = .ok settings)
    (created : Machine.create compiled.program Registry.quest = .ok fresh)
    (history : History (fun _ operation => operation.Plays)
      ({ fresh with random }.withContext values) events machine) (site : Site document) :
    compiled.program.blockEnd? (site.opening settings) = some (site.closing settings) ∧
      compiled.program.Holds (site.entry settings) (codeOf (site.effects settings)) ∧
        ∀ before offset after, events = before ++ .execute offset :: after →
          site.opening settings < offset → offset < site.closing settings →
            ∃ (earlier : List Event) (choice : PendingChoice) (answer : Nat) (trail : List Nat),
              before ++ [.execute offset] =
                  earlier ++ .choose choice :: .execute answer :: trail.map .execute ∧
                choice.offset = site.entry settings ∧
                  trail.head? = some (site.entry settings) ∧
                    ∀ visited ∈ trail,
                      site.opening settings < visited ∧ visited < site.closing settings := by
  have stage := Stage.of_compile accepted tame short read created random values
  have program : ({ fresh with random }.withContext values).program = compiled.program := by
    rw [Machine.create_eq created]
    rfl
  refine ⟨program ▸ stage.effects_block site, program ▸ (stage.effects_hold site).left, ?_⟩
  intro before offset after executed opened not_closed
  obtain ⟨visited, course, running, awake, rfl⟩ :=
    course_before_execute (history.course stage.settled) executed
  obtain ⟨earlier, choice, answer, trail, split, chosen, first, within⟩ :=
    stage.entered site course running awake opened not_closed
  refine ⟨earlier, choice, answer, trail ++ [visited.counter], by simp [split], chosen, first, ?_⟩
  intro other member
  rcases List.mem_append.mp member with member | same
  · exact within other member
  · exact List.mem_singleton.mp same ▸ ⟨opened, not_closed⟩

/-! ## A garden -/

/-- An option that disappears, and one that does not. -/
def gardenChoices : List Story.Choice :=
  [⟨some "look", none, [Story.onceDirective], [],
      [.text ⟨"Roses.", "Roses.", .plain, true, ⟨0, 0⟩⟩], ⟨0, 0⟩⟩,
    ⟨some "wait", none, [], [], [], ⟨0, 0⟩⟩]

/-- A story of one state, whose options lead back to it. -/
def garden : Document :=
  ⟨Table.empty, [⟨"garden", [], gardenChoices, ⟨0, 0⟩⟩]⟩

/-- The program of the garden. -/
def gardenProgram : Program where
  instructions :=
    [.pushString "__once__0", .invoke "hasContext", .invoke "jz", .openBlock, .pushString "look",
      .invoke "ppc", .pushNumber 4, .invoke "+", .openBlock, .pushNumber 1, .pushString "__once__0",
      .invoke "setContext", .pushString "Roses.\n\n", .invoke "emit", .pushString "garden__options",
      .invoke "goto", .closeBlock, .invoke "response", .closeBlock, .pushString "wait",
      .invoke "ppc", .pushNumber 4, .invoke "+", .openBlock, .pushString "garden__options",
      .invoke "goto", .closeBlock, .invoke "response", .invoke "getResponse", .invoke "goto",
      .invoke "exit"]
  labels := Table.ofList [("garden", 0), ("garden__options", 0)]
  blocks := [⟨8, 16⟩, ⟨3, 18⟩, ⟨23, 26⟩]
  linked := rfl
  labels_le := by decide

/-- The machine at the start of the garden. -/
def gardenMachine : Machine :=
  { program := gardenProgram, natives := Registry.quest, stack := [], context := Table.empty
    counter := 0, exited := false, paused := false, queued := [], offered := []
    random := .ofSeed 0, output := [] }

theorem garden_accepted : compile garden = .ok ⟨gardenProgram, []⟩ := rfl

theorem garden_tame : garden.IsTame := by
  intro content member code found
  simp only [garden, gardenChoices, Document.contents, List.flatMap_cons, List.flatMap_nil,
    List.append_nil, List.nil_append, List.mem_singleton] at member
  subst member
  cases found

theorem garden_created : Machine.create gardenProgram Registry.quest = .ok gardenMachine := rfl

/-- The option of the garden that disappears. -/
def lookSite : Site garden where
  earlierStates := []
  state := ⟨"garden", [], gardenChoices, ⟨0, 0⟩⟩
  laterStates := []
  earlierChoices := []
  choice := gardenChoices[0]
  laterChoices := [gardenChoices[1]]
  states := rfl
  choices := rfl

theorem effects_only_when_chosen_garden :
    ∃ (before after earlier : List Event) (choice : PendingChoice) (answer : Nat)
      (trail : List Nat),
      let waiting := ((Operation.run 40).perform gardenMachine).1
      (Operation.run 40).events gardenMachine ++ (Operation.resume 40 0).events waiting =
          before ++ .execute 12 :: after ∧
        before ++ [.execute 12] =
            earlier ++ .choose choice :: .execute answer :: trail.map .execute ∧
          choice.offset = 9 := by
  have begun : History (fun _ operation => operation.Plays)
      ({ gardenMachine with random := .ofSeed 0 }.withContext []) [] _ := .begin
  have history := (begun.perform (.run 40) trivial).perform (.resume 40 0) trivial
  have chosen := (effects_only_when_chosen garden_accepted garden_tame (by decide) rfl
    garden_created history lookSite).2.2
  have executed : Event.execute 12 ∈ (Operation.run 40).events gardenMachine ++
      (Operation.resume 40 0).events ((Operation.run 40).perform gardenMachine).1 := by
    decide +kernel
  obtain ⟨before, after, split⟩ := List.append_of_mem executed
  obtain ⟨earlier, choice, answer, trail, since, offset, -⟩ :=
    chosen before 12 after split (by decide) (by decide)
  exact ⟨before, after, earlier, choice, answer, trail, split, since, offset⟩

end Gamebook.Compile
