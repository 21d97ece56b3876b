import Gamebook.Proofs.Compile.Chosen

/-!
# Options that disappear

An option that disappears stands in a block of its own, behind a test of the key under which it is
remembered.  The first thing its effects do is to set that key, and no instruction removes a key.
So after the option has been chosen the block is skipped for the rest of the run, and the option is
neither queued nor offered again.
-/

namespace Gamebook.Compile

open Machine (Course Event Evolves Executes History Lands Leads)
open Story (Content Document Settings)

variable {settings : Settings} {document : Document} {start machine previous : Machine}
  {events : List Event} {instruction : Instruction} {offset : Nat} {flag : String}

/-! ## The block of an option that disappears -/

/-- Whether an offset is among the instructions behind the test of an option that disappears, but
not among those of its effects. -/
def Site.Offers (site : Site document) (settings : Settings) (offset : Nat) : Prop :=
  site.start settings + 3 < offset ∧ offset < site.stop settings ∧
    (offset < site.entry settings ∨ site.closing settings ≤ offset)

/-- Behind the test of the flag come the title and the effects. -/
theorem Site.once_lead (site : Site document) (flagged : site.flag? = some flag)
    (settings : Settings) : site.start settings + 4 ≤ site.heading settings := by
  rw [Site.heading, Site.lead, leadSteps, flagged]
  simp only [onceLead, codeOf_append, codeOf_cons, codeOf_nil, Step.code, Step.push, Step.invoke,
    List.length_append, List.length_cons, List.length_nil]
  omega

namespace Stage

variable (stage : Stage document settings start) (site : Site document)
  (flagged : site.flag? = some flag)

include stage

include flagged

/-- The test of an option that disappears, and the block behind it. -/
theorem once_holds : ∃ inside, Balanced inside ∧
    site.stop settings = site.start settings + 5 + inside.length ∧
      start.program.Holds (site.start settings)
        (.pushString flag :: .invoke "hasContext" :: .invoke "jz" ::
          (.openBlock :: (inside ++ [.closeBlock]))) := by
  let guarded := guardSteps site.choice.preconditions
    (offerSteps settings site.state.name site.choice site.flag?)
  have steps : site.steps settings = directiveWarnings site.choice ++
      .push flag :: .invoke "hasContext" :: .invoke "jz" :: block guarded := by
    simp only [Site.steps, choiceSteps, guarded, flagged, onceSteps]
  have code : codeOf (site.steps settings) = .pushString flag :: .invoke "hasContext" ::
      .invoke "jz" :: (.openBlock :: (codeOf guarded ++ [.closeBlock])) := by
    simp [steps, (directiveWarnings_warns site.choice).code, block, Step.code, Step.push,
      Step.invoke]
  have balanced : Balanced (codeOf guarded) :=
    guardSteps_balanced
      (fun _ member => stage.option_balanced site (List.mem_append_left _ member)) <|
      offerSteps_balanced _ _ fun _ member =>
        stage.option_balanced site (List.mem_append_right _ member)
  refine ⟨codeOf guarded, balanced, ?_, code ▸ stage.laid.holds site.script_eq⟩
  simp only [Site.stop, code, List.length_cons, List.length_append, List.length_nil]
  omega

theorem once_block : ∃ last, site.stop settings = last + 1 ∧
    start.program.blockEnd? (site.start settings + 3) = some last := by
  obtain ⟨inside, balanced, stop, holds⟩ := stage.once_holds site flagged
  exact ⟨site.start settings + 4 + inside.length, by omega,
    holds.tail.tail.tail.blockEnd? balanced⟩

/-- Where the flag is looked up it lies on the stack. -/
theorem flag_stacked : Stacked start (site.start settings + 1) [.string flag] := by
  obtain ⟨inside, -, stop, holds⟩ := stage.once_holds site flagged
  refine (Stacked.bare _).pushString holds.head fun label labelled => ?_
  rcases stage.option_label_outside site labelled <;> omega

/-- The test of the flag leads past an option that is remembered, and into its block otherwise. -/
theorem test_leads (playing : Playing start machine)
    (counter : machine.counter = site.start settings) :
    Leads 3 machine
      { machine with
        counter := if machine.context.contains flag then site.stop settings
          else site.start settings + 4 } := by
  obtain ⟨inside, -, -, holds⟩ := stage.once_holds site flagged
  obtain ⟨last, stop, block⟩ := stage.once_block site flagged
  rw [← playing.program, ← counter] at holds block
  rw [stop, ← counter]
  exact .step playing.running playing.awake holds.head (.pushString flag) <|
    .step playing.running playing.awake holds.tail.head
        (Machine.executes_hasContext (stage.registered playing .hasContext) rfl) <|
      .step playing.running playing.awake holds.tail.tail.head
        (Machine.executes_enterIfZero (stage.registered playing .enterIfZero) rfl block) (.refl _)

/-- The effects of an option that disappears start by setting its key. -/
theorem remember_holds : start.program.Holds (site.entry settings)
    [.pushNumber 1, .pushString flag, .invoke "setContext"] := by
  have holds := (stage.effects_hold site).left
  rw [Site.effects, effectSteps_eq, flagged, codeOf_append] at holds
  exact holds.left

end Stage

/-! ## Options that are gone -/

/-- A machine on the way from an answer to the place where the option is remembered. -/
inductive Remembering (program : Program) (entry : Nat) (flag : String) (machine : Machine) : Prop
  /-- The offset of the effects has been handed to the program. -/
  | answered {asking : Nat} {rest : List Value}
      (request : program.get? asking = some (.invoke "getResponse"))
      (counter : machine.counter = asking + 1) (stack : machine.stack = .ofOffset entry :: rest)
  | entered (counter : machine.counter = entry)
  | valued (counter : machine.counter = entry + 1)
      (stack : ∃ rest, machine.stack = .number 1 :: rest)
  | named (counter : machine.counter = entry + 2)
      (stack : ∃ rest, machine.stack = .string flag :: .number 1 :: rest)

/-- What holds of every machine after an option that disappears was chosen. -/
structure Gone (site : Site document) (settings : Settings) (flag : String)
    (start machine : Machine) : Prop where
  /-- The option is neither queued nor on offer. -/
  hidden : ∀ choice, choice ∈ machine.queued ∨ choice ∈ machine.offered →
    choice.offset ≠ site.entry settings
  /-- The instructions that offer the option are not reached. -/
  away : machine.exited = false → machine.paused = false → ¬ site.Offers settings machine.counter
  /-- Where the key is tested it has been found. -/
  found : machine.exited = false → machine.paused = false →
    machine.counter = site.start settings + 2 → ∃ rest, machine.stack = .flag true :: rest
  /-- The option is remembered, or about to be. -/
  remembered : machine.context.contains flag = true ∨ machine.exited = true ∨
    (machine.paused = false ∧ Remembering start.program (site.entry settings) flag machine)

namespace Stage

variable (stage : Stage document settings start) (site : Site document)
  (flagged : site.flag? = some flag)

include stage

/-- Behind the request for a choice no option is offered. -/
theorem request_away {asking : Nat}
    (request : start.program.get? asking = some (.invoke "getResponse")) :
    ¬ site.Offers settings (asking + 1) := by
  rintro ⟨after, before, -⟩
  have outside := stage.request_outside site request
  omega

/-- Behind the request for a choice no key is tested. -/
theorem request_untested {asking : Nat}
    (request : start.program.get? asking = some (.invoke "getResponse")) :
    asking + 1 ≠ site.start settings + 2 := by
  intro same
  have outside := stage.request_outside site request
  have bounds := site.stop_eq settings
  simp only [Site.closing, Site.entry, Site.opening, Site.heading] at bounds
  omega

/-- An answer that chooses the option leaves a machine from which the option is gone. -/
theorem gone_of_chosen {id : Nat} {choice : PendingChoice} (course : Course start events previous)
    (chosen : previous.chosen? id = some choice) (entry : choice.offset = site.entry settings) :
    Gone site settings flag start (previous.choose choice) := by
  obtain ⟨-, waiting, -⟩ := Machine.chosen?_eq_some_iff.mp chosen
  obtain ⟨asking, counter, request⟩ := stage.paused_counter course waiting
  obtain ⟨none_queued, -⟩ := (course.settled stage.settled).waits waiting
  have reached : (previous.choose choice).counter = asking + 1 := counter
  constructor
  · intro other member
    simp [Machine.choose, none_queued] at member
  · intro _ _
    rw [reached]
    exact stage.request_away site request
  · intro _ _ at_test
    exact absurd (reached.symm.trans at_test) (stage.request_untested site request)
  · exact Or.inr (Or.inr ⟨rfl, .answered request counter (by rw [← entry]; rfl)⟩)

/-- An answer that chooses another option does not bring the option back. -/
theorem gone_choose {id : Nat} {choice : PendingChoice} (course : Course start events previous)
    (gone : Gone site settings flag start previous) (chosen : previous.chosen? id = some choice) :
    Gone site settings flag start (previous.choose choice) := by
  obtain ⟨running, waiting, -⟩ := Machine.chosen?_eq_some_iff.mp chosen
  obtain ⟨asking, counter, request⟩ := stage.paused_counter course waiting
  have reached : (previous.choose choice).counter = asking + 1 := counter
  constructor
  · intro other member
    rcases member with queued | offered
    · exact gone.hidden other (Or.inl queued)
    · simp [Machine.choose] at offered
  · intro _ _
    rw [reached]
    exact stage.request_away site request
  · intro _ _ at_test
    exact absurd (reached.symm.trans at_test) (stage.request_untested site request)
  · rcases gone.remembered with present | exited | ⟨awake, -⟩
    · exact Or.inl present
    · exact Or.inr (Or.inl exited)
    · simp [waiting] at awake

section Arrival

variable (gone : Gone site settings flag start previous)
  (sound : Sound document settings start previous) (evolves : Evolves start previous)
  (running : previous.exited = false) (awake : previous.paused = false)
  (here : start.program.get? previous.counter = some instruction)
  (executes : Executes previous instruction machine)

include sound evolves running awake here

/-- No jump leads into the block of the option, unless to the effects. -/
theorem jump_outside {target : Nat} (jumps : Machine.Jumps previous instruction target) :
    ¬ site.Offers settings target := by
  rintro ⟨after, before, outside⟩
  rcases stage.jump_target sound evolves running awake here jumps with
    ⟨label, labelled⟩ | ⟨other, asking, rest, other_entry, -⟩
  · rcases stage.option_label_outside site labelled <;> omega
  · have bounds := other.stop_eq settings
    have first : other.start settings ≤ other.heading settings := Nat.le_add_right _ _
    obtain ⟨exit, closing, follows, -⟩ := stage.leaving other
    by_cases same : other = site
    · subst same
      omega
    · have apart := Site.disjoint same settings
      simp only [Site.entry, Site.opening] at other_entry follows
      omega

omit sound awake

include flagged gone executes

/-- Step by step the option comes to be remembered. -/
theorem remembered_step : machine.context.contains flag = true ∨ machine.exited = true ∨
    (machine.paused = false ∧ Remembering start.program (site.entry settings) flag machine) := by
  have holds := stage.remember_holds site flagged
  have executed {other : Instruction} {next : Machine}
      (there : start.program.get? previous.counter = some other)
      (known : Executes previous other next) : machine = next := by
    obtain rfl : instruction = other := Option.some.inj (here.symm.trans there)
    exact executes.unique known
  rcases gone.remembered with present | exited | ⟨awake, remembering⟩
  · exact Or.inl (executes.evolves.keys flag present)
  · simp [running] at exited
  · cases remembering with
    | answered request counter stack =>
        have jumped := executed (counter ▸ stage.after_request request)
          (.goto ((stage.registered_iff evolves).mpr rfl) stack
            (evolves.program ▸ stage.destination?_entry site))
        exact Or.inr (Or.inr ⟨by simp [jumped, awake], .entered (by simp [jumped])⟩)
    | entered counter =>
        have pushed := executed (counter ▸ holds.head) (.pushNumber 1)
        exact Or.inr (Or.inr ⟨by simp [pushed, awake],
          .valued (by simp [pushed, counter]) ⟨previous.stack, by simp [pushed]⟩⟩)
    | valued counter stack =>
        obtain ⟨rest, stack⟩ := stack
        have pushed := executed (counter ▸ holds.tail.head) (.pushString flag)
        exact Or.inr (Or.inr ⟨by simp [pushed, awake],
          .named (by simp [pushed, counter]) ⟨rest, by simp [pushed, stack]⟩⟩)
    | named counter stack =>
        obtain ⟨rest, stack⟩ := stack
        have set := executed (counter ▸ holds.tail.tail.head)
          (Machine.executes_setContext ((stage.registered_iff evolves).mpr rfl) stack)
        exact Or.inl (by simp [set])

include sound awake

omit sound evolves awake here executes in
/-- Where the flag is looked up the key has been set. -/
theorem set_of_test (at_flag : previous.counter = site.start settings + 1) :
    previous.context.contains flag = true := by
  rcases gone.remembered with present | exited | ⟨-, remembering⟩
  · exact present
  · simp [running] at exited
  · have lead := site.once_lead flagged settings
    obtain ⟨inside, -, -, holds⟩ := stage.once_holds site flagged
    cases remembering with
    | answered request counter stack =>
        obtain rfl : site.start settings = _ := Nat.succ.inj (at_flag.symm.trans counter)
        simp [holds.head] at request
    | entered counter | valued counter stack | named counter stack =>
        simp only [Site.entry, Site.opening] at counter
        omega

omit sound in
/-- Where the key is tested it has been found, so the test leads past the option. -/
theorem tested_step (at_test : previous.counter = site.start settings + 2) :
    machine.counter = site.stop settings := by
  obtain ⟨inside, -, -, holds⟩ := stage.once_holds site flagged
  obtain ⟨last, stop, block⟩ := stage.once_block site flagged
  obtain ⟨rest, found⟩ := gone.found running awake at_test
  rw [at_test, holds.tail.tail.head] at here
  obtain rfl := Option.some.inj here
  have next : previous.program.blockEnd? (previous.counter + 1) = some last := by
    rw [evolves.program, at_test, block]
  have tested := executes.unique
    (Machine.executes_enterIfZero ((stage.registered_iff evolves).mpr rfl) found next)
  rw [tested, stop]
  rfl

variable (still_running : machine.exited = false) (still_awake : machine.paused = false)

include still_running still_awake

/-- The key is found. -/
theorem found_step (at_test : machine.counter = site.start settings + 2) :
    ∃ rest, machine.stack = .flag true :: rest := by
  obtain ⟨inside, -, stop, holds⟩ := stage.once_holds site flagged
  have no_label (label : String) :
      start.program.label? label ≠ some (site.start settings + 1 + 1) := by
    intro labelled
    rcases stage.option_label_outside site labelled <;> omega
  obtain ⟨at_flag, -⟩ := stage.came_next sound evolves running awake here executes still_running
    still_awake holds.tail.head (by simp) (by simp) no_label at_test
  obtain ⟨rest, stack⟩ := sound.stacked running awake _ _ (stage.flag_stacked site flagged) at_flag
  have present := stage.set_of_test site flagged gone running at_flag
  rw [at_flag, holds.tail.head] at here
  obtain rfl := Option.some.inj here
  have looked := executes.unique
    (Machine.executes_hasContext ((stage.registered_iff evolves).mpr rfl) stack)
  rw [looked, present]
  exact ⟨rest, rfl⟩

/-- The block of the option is passed by. -/
theorem away_step : ¬ site.Offers settings machine.counter := by
  rintro ⟨after, before, outside⟩
  have was_away := gone.away running awake
  simp only [Site.Offers, not_and, not_or] at was_away
  obtain ⟨last, stop, once_block⟩ := stage.once_block site flagged
  have effects := stage.effects_block site
  have not_closing := stage.closed_step sound evolves running awake here executes still_running
    still_awake site
  have entry : site.entry settings = site.opening settings + 1 := rfl
  have lands := executes.lands still_running still_awake
  have from_here : previous.program.get? previous.counter = some instruction :=
    evolves.program ▸ here
  rw [← evolves.program] at once_block effects
  rcases lands.enters from_here once_block after (by omega) with
    inside | ⟨ahead, -⟩ | jumps
  · -- Among the instructions of the option only its effects can have been reached.
    rcases lands.stays effects (by omega) (by omega) with within | jumps
    · omega
    · exact stage.jump_outside site sound evolves running awake here jumps ⟨after, before, outside⟩
  · have skips := stage.tested_step site flagged gone evolves running awake here executes
      (by omega)
    omega
  · exact stage.jump_outside site sound evolves running awake here jumps ⟨after, before, outside⟩

omit still_running still_awake

theorem gone_step : Gone site settings flag start machine := by
  constructor
  · intro choice member entry
    rcases stage.queued_step sound evolves running awake here executes choice member with
      member | ⟨other, counter, other_entry⟩
    · exact gone.hidden choice member entry
    · obtain ⟨exit, closing, follows, -⟩ := stage.leaving other
      obtain rfl : site = other :=
        Site.eq_of_entry (show other.entry settings ≤ _ by omega) (by omega)
      have bounds := site.stop_eq settings
      have lead := site.once_lead flagged settings
      have entered : site.entry settings = site.heading settings + 5 := rfl
      exact gone.away running awake ⟨by omega, by omega, Or.inr (by omega)⟩
  · intro still_running still_awake
    exact stage.away_step site flagged gone sound evolves running awake here executes
      still_running still_awake
  · intro still_running still_awake
    exact stage.found_step site flagged gone sound evolves running awake here executes
      still_running still_awake
  · exact stage.remembered_step site flagged gone evolves running here executes

end Arrival

include flagged

/-- After the option has been chosen it is gone for the rest of the run. -/
theorem gone {before after : List Event} {choice : PendingChoice}
    (course : Course start events machine) (split : events = before ++ .choose choice :: after)
    (entry : choice.offset = site.entry settings) : Gone site settings flag start machine := by
  induction course generalizing after with
  | begin => simp at split
  | @execute earlier previous course running awake induction =>
      rcases append_singleton_eq_append_cons split with ⟨rest, inside, -⟩ | ⟨same, -, -⟩
      · have gone := induction inside
        rcases Machine.tick_cases running rfl with
          ⟨-, past⟩ | ⟨instruction, here, executes⟩ | ⟨state, framed, failed⟩
        · rw [past]
          exact ⟨gone.hidden, by simp, by simp, Or.inr (Or.inl rfl)⟩
        · rw [course.evolves.program] at here
          exact stage.gone_step site flagged gone (stage.sound course) course.evolves running awake
            here executes
        · rw [failed]
          refine ⟨fun other member => gone.hidden other ?_, by simp, by simp,
            Or.inr (Or.inl rfl)⟩
          rwa [← framed.queued, ← framed.offered]
      · cases same
  | @choose earlier previous id other course chosen induction =>
      rcases append_singleton_eq_append_cons split with ⟨rest, inside, -⟩ | ⟨same, -, -⟩
      · exact stage.gone_choose site course (induction inside) chosen
      · obtain rfl := Event.choose.inj same
        exact stage.gone_of_chosen site course chosen entry

/-- The first three instructions of the effects set the key of the option and nothing else. -/
theorem remembers (playing : Playing start previous)
    (counter : previous.counter = site.entry settings) :
    Leads 3 previous
      { previous with
        context := previous.context.insert flag (.number 1)
        counter := site.entry settings + 3 } := by
  have holds := stage.remember_holds site flagged
  rw [← playing.program, ← counter] at holds
  rw [← counter]
  exact .step playing.running playing.awake holds.head (.pushNumber 1) <|
    .step playing.running playing.awake holds.tail.head (.pushString flag) <|
      .step playing.running playing.awake holds.tail.tail.head
        (Machine.executes_setContext (stage.registered playing .setContext) rfl) (.refl _)

end Stage

/-- After an option that disappears was chosen, no machine of the run offers it again, whatever
values and random numbers the host has set at first.  Its effects start by setting a key of its own,
which leaves the keys of all other options alone, and no operation removes a key.  Offsets are exact
in a program of fewer than `2 ^ 53` instructions. -/
theorem once_options_disappear {compiled : Compiled} {fresh : Machine}
    {values : List (String × Value)} {random : Machine.Random}
    (accepted : compile document = .ok compiled) (tame : document.IsTame)
    (short : compiled.program.length < 2 ^ 53)
    (read : Settings.ofTable document.settings = .ok settings)
    (created : Machine.create compiled.program Registry.quest = .ok fresh) (site : Site document)
    (once : site.choice.isOnce = true) :
    (∀ events machine,
      History (fun _ operation => operation.Plays) ({ fresh with random }.withContext values)
          events machine →
        ∀ before choice after, events = before ++ .choose choice :: after →
          choice.offset = site.entry settings →
            ∀ other ∈ machine.offered, other.offset ≠ site.entry settings) ∧
      (∃ flag, site.flag? = some flag ∧
        (∀ other : Site document, other.flag? = some flag → other = site) ∧
          ∀ machine : Machine, machine.program = compiled.program →
            machine.natives = Registry.quest → machine.exited = false → machine.paused = false →
              machine.counter = site.entry settings →
                Leads 3 machine
                  { machine with
                    context := machine.context.insert flag (.number 1)
                    counter := site.entry settings + 3 }) ∧
        ∀ (machine : Machine) (operation : Operation) (key : String),
          machine.context.contains key = true →
            (operation.perform machine).1.context.contains key = true := by
  have stage := Stage.of_compile accepted tame short read created random values
  have flagged : site.flag? = some (onceFlag site.index) := by simp [Site.flag?, once]
  refine ⟨?_, ⟨_, flagged, fun other same => Site.flag?_injective same flagged, ?_⟩,
    fun machine operation => (Machine.perform_evolves machine operation).keys⟩
  · intro events machine history before choice after split entry other member
    exact (stage.gone site flagged (history.course stage.settled) split entry).hidden other
      (Or.inr member)
  · intro machine program natives running awake counter
    rw [Machine.create_eq created] at stage
    exact stage.remembers site flagged ⟨program, natives, running, awake⟩ counter

theorem once_options_disappear_garden :
    let waiting := ((Operation.run 40).perform gardenMachine).1
    let returned := ((Operation.resume 40 0).perform waiting).1
    waiting.offered = [⟨"look", 9⟩, ⟨"wait", 24⟩] ∧ returned.offered ≠ [] ∧
      ∀ other ∈ returned.offered, other.offset ≠ 9 := by
  have begun : History (fun _ operation => operation.Plays)
      ({ gardenMachine with random := .ofSeed 0 }.withContext []) [] _ := .begin
  have history := (begun.perform (.run 40) trivial).perform (.resume 40 0) trivial
  have chosen : Event.choose ⟨"look", 9⟩ ∈ (Operation.run 40).events gardenMachine ++
      (Operation.resume 40 0).events ((Operation.run 40).perform gardenMachine).1 := by
    decide +kernel
  obtain ⟨before, after, split⟩ := List.append_of_mem chosen
  refine ⟨by decide +kernel, by decide +kernel, ?_⟩
  exact (once_options_disappear garden_accepted garden_tame (by decide) rfl
    garden_created lookSite rfl).1 _ _ history before _ after split rfl

end Gamebook.Compile
