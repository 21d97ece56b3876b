import Gamebook.Proofs.Compile.Balance
import Gamebook.Proofs.Machine.History

/-!
# Programs of orderly documents

What stands where in the program of a document with orderly code.  A jump follows the label to which
it leads or the instruction that asks for a choice, an option is queued behind the block of its
effects, and that block is left by a jump or by the end of the run.  If the code is tame, no label
lies within the steps of an option, and every request for a choice is followed by a jump.
-/

namespace Gamebook.Compile

open Story (Choice Content Document Settings State)

variable {settings : Settings} {document : Document}

/-! ## Transfers of control in a script -/

/-- Steps in which every jump follows a known label or the request for a choice, and every request
for a choice is followed by a jump. -/
inductive Paired (Known : String → Prop) : List Step → Prop
  | nil : Paired Known []
  | single {step : Step} {rest : List Step} (no_jump : step ≠ .invoke "goto")
      (no_request : step ≠ .invoke "getResponse") (paired : Paired Known rest) :
      Paired Known (step :: rest)
  | jump {rest : List Step} (label : String) (known : Known label) (paired : Paired Known rest) :
      Paired Known (.push label :: .invoke "goto" :: rest)
  | request {rest : List Step} (paired : Paired Known rest) :
      Paired Known (.invoke "getResponse" :: .invoke "goto" :: rest)

section Paired

variable {Known : String → Prop}

namespace Paired

variable {first second steps before after : List Step}

theorem append (left : Paired Known first) (right : Paired Known second) :
    Paired Known (first ++ second) := by
  induction left with
  | nil => exact right
  | single no_jump no_request _ induction => exact .single no_jump no_request induction
  | jump label known _ induction => exact .jump label known induction
  | request _ induction => exact .request induction

theorem of_calm (calm : ∀ step ∈ steps, step.Calm) : Paired Known steps := by
  induction steps with
  | nil => exact .nil
  | cons step rest induction =>
      have free := (calm step List.mem_cons_self).2
      exact .single (free "goto" (by simp [controlNatives]))
        (free "getResponse" (by simp [controlNatives]))
        (induction fun other member => calm other (List.mem_cons_of_mem _ member))

theorem before_jump (paired : Paired Known steps)
    (split : steps = before ++ .invoke "goto" :: after) :
    ∃ front step, before = front ++ [step] ∧
      (step = .invoke "getResponse" ∨ ∃ label, Known label ∧ step = .push label) := by
  induction paired generalizing before with
  | nil => simp at split
  | single no_jump no_request _ induction =>
      cases before with
      | nil => exact absurd (List.cons.inj split).1 no_jump
      | cons head rest =>
          obtain ⟨front, step, rfl, kind⟩ := induction (List.cons.inj split).2
          exact ⟨head :: front, step, rfl, kind⟩
  | jump label known _ induction =>
      rcases before with _ | ⟨head, _ | ⟨next, rest⟩⟩
      · simp [Step.push, Step.invoke] at split
      · exact ⟨[], head, rfl, Or.inr ⟨label, known, (List.cons.inj split).1.symm⟩⟩
      · obtain ⟨front, step, rfl, kind⟩ := induction (List.cons.inj (List.cons.inj split).2).2
        exact ⟨head :: next :: front, step, rfl, kind⟩
  | request _ induction =>
      rcases before with _ | ⟨head, _ | ⟨next, rest⟩⟩
      · simp [Step.invoke] at split
      · exact ⟨[], head, rfl, Or.inl (List.cons.inj split).1.symm⟩
      · obtain ⟨front, step, rfl, kind⟩ := induction (List.cons.inj (List.cons.inj split).2).2
        exact ⟨head :: next :: front, step, rfl, kind⟩

theorem after_request (paired : Paired Known steps)
    (split : steps = before ++ .invoke "getResponse" :: after) :
    ∃ rest, after = .invoke "goto" :: rest := by
  induction paired generalizing before with
  | nil => simp at split
  | single no_jump no_request _ induction =>
      cases before with
      | nil => exact absurd (List.cons.inj split).1 no_request
      | cons head rest => exact induction (List.cons.inj split).2
  | jump label known _ induction =>
      rcases before with _ | ⟨head, _ | ⟨next, rest⟩⟩
      · simp [Step.push, Step.invoke] at split
      · simp [Step.invoke] at split
      · exact induction (List.cons.inj (List.cons.inj split).2).2
  | @request rest _ induction =>
      rcases before with _ | ⟨head, _ | ⟨next, others⟩⟩
      · exact ⟨rest, (List.cons.inj split).2.symm⟩
      · simp [Step.invoke] at split
      · exact induction (List.cons.inj (List.cons.inj split).2).2

end Paired

theorem choiceSteps_paired {state : String} {choice : Choice} {flag : Option String}
    (referred : ∀ label span, .refer label span ∈ choiceSteps settings state choice flag →
      Known label) (options : Known (optionsLabel state)) :
    Paired Known (choiceSteps settings state choice flag) := by
  have effects : Paired Known (effectSteps settings state choice flag) := by
    obtain ⟨calm, quiet, ⟨label, leave, known⟩ | leave⟩ :=
      effectSteps_split settings state choice flag
    · rw [leave]
      refine (Paired.of_calm quiet).append (.jump label ?_ .nil)
      rcases known with ⟨span, asked⟩ | rfl
      · refine referred label span ?_
        rw [choiceSteps_eq, leave]
        simp [block, asked]
      · exact options
    · rw [leave]
      exact (Paired.of_calm quiet).append
        (.single (by simp [Step.invoke]) (by simp [Step.invoke]) .nil)
  rw [choiceSteps_eq]
  refine (Paired.of_calm fun _ => leadSteps_calm).append
    ((Paired.of_calm fun _ => headerSteps_calm).append (Paired.append ?_ ?_))
  · exact .single (by simp [Step.invoke]) (by simp [Step.invoke])
      (effects.append (.single (by simp [Step.invoke]) (by simp [Step.invoke]) .nil))
  · exact .single (by simp [Step.invoke]) (by simp [Step.invoke])
      (Paired.of_calm fun _ => trailSteps_calm)

theorem choicesSteps_paired {state : String} {index : Nat} {choices : List Choice}
    (referred : ∀ label span, .refer label span ∈ choicesSteps settings state index choices →
      Known label) (options : Known (optionsLabel state)) :
    Paired Known (choicesSteps settings state index choices) := by
  induction choices generalizing index with
  | nil => exact .nil
  | cons choice rest induction =>
      rw [choicesSteps_cons] at referred ⊢
      exact (choiceSteps_paired (fun label span member =>
          referred label span (List.mem_append_left _ member)) options).append
        (induction fun label span member => referred label span (List.mem_append_right _ member))

theorem statesSteps_paired {index : Nat} {states : List State}
    (referred : ∀ label span, .refer label span ∈ statesSteps settings index states → Known label)
    (options : ∀ state ∈ states, Known (optionsLabel state.name)) :
    Paired Known (statesSteps settings index states) := by
  induction states generalizing index with
  | nil => exact .nil
  | cons state rest induction =>
      have body : Paired Known (state.body.flatMap (contentSteps settings)) :=
        .of_calm fun step member => by
          obtain ⟨content, -, inside⟩ := List.mem_flatMap.mp member
          exact contentSteps_calm inside
      rw [statesSteps, stateSteps] at referred ⊢
      refine Paired.append (Paired.append (Paired.append ?_ ?_) ?_) (induction ?_ ?_)
      · exact .single (by simp [Step.invoke]) (by simp [Step.invoke]) body
      · refine .single (by simp [Step.invoke]) (by simp [Step.invoke])
          (choicesSteps_paired (fun label span member => referred label span ?_)
            (options state List.mem_cons_self))
        simp [member]
      · exact .request .nil
      · exact fun label span member => referred label span (List.mem_append_right _ member)
      · exact fun other member => options other (List.mem_cons_of_mem _ member)

theorem preambleSteps_paired
    (referred : ∀ label span, .refer label span ∈ preambleSteps settings → Known label) :
    Paired Known (preambleSteps settings) := by
  rw [preambleSteps] at referred ⊢
  refine Paired.append (.of_calm fun step member => ?_) ?_
  · obtain ⟨⟨name, value⟩, -, inside⟩ := List.mem_flatMap.mp member
    simp only [List.mem_cons, List.not_mem_nil, or_false] at inside
    rcases inside with rfl | rfl | rfl
    · exact Step.calm_emit (by cases value <;> simp [Instruction.push])
    · exact Step.calm_push _
    · exact Step.calm_invoke (by decide)
  · split
    · rename_i state found
      refine .single (by simp [Step.invoke]) (by simp [Step.invoke]) (.jump _ ?_ .nil)
      exact referred state none (by simp [found])
    · exact .nil

/-- The labels to which the layout of a document jumps: those that it asks for, and those of the
options of its states. -/
def Targeted (settings : Settings) (document : Document) (label : String) : Prop :=
  (∃ span, .refer label span ∈ script settings document) ∨
    ∃ state ∈ document.states, label = optionsLabel state.name

/-- In a script every jump follows a label that it aims at or the request for a choice. -/
theorem script_paired : Paired (Targeted settings document) (script settings document) := by
  have referred {steps : List Step} (within : ∀ step ∈ steps, step ∈ script settings document)
      (label : String) (span : Option Text.Span) (member : .refer label span ∈ steps) :
      Targeted settings document label :=
    Or.inl ⟨span, within _ member⟩
  have warnings : Paired (Targeted settings document) (whitespaceWarnings settings) :=
    .of_calm fun _ => (whitespaceWarnings_warns settings).calm
  have preamble : Paired (Targeted settings document) (preambleSteps settings) :=
    preambleSteps_paired (referred fun step member => by simp [script, member])
  have states : Paired (Targeted settings document) (statesSteps settings 0 document.states) :=
    statesSteps_paired (referred fun step member => by simp [script, member])
      fun state member => Or.inr ⟨state, member, rfl⟩
  exact ((warnings.append preamble).append states).append
    (.single (by simp [Step.invoke]) (by simp [Step.invoke]) .nil)

end Paired

/-- The code of steps stands behind the code of the steps before them. -/
theorem Laid.holds {program : Program} (laid : Laid (script settings document) program)
    {before between after : List Step}
    (split : script settings document = before ++ (between ++ after)) :
    program.Holds (codeOf before).length (codeOf between) :=
  ⟨codeOf before, codeOf after, by rw [laid.instructions, split]; simp, rfl⟩

/-- Behind the tests of an option, its title and the offset of its effects are pushed, the effects
stand in a block, and the option is queued. -/
theorem Laid.header_holds {program : Program} (laid : Laid (script settings document) program)
    (site : Site document) : program.Holds (site.heading settings)
      (.pushString (site.choice.text.getD "") :: .invoke "ppc" :: .pushNumber 4 :: .invoke "+" ::
        (.openBlock :: (codeOf (site.effects settings) ++ [.closeBlock]) ++
          (.invoke "response" :: codeOf site.trail))) := by
  have holds := laid.holds site.script_eq
  rw [site.steps_eq] at holds
  have option : program.Holds (site.start settings)
      (codeOf site.lead ++ (codeOf (headerSteps site.choice) ++
        (.openBlock :: (codeOf (site.effects settings) ++ [.closeBlock]) ++
          (.invoke "response" :: codeOf site.trail)))) := by
    simpa [block, Step.code, Step.invoke, Site.start] using holds
  exact option.right

/-- The effects of an option with balanced code are a block. -/
theorem Laid.effects_block {program : Program} (laid : Laid (script settings document) program)
    (site : Site document) (balanced : ∀ content ∈ site.choice.effects, content.IsBalanced) :
    program.blockEnd? (site.opening settings) = some (site.closing settings) :=
  (laid.header_holds site).tail.tail.tail.tail.left.blockEnd? (effectSteps_balanced _ _ balanced)

/-- The last step of effects is a jump or the end of the run. -/
theorem Site.effects_last (site : Site document) (settings : Settings) :
    ∃ front name, site.effects settings = front ++ [.invoke name] ∧
      (name = "goto" ∨ name = "exit") := by
  obtain ⟨calm, -, ⟨label, leave, -⟩ | leave⟩ :=
    effectSteps_split settings site.state.name site.choice site.flag?
  · exact ⟨calm ++ [.push label], "goto", by simp [Site.effects, leave], Or.inl rfl⟩
  · exact ⟨calm, "exit", leave, Or.inr rfl⟩

/-! ## The program of an orderly document -/

/-- A fresh machine with the program of an orderly document.  The program has fewer instructions
than there are numbers that are represented exactly, as any program that fits into a memory has. -/
structure Footing (document : Document) (settings : Settings) (start : Machine) : Prop where
  laid : Laid (script settings document) start.program
  orderly : document.IsOrderly
  short : start.program.length < 2 ^ 53
  natives : start.natives = Registry.quest
  counter : start.counter = 0
  awake : start.paused = false
  queued : start.queued = []
  offered : start.offered = []

namespace Footing

/-- A document that compiles can be played, whatever values and random numbers the host sets. -/
theorem of_compile {compiled : Compiled} {fresh : Machine}
    (accepted : compile document = .ok compiled) (orderly : document.IsOrderly)
    (short : compiled.program.length < 2 ^ 53)
    (read : Settings.ofTable document.settings = .ok settings)
    (created : Machine.create compiled.program Registry.quest = .ok fresh)
    (random : Machine.Random) (values : List (String × Value)) :
    Footing document settings ({ fresh with random }.withContext values) := by
  obtain ⟨found, read_found, laid⟩ := compile_laid accepted
  obtain rfl : found = settings := Except.ok.inj (read_found.symm.trans read)
  rw [Machine.create_eq created]
  exact ⟨laid, orderly, short, rfl, rfl, rfl, rfl, rfl⟩

variable {start : Machine} (footing : Footing document settings start) {offset : Nat}

include footing

/-! ## What stands where -/

theorem get?_of_split (before after : List Step) {instruction : Instruction}
    (split : script settings document = before ++ .emit instruction :: after) :
    start.program.get? (codeOf before).length = some instruction :=
  Program.Holds.head
    (show start.program.Holds _ (codeOf [.emit instruction]) from footing.laid.holds split)

theorem split_of_get? {name : String} (reserved : name ∈ transferNatives)
    (here : start.program.get? offset = some (.invoke name)) :
    ∃ before after, script settings document = before ++ .invoke name :: after ∧
      offset = (codeOf before).length := by
  rw [Program.get?, footing.laid.instructions] at here
  exact control_split (script_leaves footing.orderly reserved) here

theorem label_outside (before between after : List Step) {label : String}
    (split : script settings document = before ++ (between ++ after))
    (no_labels : ∀ step ∈ between, step.labels = [])
    (labelled : start.program.label? label = some offset) :
    offset ≤ (codeOf before).length ∨
      (codeOf before).length + (codeOf between).length ≤ offset :=
  defines_outside split no_labels ((footing.laid.label label offset).mp labelled)

/-- A jump follows a label that the layout aims at or the request for a choice, and no label leads
to it. -/
theorem before_jump (here : start.program.get? offset = some (.invoke "goto")) :
    ∃ previous, offset = previous + 1 ∧
      (start.program.get? previous = some (.invoke "getResponse") ∨
        ∃ label, Targeted settings document label ∧
          start.program.get? previous = some (.pushString label)) ∧
      ∀ label, start.program.label? label ≠ some offset := by
  obtain ⟨before, after, split, rfl⟩ := footing.split_of_get? (by simp [transferNatives]) here
  obtain ⟨front, step, rfl, kind⟩ := script_paired.before_jump split
  have emits : ∃ instruction, step = .emit instruction ∧
      (instruction = .invoke "getResponse" ∨
        ∃ label, Targeted settings document label ∧ instruction = .pushString label) := by
    rcases kind with rfl | ⟨label, targeted, rfl⟩
    · exact ⟨_, rfl, Or.inl rfl⟩
    · exact ⟨_, rfl, Or.inr ⟨label, targeted, rfl⟩⟩
  clear kind
  obtain ⟨instruction, rfl, kind⟩ := emits
  rw [List.append_assoc, List.singleton_append] at split
  have previous := footing.get?_of_split front _ split
  refine ⟨(codeOf front).length, by simp [Step.code], ?_, fun label labelled => ?_⟩
  · rcases kind with rfl | ⟨label, targeted, rfl⟩
    · exact Or.inl previous
    · exact Or.inr ⟨label, targeted, previous⟩
  · have outside := footing.label_outside front [.emit instruction, .invoke "goto"] after split
      (by simp [Step.labels, Step.invoke]) labelled
    simp [Step.code, Step.invoke] at outside

/-- An option is queued behind the block of its effects. -/
theorem response_site (here : start.program.get? offset = some (.invoke "response")) :
    ∃ site : Site document, offset = site.closing settings + 1 := by
  obtain ⟨before, after, split, rfl⟩ := footing.split_of_get? (by simp [transferNatives]) here
  obtain ⟨site, rfl⟩ := Compile.response_site split
  refine ⟨site, ?_⟩
  simp [Site.closing, Site.entry, Site.opening, Site.heading, Site.start, block, headerSteps,
    Step.code, Step.push, Step.invoke]
  omega

/-! ## The steps of an option -/

variable (site : Site document)

/-- The title and the offset of the effects are pushed, and behind them stands the block of effects.
-/
theorem header_holds : start.program.Holds (site.heading settings)
    (.pushString (site.choice.text.getD "") :: .invoke "ppc" :: .pushNumber 4 :: .invoke "+" ::
      (.openBlock :: (codeOf (site.effects settings) ++ [.closeBlock]) ++
        (.invoke "response" :: codeOf site.trail))) :=
  footing.laid.header_holds site

theorem block_holds : start.program.Holds (site.opening settings)
    (.openBlock :: (codeOf (site.effects settings) ++ [.closeBlock]) ++
      (.invoke "response" :: codeOf site.trail)) :=
  (footing.header_holds site).tail.tail.tail.tail

theorem effects_hold : start.program.Holds (site.entry settings)
    (codeOf (site.effects settings) ++
      ([.closeBlock] ++ (.invoke "response" :: codeOf site.trail))) := by
  have holds : start.program.Holds (site.entry settings)
      ((codeOf (site.effects settings) ++ [.closeBlock]) ++
        (.invoke "response" :: codeOf site.trail)) :=
    (footing.block_holds site).tail
  rwa [List.append_assoc] at holds

theorem opening_brace : start.program.get? (site.opening settings) = some .openBlock :=
  (footing.block_holds site).head

theorem closing_brace : start.program.get? (site.closing settings) = some .closeBlock :=
  (footing.effects_hold site).right.head

theorem queueing : start.program.get? (site.closing settings + 1) = some (.invoke "response") :=
  (footing.effects_hold site).right.tail.head

theorem option_balanced {content : Content}
    (member : content ∈ site.choice.preconditions ++ site.choice.effects) : content.IsBalanced :=
  footing.orderly.isBalanced (site.mem_contents member)

/-- The effects are a block of the program. -/
theorem effects_block :
    start.program.blockEnd? (site.opening settings) = some (site.closing settings) :=
  footing.laid.effects_block site fun _ member =>
    footing.option_balanced site (List.mem_append_right _ member)

/-- The block of effects is left by a jump or by the end of the run. -/
theorem leaving : ∃ last, site.closing settings = last + 1 ∧ site.entry settings ≤ last ∧
    (start.program.get? last = some (.invoke "goto") ∨
      start.program.get? last = some (.invoke "exit")) := by
  obtain ⟨front, name, effects, kind⟩ := site.effects_last settings
  have code : codeOf (site.effects settings) = codeOf front ++ [.invoke name] := by
    simp [effects, Step.code, Step.invoke]
  have last := (code ▸ (footing.effects_hold site).left).right.head
  refine ⟨site.entry settings + (codeOf front).length, ?_, by omega, ?_⟩
  · simp only [Site.closing, code, List.length_append, List.length_singleton]
    omega
  · rcases kind with rfl | rfl
    · exact Or.inl last
    · exact Or.inr last

/-- No label leads behind the title of an option or to the block of its effects. -/
theorem header_label_outside {label : String}
    (labelled : start.program.label? label = some offset) :
    offset ≤ site.heading settings ∨ site.entry settings ≤ offset := by
  have split : script settings document = (site.before settings ++ site.lead) ++
      ((headerSteps site.choice ++ [.emit .openBlock]) ++
        (site.effects settings ++ .emit .closeBlock :: .invoke "response" :: site.trail ++
          site.after settings)) := by
    rw [site.script_eq, site.steps_eq]
    simp [block]
  have outside := footing.label_outside _ _ _ split
    (by simp [headerSteps, Step.labels, Step.push, Step.invoke]) labelled
  simpa [Site.entry, Site.opening, Site.heading, Site.start, headerSteps, Step.code, Step.push,
    Step.invoke, Nat.add_assoc] using outside

/-- No label leads to the end of the block of effects or to what queues the option. -/
theorem closing_label_outside {label : String}
    (labelled : start.program.label? label = some offset) :
    offset < site.closing settings ∨ site.closing settings + 2 ≤ offset := by
  obtain ⟨front, name, effects, -⟩ := site.effects_last settings
  have split : script settings document =
      (site.before settings ++ (site.lead ++ (headerSteps site.choice ++
        (.emit .openBlock :: front)))) ++
      ([.invoke name, .emit .closeBlock, .invoke "response"] ++
        (site.trail ++ site.after settings)) := by
    rw [site.script_eq, site.steps_eq, effects]
    simp [block]
  have outside := footing.label_outside _ _ _ split
    (by simp [Step.labels, Step.invoke]) labelled
  simp [headerSteps, Step.code, Step.push, Step.invoke] at outside
  simp [Site.closing, Site.entry, Site.opening, Site.heading, Site.start, effects, Step.code,
    Step.invoke]
  omega

end Footing

/-! ## The program of a tame document -/

/-- A fresh machine with the program of a tame document. -/
structure Stage (document : Document) (settings : Settings) (start : Machine) : Prop
    extends Footing document settings start where
  tame : document.IsTame

namespace Stage

/-- A document that compiles is ready to be played, whatever values and random numbers the host
sets. -/
theorem of_compile {compiled : Compiled} {fresh : Machine}
    (accepted : compile document = .ok compiled) (tame : document.IsTame)
    (short : compiled.program.length < 2 ^ 53)
    (read : Settings.ofTable document.settings = .ok settings)
    (created : Machine.create compiled.program Registry.quest = .ok fresh)
    (random : Machine.Random) (values : List (String × Value)) :
    Stage document settings ({ fresh with random }.withContext values) :=
  ⟨.of_compile accepted tame.isOrderly short read created random values, tame⟩

variable {start : Machine} (stage : Stage document settings start) {offset : Nat}

include stage

/-- A request for a choice is followed by a jump. -/
theorem after_request (here : start.program.get? offset = some (.invoke "getResponse")) :
    start.program.get? (offset + 1) = some (.invoke "goto") := by
  rw [Program.get?, stage.laid.instructions] at here
  obtain ⟨before, after, split, rfl⟩ :=
    control_split (fun step member => (script_tame stage.tame step member).leaves
      (by simp [controlNatives])) here
  obtain ⟨rest, rfl⟩ := script_paired.after_request split
  have next := stage.get?_of_split (before ++ [.invoke "getResponse"]) rest
    (by simpa [Step.invoke] using split)
  simpa [Step.code, Step.invoke] using next

variable (site : Site document)

/-- No label leads into the steps of an option. -/
theorem option_label_outside {label : String}
    (labelled : start.program.label? label = some offset) :
    offset ≤ site.start settings ∨ site.stop settings ≤ offset := by
  refine stage.label_outside _ _ _ site.script_eq (fun step member => ?_) labelled
  have in_script : step ∈ script settings document := by simp [site.script_eq, member]
  exact (script_tame stage.tame step in_script).labels_eq_nil fun label span same =>
    site.steps_define_none label span (same ▸ member)

/-- No choice is asked for within the steps of an option. -/
theorem request_outside (here : start.program.get? offset = some (.invoke "getResponse")) :
    offset < site.start settings ∨ site.stop settings ≤ offset := by
  rw [Program.get?, stage.laid.instructions] at here
  exact control_outside (fun step member => (script_tame stage.tame step member).leaves
    (by simp [controlNatives])) site.script_eq site.steps_no_request here

end Stage

end Gamebook.Compile
