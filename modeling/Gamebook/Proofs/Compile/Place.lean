import Gamebook.Proofs.Compile.Stage
import Gamebook.Proofs.Compile.Telling

/-!
# Where scenes stand

A document without code is laid out with the natives of stories only, so a machine for its program
can be created.  Each scene stands at a place of the program: its texts behind the label of the
state, its options behind the label of the options, and behind them the request for a choice.
-/

namespace Gamebook

/-- A document without code. -/
structure Story.Document.IsPlain (document : Story.Document) : Prop where
  contents : ∀ content ∈ document.contents, content.code? = none
  unguarded : ∀ state ∈ document.states, ∀ choice ∈ state.choices, choice.preconditions = []

namespace Compile

open Story (Choice Content Document Settings State)

variable {settings : Settings} {document : Document} {name : String}

section Plain

variable {state : State} (plain : document.IsPlain) (member : state ∈ document.states)

include plain member

theorem plain_body : ∀ content ∈ state.body, content.code? = none := fun content within =>
  plain.contents content (List.mem_flatMap.mpr ⟨state, member, List.mem_append_left _ within⟩)

theorem plain_effects {choice : Choice} (among : choice ∈ state.choices) :
    ∀ content ∈ choice.effects, content.code? = none := fun content within =>
  plain.contents content (List.mem_flatMap.mpr ⟨state, member, List.mem_append_right _
    (List.mem_flatMap.mpr ⟨choice, among, List.mem_append_right _ within⟩)⟩)

end Plain

theorem tame_of_isPlain (plain : document.IsPlain) : document.IsTame := by
  intro content member code found
  simp [plain.contents content member] at found

/-! ## Natives -/

theorem known_of_contentSteps {content : Content}
    (member : .invoke name ∈ contentSteps settings content) :
    Registry.quest.contains name = true := by
  cases content with
  | text run =>
      simp only [contentSteps, Step.push, Step.invoke, List.mem_cons, Step.emit.injEq, reduceCtorEq,
        Instruction.invoke.injEq, List.not_mem_nil, false_or, or_false] at member
      subst member
      decide
  | code source span => simp [contentSteps, Step.invoke] at member
  | fence language source span =>
      rw [contentSteps] at member
      split at member <;> simp [Step.invoke] at member

theorem known_of_effectSteps {state : String} {choice : Choice} {flag : Option String}
    (member : .invoke name ∈ effectSteps settings state choice flag) :
    Registry.quest.contains name = true := by
  rw [effectSteps_eq, List.mem_append, List.mem_append] at member
  rcases member with remembers | tells | leaves
  · cases flag with
    | none => simp [rememberSteps] at remembers
    | some flag =>
        simp only [rememberSteps, Step.push, Step.invoke, List.mem_cons, Step.emit.injEq,
          reduceCtorEq, Instruction.invoke.injEq, List.not_mem_nil, false_or, or_false] at remembers
        subst remembers
        decide
  · obtain ⟨content, -, inside⟩ := List.mem_flatMap.mp tells
    exact known_of_contentSteps inside
  · rcases leaveSteps_eq settings state choice with ⟨asked, label, leave, refers, -⟩ | leave
    · rw [leave, List.mem_append] at leaves
      rcases leaves with asks | jumps
      · obtain ⟨_, _, same⟩ := refers _ asks
        simp [Step.invoke] at same
      · simp only [Step.push, Step.invoke, List.mem_cons, Step.emit.injEq, reduceCtorEq,
          Instruction.invoke.injEq, List.not_mem_nil, false_or, or_false] at jumps
        subst jumps
        decide
    · simp only [leave, Step.invoke, List.mem_singleton, Step.emit.injEq,
        Instruction.invoke.injEq] at leaves
      subst leaves
      decide

theorem known_of_choiceSteps {state : String} {choice : Choice} {flag : Option String}
    (member : .invoke name ∈ choiceSteps settings state choice flag) :
    Registry.quest.contains name = true := by
  have titles : Step.invoke name ∉ titleWarnings choice :=
    (titleWarnings_warns choice).not_mem (by simp [Step.invoke])
  have directives : Step.invoke name ∉ directiveWarnings choice :=
    (directiveWarnings_warns choice).not_mem (by simp [Step.invoke])
  rw [choiceSteps_eq] at member
  simp only [leadSteps, headerSteps, block, List.mem_append, List.mem_cons, titles, directives,
    List.not_mem_nil, or_false, false_or] at member
  rcases member with (once | guard) | header | (brace | effects | brace) | queues | trail
  · cases flag with
    | none => simp [onceLead] at once
    | some flag =>
        simp only [onceLead, Step.push, Step.invoke, List.mem_cons, Step.emit.injEq, reduceCtorEq,
          Instruction.invoke.injEq, List.not_mem_nil, false_or, or_false] at once
        rcases once with rfl | rfl <;> decide
  · rw [guardLead] at guard
    split at guard
    · simp at guard
    · simp only [List.mem_append, List.mem_map, List.mem_cons, List.not_mem_nil, or_false] at guard
      rcases guard with ⟨content, -, same⟩ | jumps | brace
      · cases content <;> simp [preconditionStep, Step.invoke] at same
      · cases jumps
        decide
      · simp [Step.invoke] at brace
  · simp only [Step.push, Step.invoke, Step.emit.injEq, reduceCtorEq, Instruction.invoke.injEq,
      false_or] at header
    rcases header with rfl | rfl <;> decide
  · simp [Step.invoke] at brace
  · exact known_of_effectSteps effects
  · simp [Step.invoke] at brace
  · cases queues
    decide
  · simp only [trailSteps, List.mem_append] at trail
    rcases trail with guard | once
    · split at guard <;> simp [Step.invoke] at guard
    · split at once <;> simp [Step.invoke] at once

theorem known_of_choicesSteps {state : String} {index : Nat} {choices : List Choice}
    (member : .invoke name ∈ choicesSteps settings state index choices) :
    Registry.quest.contains name = true := by
  induction choices generalizing index with
  | nil => simp [choicesSteps] at member
  | cons choice rest induction =>
      rw [choicesSteps_cons, List.mem_append] at member
      exact member.elim known_of_choiceSteps induction

theorem known_of_statesSteps {index : Nat} {states : List State}
    (member : .invoke name ∈ statesSteps settings index states) :
    Registry.quest.contains name = true := by
  induction states generalizing index with
  | nil => simp [statesSteps] at member
  | cons state rest induction =>
      rw [statesSteps, List.mem_append] at member
      rcases member with here | later
      · simp only [stateSteps, List.cons_append, List.mem_cons, List.mem_append, List.mem_flatMap,
          List.not_mem_nil, or_false] at here
        rcases here with defines | (⟨content, -, tells⟩ | defines | offers) | asks | jumps
        · simp [Step.invoke] at defines
        · exact known_of_contentSteps tells
        · simp [Step.invoke] at defines
        · exact known_of_choicesSteps offers
        · cases asks
          decide
        · cases jumps
          decide
      · exact induction later

/-- The layout of a document calls natives of stories only. -/
theorem known_of_script (member : .invoke name ∈ script settings document) :
    Registry.quest.contains name = true := by
  have warnings : Step.invoke name ∉ whitespaceWarnings settings :=
    (whitespaceWarnings_warns settings).not_mem (by simp [Step.invoke])
  simp only [script, List.mem_append, List.mem_cons, warnings, List.not_mem_nil, or_false,
    false_or] at member
  rcases member with (preamble | inside) | ends
  · rcases preambleSteps_cases preamble with ⟨value, same⟩ | ⟨label, span, same⟩ | same | same
    · cases value <;> cases same
    · cases same
    · cases same
      decide
    · cases same
      decide
  · exact known_of_statesSteps inside
  · cases ends
    decide

/-- A machine for the program of a plain document can be created. -/
theorem exists_create {program : Program} (plain : document.IsPlain)
    (laid : Laid (script settings document) program) :
    ∃ machine, Machine.create program Registry.quest = .ok machine := by
  have known : Machine.missingNative? program Registry.quest = none := by
    rw [Machine.missingNative?, List.find?_eq_none]
    intro name member
    simp only [Program.nativeNames, List.mem_eraseDups, List.mem_filterMap] at member
    obtain ⟨instruction, among, named⟩ := member
    obtain rfl : instruction = .invoke name := by
      cases instruction <;> simp_all [Instruction.native?]
    rw [laid.instructions] at among
    obtain ⟨step, in_script, inside⟩ := List.mem_flatMap.mp among
    cases step with
    | emit instruction =>
        obtain rfl := List.mem_singleton.mp inside
        simp [known_of_script in_script]
    | splice code span =>
        obtain ⟨content, in_document, found⟩ := code?_of_script in_script
        simp [plain.contents content in_document] at found
    | _ => simp [Step.code] at inside
  exact ⟨_, by rw [Machine.create, known]⟩

/-! ## Places -/

/-- The place of a state in a document. -/
structure Place (document : Document) where
  /-- The states before the state. -/
  earlier : List State
  /-- The state. -/
  state : State
  /-- The states behind it. -/
  later : List State
  /-- The states are those of the document. -/
  states : document.states = earlier ++ state :: later

namespace Place

variable (place : Place document)

theorem state_mem : place.state ∈ document.states := by
  simp [place.states]

/-- The number of options before the state that disappear. -/
def index : Nat :=
  onceCounts place.earlier

/-- The state and its options. -/
def scene : Scene :=
  ⟨place.state, offersOf place.index place.state.choices⟩

/-- The steps of a script before those of the state. -/
def front (settings : Settings) : List Step :=
  whitespaceWarnings settings ++ preambleSteps settings ++ statesSteps settings 0 place.earlier

/-- The steps of the state's body. -/
def body (settings : Settings) : List Step :=
  place.state.body.flatMap (contentSteps settings)

/-- The steps of options of the state. -/
def offering (settings : Settings) (choices : List Choice) : List Step :=
  choicesSteps settings place.state.name place.index choices

/-- The steps of a script behind those of the state. -/
def back (settings : Settings) : List Step :=
  statesSteps settings (place.index + onceCount place.state) place.later ++ [.invoke "exit"]

/-- The offset of the first instruction of the body. -/
def entry (settings : Settings) : Nat :=
  (codeOf (place.front settings)).length

/-- The offset behind the body. -/
def options (settings : Settings) : Nat :=
  place.entry settings + (codeOf (place.body settings)).length

/-- The offset of the request for a choice. -/
def asking (settings : Settings) : Nat :=
  place.options settings + (codeOf (place.offering settings place.state.choices)).length

/-- The steps of a script around a state. -/
theorem script_eq : script settings document = place.front settings ++
    (.define place.state.name place.state.span :: (place.body settings ++
      .define (optionsLabel place.state.name) place.state.span ::
        (place.offering settings place.state.choices ++
          (.invoke "getResponse" :: .invoke "goto" :: place.back settings)))) := by
  rw [script, place.states, statesSteps_append, statesSteps, stateSteps]
  simp only [front, body, offering, back, index, Nat.zero_add, List.append_assoc, List.cons_append,
    List.nil_append]

/-- The place of an option of the state. -/
def site {earlier later : List Choice} {choice : Choice}
    (choices : place.state.choices = earlier ++ choice :: later) : Site document :=
  ⟨place.earlier, place.state, place.later, earlier, choice, later, place.states, choices⟩

theorem site_start {earlier later : List Choice} {choice : Choice}
    (choices : place.state.choices = earlier ++ choice :: later) :
    (place.site choices).start settings =
      place.options settings + (codeOf (place.offering settings earlier)).length := by
  simp only [Site.start, Site.before, Site.within, site, options, entry, front, body, offering,
    index, codeOf_append, codeOf_cons, Step.code, List.nil_append, List.length_append]
  omega

end Place

theorem scenesOf_split {index : Nat} {states : List State} {scene : Scene}
    (member : scene ∈ scenesOf index states) : ∃ earlier state later,
      states = earlier ++ state :: later ∧
        scene = ⟨state, offersOf (index + onceCounts earlier) state.choices⟩ := by
  induction states generalizing index with
  | nil => simp [scenesOf] at member
  | cons state rest induction =>
      rcases List.mem_cons.mp member with rfl | behind
      · exact ⟨[], state, rest, rfl, by simp [onceCounts]⟩
      · obtain ⟨earlier, other, later, rfl, rfl⟩ := induction behind
        refine ⟨state :: earlier, other, later, rfl, ?_⟩
        simp only [onceCounts, List.map_cons, List.sum_cons, Nat.add_assoc]

/-- Every scene has a place. -/
theorem exists_place {scene : Scene} (member : scene ∈ scenes document) :
    ∃ place : Place document, place.scene = scene := by
  obtain ⟨earlier, state, later, states, rfl⟩ := scenesOf_split member
  refine ⟨⟨earlier, state, later, states⟩, ?_⟩
  simp [Place.scene, Place.index]

theorem scenesOf_states (index : Nat) (states : List State) :
    (scenesOf index states).map Scene.state = states := by
  induction states generalizing index with
  | nil => rfl
  | cons state rest induction => rw [scenesOf, List.map_cons, induction]

theorem scenes_states (document : Document) :
    (scenes document).map Scene.state = document.states :=
  scenesOf_states 0 document.states

/-! ## Labels -/

theorem label_of_contentSteps {content : Content} {label : String} {span : Text.Span} :
    .define label span ∉ contentSteps settings content := fun member =>
  (contentSteps_calm member).1 label span rfl

theorem label_of_choicesSteps {state label : String} {span : Text.Span} {index : Nat}
    {choices : List Choice} : .define label span ∉ choicesSteps settings state index choices := by
  induction choices generalizing index with
  | nil => simp [choicesSteps]
  | cons choice rest induction =>
      rw [choicesSteps_cons, List.mem_append, not_or]
      refine ⟨fun member => ?_, induction⟩
      rw [choiceSteps_eq] at member
      simp only [block, Step.invoke, List.mem_append, List.mem_cons, reduceCtorEq, List.not_mem_nil,
        or_false, false_or] at member
      rcases member with lead | header | effects | trail
      · exact (leadSteps_calm lead).1 label span rfl
      · exact (headerSteps_calm header).1 label span rfl
      · rcases effectSteps_calm effects with calm | same
        · exact calm.1 label span rfl
        · simp [Step.invoke] at same
      · exact (trailSteps_calm trail).1 label span rfl

theorem label_of_statesSteps {index : Nat} {states : List State} {label : String}
    {span : Text.Span} (member : .define label span ∈ statesSteps settings index states) :
    ∃ state ∈ states, label = state.name ∨ label = optionsLabel state.name := by
  induction states generalizing index with
  | nil => simp [statesSteps] at member
  | cons state rest induction =>
      rw [statesSteps, List.mem_append] at member
      rcases member with here | later
      · refine ⟨state, List.mem_cons_self, ?_⟩
        simp only [stateSteps, Step.invoke, List.cons_append, List.mem_cons, List.mem_append,
          List.mem_flatMap, label_of_contentSteps, label_of_choicesSteps, Step.define.injEq,
          reduceCtorEq, List.not_mem_nil, and_false, exists_false, or_false, false_or] at here
        exact here.imp And.left And.left
      · obtain ⟨other, among, labels⟩ := induction later
        exact ⟨other, List.mem_cons_of_mem _ among, labels⟩

/-- The labels of a script are those of its states. -/
theorem label_of_script {label : String} {span : Text.Span}
    (member : .define label span ∈ script settings document) :
    ∃ state ∈ document.states, label = state.name ∨ label = optionsLabel state.name := by
  have warnings : .define label span ∉ whitespaceWarnings settings :=
    (whitespaceWarnings_warns settings).not_mem (by simp)
  have preamble : .define label span ∉ preambleSteps settings := by
    intro inside
    rcases preambleSteps_cases inside with ⟨_, same⟩ | ⟨_, _, same⟩ | same | same <;> cases same
  simp only [script, List.mem_append, warnings, preamble, Step.invoke, List.mem_cons, reduceCtorEq,
    List.not_mem_nil, false_or, or_false] at member
  exact label_of_statesSteps member

namespace Laid

variable {program : Program} (laid : Laid (script settings document) program)
  (place : Place document)

include laid

/-- The body of a state, its options, and the request for a choice with the jump behind it. -/
theorem place_holds : program.Holds (place.entry settings)
    (codeOf (place.body settings) ++ (codeOf (place.offering settings place.state.choices) ++
      (.invoke "getResponse" :: .invoke "goto" :: codeOf (place.back settings)))) :=
  ⟨codeOf (place.front settings), [], by
    simp [laid.instructions, place.script_eq, Step.code, Step.invoke], rfl⟩

theorem label_of_define {before after : List Step} {label : String} {span : Text.Span}
    (split : script settings document = before ++ .define label span :: after) :
    program.label? label = some (codeOf before).length :=
  (laid.label label _).mpr
    ⟨before, .define label span, after, 0, split, by simp [Step.labels], rfl⟩

theorem state_label : program.label? place.state.name = some (place.entry settings) :=
  laid.label_of_define place.script_eq

theorem options_label :
    program.label? (optionsLabel place.state.name) = some (place.options settings) := by
  have split : script settings document = (place.front settings ++
      .define place.state.name place.state.span :: place.body settings) ++
        .define (optionsLabel place.state.name) place.state.span ::
          (place.offering settings place.state.choices ++
            (.invoke "getResponse" :: .invoke "goto" :: place.back settings)) := by
    rw [place.script_eq, List.append_assoc, List.cons_append]
  rw [laid.label_of_define split]
  simp [Place.options, Place.entry, Step.code]

end Laid

namespace Stage

variable {start : Machine} (stage : Stage document settings start) (place : Place document)

include stage

theorem body_holds : start.program.Holds (place.entry settings) (codeOf (place.body settings)) :=
  (stage.laid.place_holds place).left

theorem request : start.program.get? (place.asking settings) = some (.invoke "getResponse") :=
  (stage.laid.place_holds place).right.right.head

theorem asking_lt : place.asking settings < start.program.length := by
  have bound := (stage.laid.place_holds place).right.right.length_le
  simp only [List.length_cons, Place.asking, Place.options] at bound ⊢
  omega

end Stage

end Compile

end Gamebook
