import Gamebook.Proofs.Compile.Acceptance
import Gamebook.Proofs.Story.Places

/-!
# Places of errors and warnings

Every error and every warning of the compiler is about a state, an option or a content of the
document, and tells where this stands.  A document that has been read from a source therefore gives
no error and no warning about bytes outside of the source.
-/

namespace Gamebook

open Text (Span)

namespace Compile

open Story (Choice Content Document Settings State)

variable {settings : Settings} {document : Document}

/-! ## Errors -/

/-- The places that a step tells if it is at fault. -/
def Step.spans : Step → List Span
  | .define _ span | .splice _ span | .refuse span => [span]
  | .refer _ span => span.toList
  | .emit _ | .warn _ => []

/-- What is wrong with a step is wrong at its place. -/
theorem Step.span_of_fault {step : Step} {earlier : List String} {error : Error} {span : Span}
    (fault : step.fault? earlier = some error) (told : error.span? = some span) :
    span ∈ step.spans := by
  cases step with
  | define label place =>
      rw [fault?] at fault
      split at fault
      · cases fault
        cases told
        exact List.mem_cons_self
      · cases fault
  | splice code place =>
      rw [fault?] at fault
      split at fault
      · cases fault
        cases told
        exact List.mem_cons_self
      · obtain ⟨label, -, rfl⟩ := Option.map_eq_some_iff.mp fault
        cases told
        exact List.mem_cons_self
  | refuse place =>
      cases fault
      cases told
      exact List.mem_cons_self
  | emit | refer | warn => cases fault

theorem spans_of_contentNotes {content : Content} {step : Step}
    (member : step ∈ contentNotes content) : step.spans = [content.span] := by
  obtain ⟨code, -, rfl⟩ := List.mem_map.mp member
  rfl

theorem spans_of_preconditionStep (content : Content) :
    (preconditionStep content).spans = [content.span] := by
  cases content <;> rfl

section Members

variable {state : State} {choice : Choice} {content : Content} {span : Span}

theorem mem_spans_of_state (member : state ∈ document.states) (told : span ∈ state.spans) :
    span ∈ document.spans :=
  List.mem_flatMap.mpr ⟨state, member, told⟩

theorem mem_spans_of_body (member : content ∈ state.body) : content.span ∈ state.spans :=
  List.mem_cons_of_mem _ (List.mem_append_left _ (List.mem_map_of_mem member))

theorem mem_spans_of_choice (member : choice ∈ state.choices)
    (told : span ∈ choice.span :: (choice.preconditions ++ choice.effects).map Content.span) :
    span ∈ state.spans :=
  List.mem_cons_of_mem _ (List.mem_append_right _ (List.mem_flatMap.mpr ⟨choice, member, told⟩))

end Members

/-- The notes of an option tell the places of the option and of what is in it. -/
theorem mem_spans_of_choiceNotes {choice : Choice} {step : Step}
    (member : step ∈ choiceNotes choice) : ∀ span ∈ step.spans,
      span ∈ choice.span :: (choice.preconditions ++ choice.effects).map Content.span := by
  intro span told
  rw [choiceNotes, List.mem_append, List.mem_append] at member
  rcases member with guard | effect | link
  · obtain ⟨content, among, rfl⟩ := List.mem_map.mp guard
    rw [spans_of_preconditionStep, List.mem_singleton] at told
    subst told
    exact List.mem_cons_of_mem _ (List.mem_map_of_mem (List.mem_append_left _ among))
  · obtain ⟨content, among, noted⟩ := List.mem_flatMap.mp effect
    rw [spans_of_contentNotes noted, List.mem_singleton] at told
    subst told
    exact List.mem_cons_of_mem _ (List.mem_map_of_mem (List.mem_append_right _ among))
  · obtain ⟨target, -, rfl⟩ := List.mem_map.mp link
    obtain rfl := List.mem_singleton.mp told
    exact List.mem_cons_self

/-- The notes of a state tell the places of the state and of what is in it. -/
theorem mem_spans_of_stateNotes {state : State} {step : Step} (member : step ∈ stateNotes state) :
    ∀ span ∈ step.spans, span ∈ state.spans := by
  intro span told
  rw [stateNotes, List.mem_cons, List.mem_append, List.mem_cons] at member
  rcases member with rfl | content | rfl | choice
  · obtain rfl := List.mem_singleton.mp told
    exact List.mem_cons_self
  · obtain ⟨content, among, noted⟩ := List.mem_flatMap.mp content
    rw [spans_of_contentNotes noted, List.mem_singleton] at told
    subst told
    exact mem_spans_of_body among
  · obtain rfl := List.mem_singleton.mp told
    exact List.mem_cons_self
  · obtain ⟨choice, among, noted⟩ := List.mem_flatMap.mp choice
    exact mem_spans_of_choice among (mem_spans_of_choiceNotes noted span told)

/-- The places that the outline of a document tells are places of the document. -/
theorem mem_spans_of_outline {step : Step} (member : step ∈ outline settings document) :
    ∀ span ∈ step.spans, span ∈ document.spans := by
  intro span told
  rcases List.mem_append.mp member with start | noted
  · obtain ⟨state, -, rfl⟩ := List.mem_map.mp start
    cases told
  · obtain ⟨state, among, noted⟩ := List.mem_flatMap.mp noted
    exact mem_spans_of_state among (mem_spans_of_stateNotes noted span told)

/-- An error tells a place of the document, if any. -/
theorem span_of_error {error : Error} {span : Span} (failed : compile document = .error error)
    (told : error.span? = some span) : span ∈ document.spans := by
  cases compile_error_iff.mp failed with
  | settings unread => cases told
  | document read faulty =>
      cases faulty with
      | step first clean fault =>
          apply mem_spans_of_outline
          · rw [first]
            exact List.mem_append_right _ List.mem_cons_self
          · exact Step.span_of_fault fault told
      | link clean first earlier unknown =>
          cases told
          rw [← referencesOf_outline] at first
          have asked := first ▸ List.mem_append_right _ List.mem_cons_self
          obtain ⟨step, member, refers⟩ := List.mem_filterMap.mp asked
          apply mem_spans_of_outline member
          cases step with
          | refer label place =>
              cases refers
              exact List.mem_singleton_self span
          | _ => cases refers
      | braces clean links unpaired => cases told

/-! ## Warnings -/

theorem warningsOf_eq_nil {steps : List Step} (none : ∀ step ∈ steps, step.warning? = none) :
    warningsOf steps = [] :=
  List.filterMap_eq_nil_iff.mpr none

theorem warningsOf_flatMap {α : Type} (items : List α) (steps : α → List Step) :
    warningsOf (items.flatMap steps) = items.flatMap fun item => warningsOf (steps item) :=
  List.filterMap_flatMap

theorem warningsOf_contentSteps (content : Content) :
    warningsOf (contentSteps settings content) = [] := by
  cases content with
  | text | code => rfl
  | fence =>
      rw [contentSteps]
      split <;> rfl

theorem warningsOf_contents (contents : List Content) :
    warningsOf (contents.flatMap (contentSteps settings)) = [] := by
  rw [warningsOf_flatMap, List.flatMap_eq_nil_iff]
  exact fun content _ => warningsOf_contentSteps content

theorem warningsOf_leaveSteps (state : String) (choice : Choice) :
    warningsOf (leaveSteps settings state choice) = [] := by
  rw [leaveSteps]
  split
  · rfl
  · split <;> rfl

theorem warningsOf_effectSteps (state : String) (choice : Choice) (flag : Option String) :
    warningsOf (effectSteps settings state choice flag) = [] := by
  cases flag <;>
    simp [effectSteps, warningsOf_contents, warningsOf_leaveSteps, Step.warning?, Step.push,
      Step.invoke]

theorem warningsOf_block (steps : List Step) : warningsOf (block steps) = warningsOf steps := by
  simp [block, Step.warning?]

theorem warningsOf_guardSteps (preconditions : List Content) (steps : List Step) :
    warningsOf (guardSteps preconditions steps) = warningsOf steps := by
  have guards : warningsOf (preconditions.map preconditionStep) = [] := by
    apply warningsOf_eq_nil
    intro step member
    obtain ⟨content, -, rfl⟩ := List.mem_map.mp member
    cases content <;> rfl
  rw [guardSteps]
  split
  · rfl
  · rw [warningsOf_append, guards, warningsOf_cons, warningsOf_block]
    rfl

theorem warningsOf_onceSteps (flag : Option String) (steps : List Step) :
    warningsOf (onceSteps flag steps) = warningsOf steps := by
  cases flag with
  | none => rfl
  | some flag => simp [onceSteps, warningsOf_block, Step.warning?, Step.push, Step.invoke]

/-- The warnings about an option: about its directives, and about its title. -/
def choiceWarnings (choice : Choice) : List Warning :=
  warningsOf (directiveWarnings choice) ++ warningsOf (titleWarnings choice)

theorem warningsOf_choiceSteps (state : String) (choice : Choice) (flag : Option String) :
    warningsOf (choiceSteps settings state choice flag) = choiceWarnings choice := by
  simp [choiceSteps, choiceWarnings, offerSteps, warningsOf_onceSteps, warningsOf_guardSteps,
    warningsOf_block, warningsOf_effectSteps, Step.warning?, Step.push, Step.invoke]

theorem warningsOf_choicesSteps (state : String) (index : Nat) (choices : List Choice) :
    warningsOf (choicesSteps settings state index choices) = choices.flatMap choiceWarnings := by
  induction choices generalizing index with
  | nil => rfl
  | cons choice rest induction =>
      rw [choicesSteps_cons, warningsOf_append, warningsOf_choiceSteps, induction,
        List.flatMap_cons]

theorem warningsOf_statesSteps (index : Nat) (states : List State) :
    warningsOf (statesSteps settings index states) =
      states.flatMap fun state => state.choices.flatMap choiceWarnings := by
  induction states generalizing index with
  | nil => rfl
  | cons state rest induction =>
      rw [statesSteps, warningsOf_append, induction, List.flatMap_cons]
      simp [stateSteps, warningsOf_contents, warningsOf_choicesSteps, Step.warning?, Step.invoke]

theorem warningsOf_preambleSteps : warningsOf (preambleSteps settings) = [] := by
  rw [preambleSteps, warningsOf_append, warningsOf_flatMap]
  cases settings.initialState <;> simp [Step.warning?, Step.push, Step.invoke]

/-- The warnings about a document: about the treatment of white space, and about the options in
order. -/
theorem warningsOf_script (settings : Settings) (document : Document) :
    warningsOf (script settings document) = warningsOf (whitespaceWarnings settings) ++
      document.states.flatMap fun state => state.choices.flatMap choiceWarnings := by
  simp [script, warningsOf_preambleSteps, warningsOf_statesSteps, Step.warning?, Step.invoke]

/-- A compiled document has been given the warnings of its script. -/
theorem compile_warnings {compiled : Compiled} (accepted : compile document = .ok compiled) :
    ∃ settings, Settings.ofTable document.settings = .ok settings ∧
      compiled.warnings = warningsOf (script settings document) := by
  rw [compile] at accepted
  cases read : Settings.ofTable document.settings with
  | error error =>
      rw [read] at accepted
      cases accepted
  | ok settings =>
      simp only [read] at accepted
      cases ran : Assembly.empty.run (script settings document) with
      | error error =>
          rw [ran] at accepted
          cases accepted
      | ok assembly =>
          rw [ran] at accepted
          obtain ⟨-, -, warnings, -⟩ := Assembly.finish_ok accepted
          exact ⟨settings, rfl, warnings.trans (Assembly.run_warnings ran)⟩

theorem mem_warningsOf_iff {steps : List Step} {warning : Warning} :
    warning ∈ warningsOf steps ↔ .warn warning ∈ steps := by
  rw [warningsOf, List.mem_filterMap]
  constructor
  · rintro ⟨step, member, given⟩
    cases step <;> cases given
    exact member
  · intro member
    exact ⟨_, member, rfl⟩

theorem span_of_choiceWarning {choice : Choice} {warning : Warning}
    (member : warning ∈ choiceWarnings choice) : warning.span = some choice.span := by
  rw [choiceWarnings, List.mem_append, mem_warningsOf_iff, mem_warningsOf_iff] at member
  rcases member with directive | title
  · obtain ⟨directive, -, same⟩ := List.mem_map.mp directive
    cases same
    rfl
  · rw [titleWarnings] at title
    split at title
    · split at title
      · cases List.mem_singleton.mp title
        rfl
      · cases title
    · cases List.mem_singleton.mp title
      rfl

theorem span_of_whitespaceWarning {warning : Warning}
    (member : warning ∈ warningsOf (whitespaceWarnings settings)) : warning.span = none := by
  rw [mem_warningsOf_iff, whitespaceWarnings] at member
  split at member
  · cases List.mem_singleton.mp member
    rfl
  · cases member

/-- A warning tells a place of the document, if any. -/
theorem span_of_warning {compiled : Compiled} {warning : Warning} {span : Span}
    (accepted : compile document = .ok compiled) (member : warning ∈ compiled.warnings)
    (told : warning.span = some span) : span ∈ document.spans := by
  obtain ⟨settings, -, given⟩ := compile_warnings accepted
  rw [given, warningsOf_script] at member
  rcases List.mem_append.mp member with blanks | options
  · rw [span_of_whitespaceWarning blanks] at told
    cases told
  · obtain ⟨state, in_document, warned⟩ := List.mem_flatMap.mp options
    obtain ⟨choice, in_state, warned⟩ := List.mem_flatMap.mp warned
    rw [span_of_choiceWarning warned, Option.some.injEq] at told
    subst told
    exact mem_spans_of_state in_document (mem_spans_of_choice in_state List.mem_cons_self)

/-! ## Sources -/

section Sources

open Markdown (Node)
open Story (Section chapters sections whole)

variable {source : String} {nodes : List Node}

/-- The places that an error tells. -/
def SourceError.spans : SourceError → List Span
  | .unreadable errors => errors.map Story.EntryError.span
  | .compile error => error.span?.toList

/-- The errors and the warnings of a source that is well nested tell places in it. -/
theorem places_of_compileSource (regular : Node.areRegular nodes = true)
    (fit : Node.allFit 0 source.utf8ByteSize nodes = true)
    (delivered : Markdown.events source = Node.eventsAll nodes) :
    (∀ error, compileSource source = .error error →
      ∀ span ∈ error.spans, span.LiesIn (whole source)) ∧
    ∀ document compiled, compileSource source = .ok (document, compiled) →
      ∀ warning ∈ compiled.warnings, ∀ span, warning.span = some span →
        span.LiesIn (whole source) := by
  have reads : Document.read source = Document.ofEvents source (Node.eventsAll nodes) := by
    rw [Document.read, delivered]
  rw [compileSource, reads]
  cases read : Document.ofEvents source (Node.eventsAll nodes) with
  | error errors =>
      constructor
      · rintro _ ⟨⟩ span told
        obtain ⟨error, member, rfl⟩ := List.mem_map.mp told
        exact Document.entryErrors_lie regular fit read error member
      · rintro document compiled ⟨⟩
  | ok document =>
      have lies := Document.spans_lie regular fit read
      cases outcome : compile document with
      | error error =>
          simp only [outcome]
          constructor
          · rintro _ ⟨⟩ span told
            exact lies span (span_of_error outcome (Option.mem_toList.mp told))
          · rintro document compiled ⟨⟩
      | ok compiled =>
          simp only [outcome]
          constructor
          · rintro _ ⟨⟩
          · rintro _ _ ⟨⟩ warning member span told
            exact lies span (span_of_warning outcome member told)

/-- The sections of a well-nested text stand alone.  What is in front of the first heading is in
none of them.  Each is what its chapter alone is read as, but that it ends where the next chapter
starts.  The states of the document are those of the sections without settings, in order; they lie
one behind the other, and what is in them stands in them.  So errors and warnings tell places in the
source. -/
theorem sections_stand_alone (regular : Node.areRegular nodes = true)
    (fit : Node.allFit 0 source.utf8ByteSize nodes = true) :
    sections source (Node.eventsAll (nodes.dropWhile fun node => !node.isHeading)) =
        sections source (Node.eventsAll nodes) ∧
      List.Forall₂ (Story.Chapter.Reads source) (chapters source.utf8ByteSize nodes)
        (sections source (Node.eventsAll nodes)) ∧
      (∀ document, Document.ofEvents source (Node.eventsAll nodes) = .ok document →
        document.states = ((sections source (Node.eventsAll nodes)).filter
          fun part => !part.isSettings).map Section.state ∧
        document.states.Pairwise (fun first second => first.span.stop ≤ second.span.start) ∧
        ∀ state ∈ document.states, state.span.LiesIn (whole source) ∧ state.Stands source) ∧
      (Markdown.events source = Node.eventsAll nodes →
        (∀ error, compileSource source = .error error →
          ∀ span ∈ error.spans, span.LiesIn (whole source)) ∧
        ∀ document compiled, compileSource source = .ok (document, compiled) →
          ∀ warning ∈ compiled.warnings, ∀ span, warning.span = some span →
            span.LiesIn (whole source)) := by
  refine ⟨Story.sections_dropWhile regular, Story.sections_read regular, ?_, ?_⟩
  · intro document read
    obtain ⟨ordered, stand⟩ := Document.states_stand regular fit read
    exact ⟨Document.states_ofSections read, ordered, stand⟩
  · intro delivered
    exact places_of_compileSource regular fit delivered

/-- A text in front of a heading, an option with a directive without a meaning, and a further
heading. -/
def prologue : String := "Hi\n\n# A\n\n- \x60@x\x60 Go\n\n# B\n"

/-- The nodes of this source. -/
def prologueNodes : List Node :=
  [.element .paragraph ⟨0, 3⟩ [.leaf (.text "Hi") ⟨0, 2⟩],
    .element (.heading 1) ⟨4, 8⟩ [.leaf (.text "A") ⟨6, 7⟩],
    .element (.list none) ⟨9, 20⟩
      [.element .item ⟨9, 20⟩ [.leaf (.code "@x") ⟨11, 15⟩, .leaf (.text " Go") ⟨15, 18⟩]],
    .element (.heading 1) ⟨20, 24⟩ [.leaf (.text "B") ⟨22, 23⟩]]

/-- The warning about the option in it tells a place in the source. -/
theorem sections_stand_alone_prologue :
    Node.areRegular prologueNodes = true ∧
      Node.allFit 0 prologue.utf8ByteSize prologueNodes = true ∧
      Markdown.events prologue = Node.eventsAll prologueNodes ∧
      (chapters prologue.utf8ByteSize prologueNodes).map Story.Chapter.span =
        [⟨4, 20⟩, ⟨20, 24⟩] ∧
      List.Forall₂ (Story.Chapter.Reads prologue) (chapters prologue.utf8ByteSize prologueNodes)
        (sections prologue (Node.eventsAll prologueNodes)) ∧
      ∀ document compiled, compileSource prologue = .ok (document, compiled) →
        ∀ warning ∈ compiled.warnings, ∀ span, warning.span = some span →
          span.LiesIn (whole prologue) := by
  have regular : Node.areRegular prologueNodes = true := by decide
  have fit : Node.allFit 0 prologue.utf8ByteSize prologueNodes = true := by decide
  have delivered : Markdown.events prologue = Node.eventsAll prologueNodes := by decide +kernel
  obtain ⟨-, reads, -, places⟩ := sections_stand_alone regular fit
  exact ⟨regular, fit, delivered, by decide, reads, (places delivered).2⟩

end Sources

end Compile

end Gamebook
