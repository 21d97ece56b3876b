import Gamebook.Proofs.Compile.Site

/-!
# Outlines

Most steps of a script put in an instruction, which cannot fail.  The outline of a document keeps
the others in their order: the labels of the states, the code of the contents, what is refused as a
precondition, and the labels that are asked for.
-/

namespace Gamebook

/-- The code of a content. -/
def Story.Content.code? : Story.Content → Option String
  | .text _ => none
  | .code source _ => some source
  | .fence language source span =>
    if (Story.Content.fence language source span).isComment then none else some source

/-- The contents of a document in order. -/
def Story.Document.contents (document : Story.Document) : List Story.Content :=
  document.states.flatMap fun state =>
    state.body ++ state.choices.flatMap fun choice => choice.preconditions ++ choice.effects

namespace Compile

open Story (Choice Content Document Settings State)

variable {settings : Settings}

/-- Whether a step does more than putting in an instruction or giving a warning. -/
def Step.isNote : Step → Bool
  | .emit _ | .warn _ => false
  | _ => true

/-- The steps that do more than putting in an instruction or giving a warning, in order. -/
def notesOf (steps : List Step) : List Step :=
  steps.filter Step.isNote

/-! ## The outline of a document -/

/-- The code of a content. -/
def contentNotes (content : Content) : List Step :=
  content.code?.toList.map fun code => .splice code content.span

/-- The label that the link of an option names. -/
def linkNotes (choice : Choice) : List Step :=
  choice.link.toList.map fun link => .refer (linkTarget link) (some choice.span)

/-- The preconditions of an option, its effects and its link. -/
def choiceNotes (choice : Choice) : List Step :=
  choice.preconditions.map preconditionStep ++
    (choice.effects.flatMap contentNotes ++ linkNotes choice)

/-- The label of a state, its body, the label of its options, and these. -/
def stateNotes (state : State) : List Step :=
  .define state.name state.span :: (state.body.flatMap contentNotes ++
    .define (optionsLabel state.name) state.span :: state.choices.flatMap choiceNotes)

/-- The state in which the story starts, if it is named, and the states in order. -/
def outline (settings : Settings) (document : Document) : List Step :=
  (settings.initialState.toList.map fun state => .refer state none) ++
    document.states.flatMap stateNotes

/-! ## The notes of a script -/

@[simp]
theorem notesOf_nil : notesOf [] = [] := rfl

@[simp]
theorem notesOf_cons (step : Step) (steps : List Step) :
    notesOf (step :: steps) = if step.isNote then step :: notesOf steps else notesOf steps :=
  List.filter_cons

@[simp]
theorem notesOf_append (first second : List Step) :
    notesOf (first ++ second) = notesOf first ++ notesOf second :=
  List.filter_append first second

theorem notesOf_flatMap {α : Type} (items : List α) (steps : α → List Step) :
    notesOf (items.flatMap steps) = items.flatMap fun item => notesOf (steps item) :=
  List.filter_flatMap

theorem Warns.notes {steps : List Step} (warns : Warns steps) : notesOf steps = [] := by
  refine List.filter_eq_nil_iff.mpr fun step member => ?_
  obtain ⟨warning, rfl⟩ := warns step member
  simp [Step.isNote]

theorem notesOf_contentSteps (content : Content) :
    notesOf (contentSteps settings content) = contentNotes content := by
  cases content with
  | text | code => rfl
  | fence =>
      rw [contentSteps, contentNotes, Content.code?]
      split <;> rfl

theorem notesOf_contents (contents : List Content) :
    notesOf (contents.flatMap (contentSteps settings)) = contents.flatMap contentNotes := by
  simp only [notesOf_flatMap, notesOf_contentSteps]

theorem notesOf_preconditions (preconditions : List Content) :
    notesOf (preconditions.map preconditionStep) = preconditions.map preconditionStep := by
  refine List.filter_eq_self.mpr fun step member => ?_
  obtain ⟨content, -, rfl⟩ := List.mem_map.mp member
  cases content <;> rfl

theorem notesOf_leaveSteps (state : String) (choice : Choice) :
    notesOf (leaveSteps settings state choice) = linkNotes choice := by
  rw [leaveSteps, linkNotes]
  split
  · rename_i link found
    simp [found, Step.isNote, Step.push, Step.invoke]
  · rename_i found
    split <;> simp [found, Step.isNote, Step.push, Step.invoke]

theorem notesOf_effectSteps (state : String) (choice : Choice) (flag : Option String) :
    notesOf (effectSteps settings state choice flag) =
      choice.effects.flatMap contentNotes ++ linkNotes choice := by
  cases flag <;>
    simp [effectSteps, Step.isNote, Step.push, Step.invoke, notesOf_contents, notesOf_leaveSteps]

theorem notesOf_guardSteps (preconditions : List Content) (steps : List Step) :
    notesOf (guardSteps preconditions steps) =
      preconditions.map preconditionStep ++ notesOf steps := by
  rw [guardSteps]
  split
  · rename_i unguarded
    simp [List.isEmpty_iff.mp unguarded]
  · simp [block, notesOf_preconditions, Step.isNote, Step.invoke]

theorem notesOf_onceSteps (flag : Option String) (steps : List Step) :
    notesOf (onceSteps flag steps) = notesOf steps := by
  cases flag <;> simp [onceSteps, block, Step.isNote, Step.push, Step.invoke]

theorem notesOf_choiceSteps (state : String) (choice : Choice) (flag : Option String) :
    notesOf (choiceSteps settings state choice flag) = choiceNotes choice := by
  simp [choiceSteps, choiceNotes, offerSteps, block, (directiveWarnings_warns choice).notes,
    (titleWarnings_warns choice).notes, notesOf_onceSteps, notesOf_guardSteps,
    notesOf_effectSteps, Step.isNote, Step.push, Step.invoke]

theorem notesOf_choicesSteps (state : String) (index : Nat) (choices : List Choice) :
    notesOf (choicesSteps settings state index choices) = choices.flatMap choiceNotes := by
  induction choices generalizing index with
  | nil => rfl
  | cons choice rest induction =>
      rw [choicesSteps_cons, notesOf_append, notesOf_choiceSteps, induction, List.flatMap_cons]

theorem notesOf_statesSteps (index : Nat) (states : List State) :
    notesOf (statesSteps settings index states) = states.flatMap stateNotes := by
  induction states generalizing index with
  | nil => rfl
  | cons state rest induction =>
      rw [statesSteps, notesOf_append, induction, List.flatMap_cons]
      simp [stateSteps, stateNotes, Step.isNote, Step.invoke, notesOf_contents,
        notesOf_choicesSteps]

theorem notesOf_preambleSteps :
    notesOf (preambleSteps settings) =
      settings.initialState.toList.map fun state => .refer state none := by
  have seeds : notesOf (settings.initialContext.entries.flatMap fun entry =>
      [.emit (.push entry.2), .push entry.1, .invoke "setContext"]) = [] := by
    simp [notesOf_flatMap, Step.isNote, Step.push, Step.invoke]
  rw [preambleSteps, notesOf_append, seeds, List.nil_append]
  cases settings.initialState <;> simp [Step.isNote, Step.push, Step.invoke]

/-- The outline of a document is what is of note in its script. -/
theorem notesOf_script (settings : Settings) (document : Document) :
    notesOf (script settings document) = outline settings document := by
  simp [script, outline, (whitespaceWarnings_warns settings).notes, notesOf_preambleSteps,
    notesOf_statesSteps, Step.isNote, Step.invoke]

end Compile

end Gamebook
