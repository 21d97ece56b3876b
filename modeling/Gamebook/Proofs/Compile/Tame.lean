import Gamebook.Proofs.Compile.Outline

/-!
# Documents with orderly and with tame code

Code is orderly if its braces are balanced and it neither jumps nor queues options.  It is tame if,
on top of that, it neither declares labels nor asks for a choice.  In the program of a document
whose code is tame, all of that is done by the steps of the layout themselves.
-/

namespace Gamebook

open Compile (codeOf)

/-- The natives that orderly code leaves to the layout of a document. -/
def transferNatives : List String := ["goto", "response"]

/-- The natives that tame code leaves to the layout of a document. -/
def controlNatives : List String := ["goto", "response", "getResponse"]

/-- A fragment with balanced braces that leaves jumps and the queueing of options to the layout. -/
structure Code.Fragment.Orderly (fragment : Fragment) : Prop where
  balanced : Balanced fragment.instructions
  no_transfer : ∀ name ∈ transferNatives, .invoke name ∉ fragment.instructions

/-- A fragment with balanced braces that declares no labels and leaves control to the layout. -/
structure Code.Fragment.Tame (fragment : Code.Fragment) : Prop where
  balanced : Balanced fragment.instructions
  no_labels : fragment.labels.entries = []
  no_control : ∀ name ∈ controlNatives, .invoke name ∉ fragment.instructions

theorem Code.Fragment.Tame.orderly {fragment : Fragment} (tame : fragment.Tame) :
    fragment.Orderly :=
  ⟨tame.balanced, fun name reserved => tame.no_control name (by
    simp only [transferNatives, controlNatives, List.mem_cons, List.not_mem_nil, or_false] at *
    exact reserved.imp_right Or.inl)⟩

/-- A document all of whose code is orderly. -/
def Story.Document.IsOrderly (document : Story.Document) : Prop :=
  ∀ content ∈ document.contents, ∀ code, content.code? = some code →
    ∀ fragment, Code.compile code = .ok fragment → fragment.Orderly

/-- Whatever fragment code stands for is tame. -/
def Code.IsTame (code : String) : Prop :=
  ∀ fragment, Code.compile code = .ok fragment → fragment.Tame

/-- A document all of whose code is tame. -/
def Story.Document.IsTame (document : Story.Document) : Prop :=
  ∀ content ∈ document.contents, ∀ code, content.code? = some code → Code.IsTame code

theorem Story.Document.IsTame.isOrderly {document : Story.Document} (tame : document.IsTame) :
    document.IsOrderly := fun content member code found fragment compiled =>
  (tame content member code found fragment compiled).orderly

namespace Compile

open Story (Choice Content Document Settings State)

variable {settings : Settings} {document : Document}

/-! ## Steps that leave natives to the layout -/

/-- A step that puts in no code which calls a native. -/
def Step.Leaves (name : String) : Step → Prop
  | .splice code _ =>
    ∀ fragment, Code.compile code = .ok fragment → .invoke name ∉ fragment.instructions
  | _ => True

/-- A native that code does not call is called by a step of its own. -/
theorem Step.Leaves.invokes {name : String} {step : Step} (leaves : step.Leaves name) {shift : Nat}
    (found : step.code[shift]? = some (.invoke name)) : shift = 0 ∧ step = .invoke name := by
  cases step with
  | emit instruction =>
      cases shift with
      | zero =>
          simp only [Step.code, List.getElem?_cons_zero, Option.some.injEq] at found
          exact ⟨rfl, congrArg Step.emit found⟩
      | succ shift => simp [Step.code] at found
  | splice code span =>
      rw [Step.code] at found
      cases compiled : Code.compile code with
      | error error => simp [compiled] at found
      | ok fragment =>
          simp only [compiled] at found
          exact absurd (List.mem_of_getElem? found) (leaves fragment compiled)
  | _ => simp [Step.code] at found

/-- A step that puts in no code but tame one. -/
def Step.Tame : Step → Prop
  | .splice code _ => Code.IsTame code
  | _ => True

namespace Step.Tame

variable {step : Step}

/-- Only a definition defines labels. -/
theorem labels (tame : step.Tame) {label : String} {shift : Nat}
    (member : (label, shift) ∈ step.labels) : shift = 0 ∧ ∃ span, step = .define label span := by
  cases step with
  | define other span =>
      obtain ⟨rfl, rfl⟩ : label = other ∧ shift = 0 := by simpa [Step.labels] using member
      exact ⟨rfl, span, rfl⟩
  | splice code span =>
      rw [Step.labels] at member
      cases compiled : Code.compile code with
      | error error => simp [compiled] at member
      | ok fragment => simp [compiled, (tame fragment compiled).no_labels] at member
  | _ => simp [Step.labels] at member

theorem labels_eq_nil (tame : step.Tame) (no_label : ∀ label span, step ≠ .define label span) :
    step.labels = [] := by
  refine List.eq_nil_iff_forall_not_mem.mpr fun ⟨label, shift⟩ member => ?_
  obtain ⟨-, span, same⟩ := tame.labels member
  exact no_label label span same

theorem leaves (tame : step.Tame) {name : String} (reserved : name ∈ controlNatives) :
    step.Leaves name := by
  cases step with
  | splice code span =>
      exact fun fragment compiled => (tame fragment compiled).no_control name reserved
  | _ => trivial

end Step.Tame

/-- Where an instruction stands there is the step it comes from. -/
theorem code_split {steps : List Step} {offset : Nat} {instruction : Instruction}
    (found : (codeOf steps)[offset]? = some instruction) :
    ∃ before step after shift, steps = before ++ step :: after ∧
      step.code[shift]? = some instruction ∧ offset = (codeOf before).length + shift := by
  induction steps generalizing offset with
  | nil => simp at found
  | cons step rest induction =>
      rw [codeOf_cons] at found
      by_cases inside : offset < step.code.length
      · rw [List.getElem?_append_left inside] at found
        exact ⟨[], step, rest, offset, rfl, found, by simp⟩
      · rw [List.getElem?_append_right (by omega)] at found
        obtain ⟨before, later, after, shift, rfl, at_shift, same⟩ := induction found
        refine ⟨step :: before, later, after, shift, rfl, at_shift, ?_⟩
        simp only [codeOf_cons, List.length_append]
        omega

section Placing

variable {steps : List Step}

section Calls

variable {name : String} (leaves : ∀ step ∈ steps, step.Leaves name)

include leaves

/-- A native that is left to the layout is called by a step of its own. -/
theorem control_split {offset : Nat} (found : (codeOf steps)[offset]? = some (.invoke name)) :
    ∃ before after, steps = before ++ .invoke name :: after ∧ offset = (codeOf before).length := by
  obtain ⟨before, step, after, shift, split, at_shift, same⟩ := code_split found
  obtain ⟨rfl, rfl⟩ := (leaves step (by simp [split])).invokes at_shift
  exact ⟨before, after, split, same⟩

/-- A native that is left to the layout is called outside of steps that do not call it. -/
theorem control_outside {before between after : List Step} {offset : Nat}
    (split : steps = before ++ (between ++ after)) (calls_none : .invoke name ∉ between)
    (found : (codeOf steps)[offset]? = some (.invoke name)) :
    offset < (codeOf before).length ∨
      (codeOf before).length + (codeOf between).length ≤ offset := by
  obtain ⟨front, back, called, rfl⟩ := control_split leaves found
  rcases append_eq_append_cons (split.symm.trans called) with ⟨rest, rfl, -⟩ | ⟨rest, inner, rfl⟩
  · left
    simp [Step.code, Step.invoke]
  · rcases append_eq_append_cons inner with ⟨later, rfl, -⟩ | ⟨later, -, rfl⟩
    · simp at calls_none
    · right
      simp

end Calls

/-- Labels lie outside of steps that define none. -/
theorem defines_outside {before between after : List Step} {label : String} {offset : Nat}
    (split : steps = before ++ (between ++ after)) (no_labels : ∀ step ∈ between, step.labels = [])
    (defines : Defines steps label offset) :
    offset ≤ (codeOf before).length ∨
      (codeOf before).length + (codeOf between).length ≤ offset := by
  obtain ⟨front, step, back, shift, defined, member, rfl⟩ := defines
  have inside := Step.label_le member
  rcases append_eq_append_cons (split.symm.trans defined) with ⟨rest, rfl, -⟩ | ⟨rest, inner, rfl⟩
  · left
    simp only [codeOf_append, codeOf_cons, List.length_append]
    omega
  · rcases append_eq_append_cons inner with ⟨later, rfl, -⟩ | ⟨later, -, rfl⟩
    · simp [no_labels step (by simp)] at member
    · right
      simp only [codeOf_append, List.length_append]
      omega

end Placing

/-! ## Where code comes from -/

/-- The code that a step puts in. -/
def Step.spliced? : Step → Option String
  | .splice code _ => some code
  | _ => none

/-- The code that steps put in, in order. -/
def splicesOf (steps : List Step) : List String :=
  steps.filterMap Step.spliced?

/-- The code of a precondition, which is refused if it is of another kind. -/
def preconditionCode? : Content → Option String
  | .code source _ => some source
  | _ => none

/-- The code of an option. -/
def choiceCodes (choice : Choice) : List String :=
  choice.preconditions.filterMap preconditionCode? ++ choice.effects.filterMap Content.code?

/-- The code of a state. -/
def stateCodes (state : State) : List String :=
  state.body.filterMap Content.code? ++ state.choices.flatMap choiceCodes

section Splices

variable {steps : List Step}

@[simp]
theorem splicesOf_append (first second : List Step) :
    splicesOf (first ++ second) = splicesOf first ++ splicesOf second :=
  List.filterMap_append

@[simp]
theorem splicesOf_cons (step : Step) (steps : List Step) :
    splicesOf (step :: steps) = step.spliced?.toList ++ splicesOf steps := by
  rw [splicesOf, List.filterMap_cons]
  cases step.spliced? <;> rfl

@[simp]
theorem splicesOf_nil : splicesOf [] = [] := rfl

theorem mem_splicesOf_iff {code : String} :
    code ∈ splicesOf steps ↔ ∃ span, .splice code span ∈ steps := by
  rw [splicesOf, List.mem_filterMap]
  constructor
  · rintro ⟨step, member, spliced⟩
    cases step with
    | splice other span =>
        cases spliced
        exact ⟨span, member⟩
    | _ => cases spliced
  · rintro ⟨span, member⟩
    exact ⟨_, member, rfl⟩

/-- Code is put in by steps of note only. -/
theorem splicesOf_notesOf (steps : List Step) : splicesOf (notesOf steps) = splicesOf steps := by
  rw [splicesOf, notesOf, List.filterMap_filter, splicesOf]
  refine List.filterMap_congr fun step _ => ?_
  cases step <;> rfl

theorem splicesOf_contentNotes (contents : List Content) :
    splicesOf (contents.flatMap contentNotes) = contents.filterMap Content.code? := by
  induction contents with
  | nil => rfl
  | cons content rest induction =>
      rw [List.flatMap_cons, splicesOf_append, induction, List.filterMap_cons, contentNotes]
      cases content.code? <;> rfl

theorem splicesOf_preconditions (preconditions : List Content) :
    splicesOf (preconditions.map preconditionStep) = preconditions.filterMap preconditionCode? := by
  rw [splicesOf, List.filterMap_map]
  refine List.filterMap_congr fun content _ => ?_
  cases content <;> rfl

theorem splicesOf_choiceNotes (choice : Choice) :
    splicesOf (choiceNotes choice) = choiceCodes choice := by
  have link : splicesOf (linkNotes choice) = [] := by
    rw [linkNotes]
    cases choice.link <;> rfl
  rw [choiceNotes, splicesOf_append, splicesOf_append, splicesOf_preconditions,
    splicesOf_contentNotes, link, List.append_nil, choiceCodes]

theorem splicesOf_choices (choices : List Choice) :
    splicesOf (choices.flatMap choiceNotes) = choices.flatMap choiceCodes := by
  simp only [splicesOf, List.filterMap_flatMap]
  exact List.flatMap_congr fun choice _ => splicesOf_choiceNotes choice

theorem splicesOf_stateNotes (state : State) : splicesOf (stateNotes state) = stateCodes state := by
  simp [stateNotes, stateCodes, splicesOf_contentNotes, splicesOf_choices, Step.spliced?]

/-- The steps before the states push values, refer to a label, set the context and jump. -/
theorem preambleSteps_cases {step : Step} (member : step ∈ preambleSteps settings) :
    (∃ value, step = .emit (.push value)) ∨ (∃ label span, step = .refer label span) ∨
      step = .invoke "setContext" ∨ step = .invoke "goto" := by
  rw [preambleSteps, List.mem_append, List.mem_flatMap] at member
  rcases member with ⟨⟨key, value⟩, -, sets⟩ | goes
  · simp only [List.mem_cons, List.not_mem_nil, or_false] at sets
    rcases sets with rfl | rfl | rfl
    · exact Or.inl ⟨value, rfl⟩
    · exact Or.inl ⟨.string key, rfl⟩
    · exact Or.inr (Or.inr (Or.inl rfl))
  · split at goes
    · simp only [List.mem_cons, List.not_mem_nil, or_false] at goes
      rcases goes with rfl | rfl | rfl
      · exact Or.inr (Or.inl ⟨_, _, rfl⟩)
      · exact Or.inl ⟨.string _, rfl⟩
      · exact Or.inr (Or.inr (Or.inr rfl))
    · simp at goes

/-- A script puts in the code of its states in order. -/
theorem splicesOf_script :
    splicesOf (script settings document) = document.states.flatMap stateCodes := by
  have start :
      splicesOf (settings.initialState.toList.map fun state => .refer state none) = [] := by
    cases settings.initialState <;> rfl
  rw [← splicesOf_notesOf, notesOf_script, outline, splicesOf_append, start, List.nil_append,
    splicesOf, List.filterMap_flatMap]
  exact List.flatMap_congr fun state _ => splicesOf_stateNotes state

theorem code?_of_preconditionCode? {content : Content} {code : String}
    (found : preconditionCode? content = some code) : content.code? = some code := by
  cases content with
  | code => exact found
  | text | fence => cases found

theorem mem_contents_of_choice {state : State} {choice : Choice} {content : Content}
    (in_document : state ∈ document.states) (in_state : choice ∈ state.choices)
    (inside : content ∈ choice.preconditions ++ choice.effects) : content ∈ document.contents :=
  List.mem_flatMap.mpr ⟨state, in_document,
    List.mem_append_right _ (List.mem_flatMap.mpr ⟨choice, in_state, inside⟩)⟩

/-- All code of a script is code of the document. -/
theorem code?_of_script {code : String} {span : Text.Span}
    (member : .splice code span ∈ script settings document) :
    ∃ content ∈ document.contents, content.code? = some code := by
  have among := mem_splicesOf_iff.mpr ⟨span, member⟩
  rw [splicesOf_script] at among
  obtain ⟨state, in_document, among⟩ := List.mem_flatMap.mp among
  rcases List.mem_append.mp among with shown | offered
  · obtain ⟨content, inside, found⟩ := List.mem_filterMap.mp shown
    exact ⟨content, List.mem_flatMap.mpr ⟨state, in_document, List.mem_append_left _ inside⟩, found⟩
  · obtain ⟨choice, in_state, among⟩ := List.mem_flatMap.mp offered
    rcases List.mem_append.mp among with guard | effect
    · obtain ⟨content, inside, found⟩ := List.mem_filterMap.mp guard
      exact ⟨content, mem_contents_of_choice in_document in_state (List.mem_append_left _ inside),
        code?_of_preconditionCode? found⟩
    · obtain ⟨content, inside, found⟩ := List.mem_filterMap.mp effect
      exact ⟨content, mem_contents_of_choice in_document in_state (List.mem_append_right _ inside),
        found⟩

end Splices

/-- The script of a tame document consists of tame steps. -/
theorem script_tame (tame : document.IsTame) : ∀ step ∈ script settings document, step.Tame := by
  intro step member
  cases step with
  | splice code span =>
      obtain ⟨content, among, found⟩ := code?_of_script member
      exact tame content among code found
  | _ => trivial

/-- The code of an orderly document leaves jumps and the queueing of options to the layout. -/
theorem script_leaves (orderly : document.IsOrderly) {name : String}
    (reserved : name ∈ transferNatives) : ∀ step ∈ script settings document, step.Leaves name := by
  intro step member
  cases step with
  | splice code span =>
      obtain ⟨content, among, found⟩ := code?_of_script member
      exact fun fragment compiled =>
        (orderly content among code found fragment compiled).no_transfer name reserved
  | _ => trivial

end Compile

end Gamebook
