import Gamebook.Proofs.Compile.Faults
import Gamebook.Proofs.Compile.Tame
import Gamebook.Proofs.Program.Braces

/-!
# What is compiled

A document is compiled exactly if its settings can be read, its preconditions are code, all of its
code has a meaning, no label is defined twice, every label that is asked for is defined, and the
braces of its instructions are balanced.  Otherwise the first of these that fails decides the error.
-/

namespace Gamebook.Compile

open Story (Choice Content Document Settings State)
open Text (Span)

variable {settings : Settings} {document : Document}

/-- The code of a document, in order. -/
def codesOf (document : Document) : List String :=
  document.states.flatMap stateCodes

/-- The labels that code declares. -/
def codeLabels (code : String) : List String :=
  match Code.compile code with
  | .ok fragment => fragment.labels.keys
  | .error _ => []

/-- The labels of a document: the names of its states, the labels of their options, and the labels
that its code declares. -/
def declared (document : Document) : List String :=
  document.states.map State.name ++
    (document.states.map (fun state => optionsLabel state.name) ++
      (codesOf document).flatMap codeLabels)

/-- The labels that a document asks for, in order: the state in which it starts and the targets of
its links. -/
def requested (settings : Settings) (document : Document) : List (String × Option Span) :=
  (settings.initialState.toList.map fun state => (state, none)) ++
    document.states.flatMap fun state => state.choices.flatMap fun choice =>
      choice.link.toList.map fun link => (linkTarget link, some choice.span)

/-- What it takes for a document with given settings to be compiled. -/
structure Compilable (settings : Settings) (document : Document) : Prop where
  preconditions : ∀ state ∈ document.states, ∀ choice ∈ state.choices,
    ∀ content ∈ choice.preconditions, ∃ code span, content = .code code span
  code : ∀ code ∈ codesOf document, ∃ fragment, Code.compile code = .ok fragment
  labels : (declared document).Nodup
  links : ∀ reference ∈ requested settings document, reference.1 ∈ declared document
  braces : ClosesWithin 0 (codeOf (script settings document)) ∧
    (codeOf (script settings document)).count .closeBlock =
      (codeOf (script settings document)).count .openBlock

/-- Why a document with given settings is not compiled.  Its outline lists what can be at fault in
the order of the document; the labels that are asked for matter if nothing is, and the braces if all
of these labels are declared. -/
inductive Faulty (settings : Settings) (document : Document) : Error → Prop
  | step {before after : List Step} {step : Step} {error : Error}
    (first : outline settings document = before ++ step :: after) (clean : Clean before)
    (fault : step.fault? (namesOf before) = some error) : Faulty settings document error
  | link {before after : List (String × Option Span)} {label : String} {span : Option Span}
    (clean : Clean (outline settings document))
    (first : requested settings document = before ++ (label, span) :: after)
    (earlier : ∀ reference ∈ before, reference.1 ∈ declared document)
    (unknown : label ∉ declared document) : Faulty settings document (.undefinedLabel label span)
  | braces {reason : LinkError} (clean : Clean (outline settings document))
    (links : ∀ reference ∈ requested settings document, reference.1 ∈ declared document)
    (unpaired : Unpaired (codeOf (script settings document)) reason) :
    Faulty settings document (.program reason)

/-- Why a document is not compiled. -/
inductive Rejects (document : Document) : Error → Prop
  | settings {error : Story.SettingsError}
    (unread : Settings.ofTable document.settings = .error error) :
    Rejects document (.invalidSettings error)
  | document {settings : Settings} {error : Error}
    (read : Settings.ofTable document.settings = .ok settings)
    (faulty : Faulty settings document error) : Rejects document error

/-! ## Labels and references of an outline -/

section Outline

/-- Steps that put in code and define nothing of their own define the labels of the code. -/
theorem namesOf_eq_codeLabels {steps : List Step}
    (undefined : ∀ label span, .define label span ∉ steps) :
    namesOf steps = (splicesOf steps).flatMap codeLabels := by
  induction steps with
  | nil => rfl
  | cons step rest induction =>
      simp only [List.mem_cons, not_or] at undefined
      rw [namesOf_cons, splicesOf_cons, List.flatMap_append,
        induction fun label span => (undefined label span).2]
      congr 1
      cases step with
      | define label span => exact absurd rfl (undefined label span).1
      | splice code span =>
          simp only [Step.names, Step.labels, Step.spliced?, Option.toList_some, List.flatMap_cons,
            List.flatMap_nil, List.append_nil, codeLabels]
          cases Code.compile code <;> rfl
      | _ => rfl

theorem define_not_mem_contentNotes {contents : List Content} {label : String} {span : Span} :
    .define label span ∉ contents.flatMap contentNotes := by
  simp [contentNotes]

theorem define_not_mem_choiceNotes {choices : List Choice} {label : String} {span : Span} :
    .define label span ∉ choices.flatMap choiceNotes := by
  intro member
  obtain ⟨choice, -, member⟩ := List.mem_flatMap.mp member
  rcases List.mem_append.mp member with guard | rest
  · obtain ⟨content, -, same⟩ := List.mem_map.mp guard
    cases content <;> cases same
  · rcases List.mem_append.mp rest with effect | link
    · exact define_not_mem_contentNotes effect
    · simp [linkNotes] at link

/-- A state has its own label, that of its options, and those of its code. -/
theorem namesOf_stateNotes (state : State) : (namesOf (stateNotes state)).Perm
    (state.name :: optionsLabel state.name :: (stateCodes state).flatMap codeLabels) := by
  have body : namesOf (state.body.flatMap contentNotes) =
      (state.body.filterMap Content.code?).flatMap codeLabels := by
    rw [namesOf_eq_codeLabels fun _ _ => define_not_mem_contentNotes, splicesOf_contentNotes]
  have choices : namesOf (state.choices.flatMap choiceNotes) =
      (state.choices.flatMap choiceCodes).flatMap codeLabels := by
    rw [namesOf_eq_codeLabels fun _ _ => define_not_mem_choiceNotes, splicesOf_choices]
  rw [stateNotes, namesOf_cons, namesOf_append, namesOf_cons, body, choices, stateCodes,
    List.flatMap_append]
  exact List.perm_middle.cons _

/-- The labels of an outline are those of its document. -/
theorem namesOf_outline :
    (namesOf (outline settings document)).Perm (declared document) := by
  have start : namesOf (settings.initialState.toList.map fun state => .refer state none) = [] := by
    cases settings.initialState <;> rfl
  rw [outline, namesOf_append, start, List.nil_append, namesOf, List.flatMap_assoc]
  refine (List.Perm.flatMap_left _ fun state _ => namesOf_stateNotes state).trans ?_
  refine (List.map_append_flatMap_perm _ _ _).symm.trans ?_
  rw [declared, codesOf, List.flatMap_assoc]
  exact (List.map_append_flatMap_perm _ _ _).symm.append_left _

theorem referencesOf_contentNotes (contents : List Content) :
    referencesOf (contents.flatMap contentNotes) = [] := by
  refine List.filterMap_eq_nil_iff.mpr fun step member => ?_
  obtain ⟨content, -, member⟩ := List.mem_flatMap.mp member
  obtain ⟨code, -, rfl⟩ := List.mem_map.mp member
  rfl

theorem referencesOf_choiceNotes (choice : Choice) : referencesOf (choiceNotes choice) =
    choice.link.toList.map fun link => (linkTarget link, some choice.span) := by
  have guards : referencesOf (choice.preconditions.map preconditionStep) = [] := by
    refine List.filterMap_eq_nil_iff.mpr fun step member => ?_
    obtain ⟨content, -, rfl⟩ := List.mem_map.mp member
    cases content <;> rfl
  rw [choiceNotes, referencesOf_append, referencesOf_append, guards, referencesOf_contentNotes,
    linkNotes]
  cases choice.link <;> rfl

/-- The labels that an outline asks for are those that its document asks for. -/
theorem referencesOf_outline :
    referencesOf (outline settings document) = requested settings document := by
  have start : referencesOf (settings.initialState.toList.map fun state => .refer state none) =
      settings.initialState.toList.map fun state => (state, none) := by
    cases settings.initialState <;> rfl
  rw [outline, requested, referencesOf_append, start, referencesOf_flatMap]
  refine congrArg _ (List.flatMap_congr fun state _ => ?_)
  rw [stateNotes, referencesOf_cons, referencesOf_append, referencesOf_cons,
    referencesOf_contentNotes, referencesOf_flatMap]
  exact List.flatMap_congr fun choice _ => referencesOf_choiceNotes choice

/-- Labels are asked for by steps of note only. -/
theorem referencesOf_notesOf (steps : List Step) :
    referencesOf (notesOf steps) = referencesOf steps := by
  rw [referencesOf, notesOf, List.filterMap_filter, referencesOf]
  refine List.filterMap_congr fun step _ => ?_
  cases step <;> rfl

/-- Nothing is refused exactly if all preconditions are code. -/
theorem refuse_not_mem_outline_iff : (∀ span, .refuse span ∉ outline settings document) ↔
    ∀ state ∈ document.states, ∀ choice ∈ state.choices, ∀ content ∈ choice.preconditions,
      ∃ code span, content = .code code span := by
  have precondition (content : Content) :
      (∃ span, preconditionStep content = .refuse span) ↔
        ¬∃ code span, content = .code code span := by
    cases content <;> simp [preconditionStep]
  have among (span : Span) : .refuse span ∈ outline settings document ↔
      ∃ state ∈ document.states, ∃ choice ∈ state.choices, ∃ content ∈ choice.preconditions,
        preconditionStep content = .refuse span := by
    simp [outline, stateNotes, choiceNotes, contentNotes, linkNotes]
  constructor
  · intro accepted state in_document choice in_state content inside
    by_contra other
    obtain ⟨span, refused⟩ := (precondition content).mpr other
    exact accepted span
      ((among span).mpr ⟨state, in_document, choice, in_state, content, inside, refused⟩)
  · intro code span member
    obtain ⟨state, in_document, choice, in_state, content, inside, refused⟩ :=
      (among span).mp member
    exact (precondition content).mp ⟨span, refused⟩
      (code state in_document choice in_state content inside)

/-- What it takes for nothing in a document to be at fault. -/
theorem clean_outline_iff : Clean (outline settings document) ↔
    (∀ state ∈ document.states, ∀ choice ∈ state.choices, ∀ content ∈ choice.preconditions,
      ∃ code span, content = .code code span) ∧
        (∀ code ∈ codesOf document, ∃ fragment, Code.compile code = .ok fragment) ∧
          (declared document).Nodup := by
  have codes : splicesOf (outline settings document) = codesOf document := by
    rw [← notesOf_script, splicesOf_notesOf, splicesOf_script, codesOf]
  rw [Clean.iff_distinct, refuse_not_mem_outline_iff, namesOf_outline.nodup_iff, ← codes]
  refine and_congr_right fun _ => and_congr_left fun _ => ?_
  constructor
  · intro compiles code member
    obtain ⟨span, among⟩ := mem_splicesOf_iff.mp member
    exact compiles code span among
  · intro compiles code span among
    exact compiles code (mem_splicesOf_iff.mpr ⟨span, among⟩)

end Outline

/-! ## Finishing -/

section Finish

variable {assembly : Assembly} {error : Error}

/-- Braces are all that can keep a program from being linked if its labels lie inside. -/
theorem link_error_iff {instructions : List Instruction} {labels : Labels} {reason : LinkError}
    (inside : ∀ entry ∈ labels.entries, entry.2 ≤ instructions.length) :
    Program.link instructions labels = .error reason ↔ Unpaired instructions reason := by
  have none_beyond :
      labels.entries.find? (fun entry => instructions.length < entry.2) = none := by
    simpa using inside
  simp [Program.link_error_iff, none_beyond]

/-- References are all defined, or the first one that is not is reported. -/
theorem checkReferences_error_iff : assembly.checkReferences = .error error ↔
    ∃ before label span after, assembly.references = before ++ (label, span) :: after ∧
      (∀ reference ∈ before, reference.1 ∈ assembly.labels.keys) ∧
        label ∉ assembly.labels.keys ∧ .undefinedLabel label span = error := by
  have first : assembly.checkReferences = .error error ↔ ∃ label span,
      assembly.references.find? (fun reference => !assembly.labels.contains reference.1) =
        some (label, span) ∧ .undefinedLabel label span = error := by
    rw [Assembly.checkReferences]
    split
    · rename_i label span missing
      simp [missing]
    · rename_i missing
      simp [missing]
  simp only [first, List.find?_eq_some_iff_append, ← Table.contains_iff_mem_keys]
  constructor
  · rintro ⟨label, span, ⟨unknown, before, after, split, earlier⟩, same⟩
    exact ⟨before, label, span, after, split, by simpa using earlier, by simpa using unknown, same⟩
  · rintro ⟨before, label, span, after, split, earlier, unknown, same⟩
    exact ⟨label, span, ⟨by simpa using unknown, before, after, split, by simpa using earlier⟩,
      same⟩

theorem checkReferences_ok_iff : assembly.checkReferences = .ok () ↔
    ∀ reference ∈ assembly.references, reference.1 ∈ assembly.labels.keys := by
  simp only [← Table.contains_iff_mem_keys]
  rw [Assembly.checkReferences]
  split
  · rename_i label span missing
    have unknown := List.find?_some missing
    have among := List.mem_of_find?_eq_some missing
    simp only [reduceCtorEq, false_iff]
    intro known
    simp [known _ among] at unknown
  · rename_i missing
    simpa using missing

/-- Finishing fails for a reference or, if these are all defined, for the braces. -/
theorem finish_error_iff
    (inside : ∀ entry ∈ assembly.labels.entries, entry.2 ≤ assembly.instructions.length) :
    assembly.finish = .error error ↔ assembly.checkReferences = .error error ∨
      assembly.checkReferences = .ok () ∧
        ∃ reason, Unpaired assembly.instructions reason ∧ .program reason = error := by
  rw [Assembly.finish]
  cases assembly.checkReferences with
  | error other => simp [bind, Except.bind]
  | ok =>
      simp only [← link_error_iff inside]
      cases Program.link assembly.instructions assembly.labels <;>
        simp [bind, Except.bind, pure, Except.pure]

theorem exists_finish_iff
    (inside : ∀ entry ∈ assembly.labels.entries, entry.2 ≤ assembly.instructions.length) :
    (∃ compiled, assembly.finish = .ok compiled) ↔
      assembly.checkReferences = .ok () ∧ Balanced assembly.instructions := by
  rw [Assembly.finish, ← and_iff_left inside (a := Balanced assembly.instructions),
    ← Program.exists_link_iff]
  cases assembly.checkReferences with
  | error other => simp [bind, Except.bind]
  | ok =>
      cases Program.link assembly.instructions assembly.labels <;>
        simp [bind, Except.bind, pure, Except.pure]

end Finish

theorem exists_run_script_iff :
    (∃ assembly, Assembly.empty.run (script settings document) = .ok assembly) ↔
      Clean (outline settings document) := by
  rw [Assembly.exists_run_iff, ← Clean.notesOf_iff, notesOf_script]

/-- What a document with known settings is assembled into. -/
theorem assembled {assembly : Assembly}
    (ran : Assembly.empty.run (script settings document) = .ok assembly) :
    assembly.instructions = codeOf (script settings document) ∧
      assembly.references = requested settings document ∧
        (∀ name, name ∈ assembly.labels.keys ↔ name ∈ declared document) ∧
          ∀ entry ∈ assembly.labels.entries, entry.2 ≤ assembly.instructions.length := by
  obtain ⟨instructions, labels, references, -⟩ := Assembly.run_ok ran
  have code : assembly.instructions = codeOf (script settings document) := instructions
  refine ⟨code, ?_, fun name => ?_, fun entry member => ?_⟩
  · rw [← referencesOf_outline, ← notesOf_script, referencesOf_notesOf]
    exact references
  · rw [Assembly.run_names ran, ← namesOf_notesOf, notesOf_script, namesOf_outline.mem_iff]
  · have found := Table.get?_eq_some_iff.mpr member
    rw [labels] at found
    rw [code]
    rcases found with absent | ⟨shift, defines, same⟩
    · cases absent
    · have := defines.le
      simp only [Assembly.empty, List.length_nil] at same
      omega

theorem compile_eq (read : Settings.ofTable document.settings = .ok settings) :
    compile document =
      (Assembly.empty.run (script settings document)).bind Assembly.finish := by
  rw [compile, read]
  rfl

/-- A document whose settings can be read is rejected for what is wrong with it first. -/
theorem compile_error_iff_faulty (read : Settings.ofTable document.settings = .ok settings)
    {error : Error} : compile document = .error error ↔ Faulty settings document error := by
  have fails_iff {error : Error} : Assembly.empty.run (script settings document) = .error error ↔
      ∃ before step after, outline settings document = before ++ step :: after ∧ Clean before ∧
        step.fault? (namesOf before) = some error := by
    rw [run_error_iff_of_notes, notesOf_script]
  rw [compile_eq read]
  cases ran : Assembly.empty.run (script settings document) with
  | error reason =>
      obtain ⟨before, step, after, first, clean, fault⟩ := fails_iff.mp ran
      have unclean : ¬Clean (outline settings document) := by
        simp [← exists_run_script_iff, ran]
      constructor
      · rintro ⟨⟩
        exact .step first clean fault
      · rintro (⟨first, clean, fault⟩ | ⟨clean, -, -, -⟩ | ⟨clean, -, -⟩)
        · cases ran.symm.trans (fails_iff.mpr ⟨_, _, _, first, clean, fault⟩)
          rfl
        · exact absurd clean unclean
        · exact absurd clean unclean
  | ok assembly =>
      have clean := exists_run_script_iff.mp ⟨assembly, ran⟩
      obtain ⟨instructions, references, names, inside⟩ := assembled ran
      refine (finish_error_iff inside).trans ?_
      rw [checkReferences_error_iff, checkReferences_ok_iff, instructions, references]
      simp only [names]
      constructor
      · rintro (⟨before, label, span, after, first, earlier, unknown, rfl⟩ |
          ⟨links, reason, unpaired, rfl⟩)
        · exact .link clean first earlier unknown
        · exact .braces clean links unpaired
      · rintro (⟨first, clean, fault⟩ | ⟨-, first, earlier, unknown⟩ | ⟨-, links, unpaired⟩)
        · cases ran.symm.trans (fails_iff.mpr ⟨_, _, _, first, clean, fault⟩)
        · exact Or.inl ⟨_, _, _, _, first, earlier, unknown, rfl⟩
        · exact Or.inr ⟨links, _, unpaired, rfl⟩

/-- A document is rejected exactly for the first of the reasons that there are. -/
theorem compile_error_iff {error : Error} :
    compile document = .error error ↔ Rejects document error := by
  cases read : Settings.ofTable document.settings with
  | error reason =>
      rw [compile, read]
      constructor
      · rintro ⟨⟩
        exact .settings read
      · rintro (unread | ⟨found, -⟩)
        · cases read.symm.trans unread
          rfl
        · cases read.symm.trans found
  | ok settings =>
      rw [compile_error_iff_faulty read]
      constructor
      · exact .document read
      · rintro (unread | ⟨found, faulty⟩)
        · cases read.symm.trans unread
        · cases read.symm.trans found
          exact faulty

/-- A document is compiled exactly if nothing keeps it from being compiled. -/
theorem compile_ok_iff : (∃ compiled, compile document = .ok compiled) ↔
    ∃ settings, Settings.ofTable document.settings = .ok settings ∧
      Compilable settings document := by
  cases read : Settings.ofTable document.settings with
  | error reason => simp [compile, read]
  | ok settings =>
      simp only [Except.ok.injEq, exists_eq_left']
      rw [compile_eq read]
      cases ran : Assembly.empty.run (script settings document) with
      | error error =>
          simp only [Except.bind, reduceCtorEq, exists_false, false_iff]
          intro compilable
          obtain ⟨assembly, assembled⟩ := exists_run_script_iff.mpr (clean_outline_iff.mpr
            ⟨compilable.preconditions, compilable.code, compilable.labels⟩)
          cases ran.symm.trans assembled
      | ok assembly =>
          obtain ⟨preconditions, code, labels⟩ :=
            clean_outline_iff.mp (exists_run_script_iff.mp ⟨assembly, ran⟩)
          obtain ⟨instructions, references, names, inside⟩ := assembled ran
          refine (exists_finish_iff inside).trans ?_
          rw [checkReferences_ok_iff, Balanced.iff_counts, instructions, references]
          simp only [names]
          constructor
          · rintro ⟨links, braces⟩
            exact ⟨preconditions, code, labels, links, braces⟩
          · intro compilable
            exact ⟨compilable.links, compilable.braces⟩

/-- What `compile` accepts, and what it says of the rest: a document is compiled exactly if nothing
keeps it from being compiled, is rejected exactly for the first thing that does, and no label ever
points past the end of its program. -/
theorem compiles_or_rejects (document : Document) :
    ((∃ compiled, compile document = .ok compiled) ↔
      ∃ settings, Settings.ofTable document.settings = .ok settings ∧
        Compilable settings document) ∧
    (∀ error, compile document = .error error ↔ Rejects document error) ∧
      ∀ label offset length,
        compile document ≠ .error (.program (.labelOutOfRange label offset length)) := by
  refine ⟨compile_ok_iff, fun error => compile_error_iff, fun label offset length failed => ?_⟩
  cases compile_error_iff.mp failed with
  | document read faulty =>
      cases faulty with
      | step first clean fault => exact Step.fault?_ne_program fault
      | braces clean links unpaired => cases unpaired

/-! ## Labels that are declared once more -/

/-- Code that declares two labels. -/
def tangledCode : String := "#b #a"

/-- A story in whose second state the labels of both states are declared once more. -/
def tangled : Document :=
  ⟨Table.empty, [⟨"a", [], [], ⟨0, 5⟩⟩, ⟨"b", [.code tangledCode ⟨10, 17⟩], [], ⟨5, 18⟩⟩]⟩

/-- The labels of code are not looked up in the order in which it declares them: the code declares
`b` first, which is a label already, but it is `a` that is reported. -/
theorem smaller_label_reported :
    Settings.ofTable tangled.settings = .ok .default ∧
      outline .default tangled =
        [.define "a" ⟨0, 5⟩, .define "a__options" ⟨0, 5⟩, .define "b" ⟨5, 18⟩,
          .splice tangledCode ⟨10, 17⟩, .define "b__options" ⟨5, 18⟩] ∧
      Code.tokenize tangledCode = .ok [⟨.label "b", ⟨0, 2⟩⟩, ⟨.label "a", ⟨3, 5⟩⟩] ∧
        compile tangled = .error (.duplicateLabel "a" (some ⟨10, 17⟩)) ∧
          compile tangled ≠ .error (.duplicateLabel "b" (some ⟨10, 17⟩)) := by
  have reported : compile tangled = .error (.duplicateLabel "a" (some ⟨10, 17⟩)) := by
    have compiles : Code.compile tangledCode =
        .ok ⟨[], ⟨[("a", 0), ("b", 0)], by decide +kernel⟩⟩ := by decide +kernel
    have first : outline .default tangled =
        [.define "a" ⟨0, 5⟩, .define "a__options" ⟨0, 5⟩, .define "b" ⟨5, 18⟩] ++
          .splice tangledCode ⟨10, 17⟩ :: [.define "b__options" ⟨5, 18⟩] := rfl
    refine compile_error_iff.mpr (.document rfl (.step first ?_ ?_))
    · exact Clean.iff_distinct.mpr ⟨by simp, by simp, by decide +kernel⟩
    · rw [Step.fault?, compiles]
      rfl
  refine ⟨rfl, rfl, by decide +kernel, reported, ?_⟩
  simp [reported]

end Gamebook.Compile
