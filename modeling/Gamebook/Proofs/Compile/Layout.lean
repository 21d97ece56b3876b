import Gamebook.Compile.Assembly
import Gamebook.Proofs.Program.Blocks

/-!
# The layout of assembled programs

A script that is assembled becomes the code of its steps, one after the other, and a label stands
for the number of instructions in front of the place where it is defined.  No label is ever moved or
defined twice, and every label that is asked for is defined.
-/

namespace Gamebook

namespace Code

/-- What holds of the fragment without instructions and is kept by every token holds of the fragment
of any code. -/
theorem Fragment.of_compile {P : Fragment → Prop} (empty : P .empty)
    (add : ∀ {fragment after : Fragment}, P fragment →
      ∀ {token : Token}, fragment.add token = .ok after → P after)
    {code : String} {fragment : Fragment} (compiled : compile code = .ok fragment) :
    P fragment := by
  have each {tokens : List Token} {before after : Fragment} (holds : P before)
      (added : tokens.foldlM Fragment.add before = .ok after) : P after := by
    induction tokens generalizing before with
    | nil =>
        cases added
        exact holds
    | cons token rest induction =>
        rw [List.foldlM_cons] at added
        cases first : before.add token with
        | error error =>
            rw [first] at added
            cases added
        | ok between =>
            rw [first] at added
            exact induction (add holds first) added
  rw [compile] at compiled
  cases tokens : tokenize code with
  | error error =>
      rw [tokens] at compiled
      cases compiled
  | ok list =>
      rw [tokens] at compiled
      exact each empty compiled

/-- No label points past the end of a fragment. -/
def Fragment.LabelsInside (fragment : Fragment) : Prop :=
  ∀ entry ∈ fragment.labels.entries, entry.2 ≤ fragment.instructions.length

namespace Fragment.LabelsInside

variable {fragment after : Fragment}

theorem add (inside : fragment.LabelsInside) {token : Token}
    (added : fragment.add token = .ok after) : after.LabelsInside := by
  have pushed (instruction : Instruction) :
      LabelsInside { fragment with instructions := fragment.instructions ++ [instruction] } :=
    fun entry member => by
      have := inside entry member
      simp only [List.length_append, List.length_singleton]
      omega
  rw [Fragment.add] at added
  split at added
  · split at added
    · cases added
    · cases added
      intro entry member
      rcases Table.mem_insertEntry member with rfl | among
      · exact Nat.le_refl _
      · exact inside entry among
  all_goals
    cases added
    exact pushed _

theorem of_compile {code : String} (compiled : compile code = .ok fragment) :
    fragment.LabelsInside :=
  Fragment.of_compile (by simp [LabelsInside, Fragment.empty, Table.empty]) add compiled

end Fragment.LabelsInside

end Code

namespace Compile

open Story (Document Settings)
open Text (Span)

/-- The instructions of a step. -/
def Step.code : Step → List Instruction
  | .emit instruction => [instruction]
  | .splice code _ =>
    match Code.compile code with
    | .ok fragment => fragment.instructions
    | .error _ => []
  | _ => []

/-- The labels that a step defines, with offsets that count from the step. -/
def Step.labels : Step → List (String × Nat)
  | .define label _ => [(label, 0)]
  | .splice code _ =>
    match Code.compile code with
    | .ok fragment => fragment.labels.entries
    | .error _ => []
  | _ => []

/-- The label that a step asks for. -/
def Step.reference? : Step → Option (String × Option Span)
  | .refer label span => some (label, span)
  | _ => none

/-- The labels that steps ask for, in order. -/
def referencesOf (steps : List Step) : List (String × Option Span) :=
  steps.filterMap Step.reference?

theorem referencesOf_cons (step : Step) (steps : List Step) :
    referencesOf (step :: steps) = step.reference?.toList ++ referencesOf steps := by
  rw [referencesOf, List.filterMap_cons]
  cases step.reference? <;> rfl

theorem referencesOf_append (first second : List Step) :
    referencesOf (first ++ second) = referencesOf first ++ referencesOf second :=
  List.filterMap_append

theorem referencesOf_flatMap {α : Type} (items : List α) (steps : α → List Step) :
    referencesOf (items.flatMap steps) = items.flatMap fun item => referencesOf (steps item) :=
  List.filterMap_flatMap

/-- The warning that a step gives. -/
def Step.warning? : Step → Option Warning
  | .warn warning => some warning
  | _ => none

/-- The warnings that steps give, in order. -/
def warningsOf (steps : List Step) : List Warning :=
  steps.filterMap Step.warning?

@[simp]
theorem warningsOf_nil : warningsOf [] = [] := rfl

@[simp]
theorem warningsOf_cons (step : Step) (steps : List Step) :
    warningsOf (step :: steps) = step.warning?.toList ++ warningsOf steps := by
  rw [warningsOf, List.filterMap_cons]
  cases step.warning? <;> rfl

@[simp]
theorem warningsOf_append (first second : List Step) :
    warningsOf (first ++ second) = warningsOf first ++ warningsOf second :=
  List.filterMap_append

/-- The instructions of steps. -/
def codeOf (steps : List Step) : List Instruction :=
  steps.flatMap Step.code

@[simp]
theorem codeOf_nil : codeOf [] = [] := rfl

@[simp]
theorem codeOf_cons (step : Step) (steps : List Step) :
    codeOf (step :: steps) = step.code ++ codeOf steps :=
  List.flatMap_cons

@[simp]
theorem codeOf_append (first second : List Step) :
    codeOf (first ++ second) = codeOf first ++ codeOf second :=
  List.flatMap_append

/-- A step among others defines a label that stands for an offset. -/
def Defines (steps : List Step) (label : String) (offset : Nat) : Prop :=
  ∃ before step after shift, steps = before ++ step :: after ∧ (label, shift) ∈ step.labels ∧
    offset = (codeOf before).length + shift

theorem defines_cons_iff {step : Step} {steps : List Step} {label : String} {offset : Nat} :
    Defines (step :: steps) label offset ↔
      (label, offset) ∈ step.labels ∨
        ∃ later, Defines steps label later ∧ offset = step.code.length + later := by
  constructor
  · rintro ⟨before, found, after, shift, split, member, rfl⟩
    cases before with
    | nil =>
        cases split
        exact Or.inl (by simpa using member)
    | cons first before =>
        cases split
        exact Or.inr ⟨_, ⟨before, found, after, shift, rfl, member, rfl⟩, by
          simp only [codeOf_cons, List.length_append]
          omega⟩
  · rintro (member | ⟨_, ⟨before, found, after, shift, rfl, member, rfl⟩, rfl⟩)
    · exact ⟨[], step, steps, offset, rfl, member, by simp⟩
    · exact ⟨step :: before, found, after, shift, rfl, member, by
        simp only [codeOf_cons, List.length_append]
        omega⟩

/-- A label of a step stands for one of its instructions or for the one that follows. -/
theorem Step.label_le {step : Step} {label : String} {shift : Nat}
    (member : (label, shift) ∈ step.labels) : shift ≤ step.code.length := by
  cases step with
  | define other span =>
      obtain ⟨-, rfl⟩ : label = other ∧ shift = 0 := by simpa [Step.labels] using member
      exact Nat.zero_le _
  | splice code span =>
      rw [Step.labels] at member
      rw [Step.code]
      cases compiled : Code.compile code with
      | error error => simp [compiled] at member
      | ok fragment =>
          rw [compiled] at member
          exact Code.Fragment.LabelsInside.of_compile compiled _ member
  | _ => simp [Step.labels] at member

theorem Defines.le {steps : List Step} {label : String} {offset : Nat}
    (defines : Defines steps label offset) : offset ≤ (codeOf steps).length := by
  obtain ⟨before, step, after, shift, rfl, member, rfl⟩ := defines
  have inside := Step.label_le member
  simp only [codeOf_append, codeOf_cons, List.length_append]
  omega

/-! ## Assembling -/

namespace Assembly

variable {assembly after : Assembly} {span : Span} {steps : List Step}

theorem define_ok {label : String × Nat} (defined : assembly.define span label = .ok after) :
    after.instructions = assembly.instructions ∧ after.references = assembly.references ∧
      after.warnings = assembly.warnings ∧ ∀ name offset, after.labels.get? name = some offset ↔
        assembly.labels.get? name = some offset ∨ (name, offset) = label := by
  rw [define] at defined
  split at defined
  · cases defined
  · rename_i fresh
    cases defined
    refine ⟨rfl, rfl, rfl, fun name offset => ?_⟩
    rw [Table.get?_insert]
    split
    · rename_i same
      subst same
      have unbound : assembly.labels.get? label.1 = none := by
        simpa [Table.contains] using fresh
      simp [unbound, Prod.ext_iff, eq_comm]
    · rename_i other
      simp [Prod.ext_iff, Ne.symm other]

theorem defineAll_ok {labels : List (String × Nat)}
    (defined : labels.foldlM (fun current label => current.define span label) assembly =
      .ok after) :
    after.instructions = assembly.instructions ∧ after.references = assembly.references ∧
      after.warnings = assembly.warnings ∧ ∀ name offset, after.labels.get? name = some offset ↔
        assembly.labels.get? name = some offset ∨ (name, offset) ∈ labels := by
  induction labels generalizing assembly with
  | nil =>
      cases defined
      simp
  | cons label rest induction =>
      rw [List.foldlM_cons] at defined
      cases first : assembly.define span label with
      | error error =>
          rw [first] at defined
          cases defined
      | ok between =>
          rw [first] at defined
          obtain ⟨instructions, references, warnings, labels⟩ := define_ok first
          obtain ⟨later_instructions, later_references, later_warnings, later_labels⟩ :=
            induction defined
          refine ⟨later_instructions.trans instructions, later_references.trans references,
            later_warnings.trans warnings, fun name offset => ?_⟩
          rw [later_labels, labels, List.mem_cons, or_assoc]

/-- What a step adds to what has been assembled. -/
structure Adds (assembly after : Assembly) (step : Step) : Prop where
  instructions : after.instructions = assembly.instructions ++ step.code
  label : ∀ name offset, after.labels.get? name = some offset ↔
    assembly.labels.get? name = some offset ∨
      ∃ shift, (name, shift) ∈ step.labels ∧ offset = assembly.instructions.length + shift
  references : after.references = assembly.references ++ step.reference?.toList
  warnings : after.warnings = assembly.warnings ++ step.warning?.toList
  compiles : ∀ code span, step = .splice code span → ∃ fragment, Code.compile code = .ok fragment
  accepts : ∀ span, step ≠ .refuse span

theorem step_ok {step : Step} (stepped : assembly.step step = .ok after) :
    Adds assembly after step := by
  cases step with
  | emit instruction =>
      cases stepped
      exact ⟨rfl, by simp [Step.labels], by simp [Step.reference?], by simp [Step.warning?],
        by simp, by simp⟩
  | define label span =>
      obtain ⟨instructions, references, warnings, labels⟩ := define_ok stepped
      refine ⟨by simp [instructions, Step.code], fun name offset => ?_,
        by simp [references, Step.reference?], by simp [warnings, Step.warning?], by simp, by simp⟩
      rw [labels]
      simp [Step.labels]
  | splice code span =>
      rw [step] at stepped
      cases compiled : Code.compile code with
      | error error =>
          rw [compiled] at stepped
          cases stepped
      | ok fragment =>
          rw [compiled] at stepped
          simp only [splice] at stepped
          cases defined : (fragment.labels.entries.map fun entry =>
              (entry.1, assembly.instructions.length + entry.2)).foldlM
              (fun current label => current.define span label) assembly with
          | error error =>
              rw [defined] at stepped
              cases stepped
          | ok between =>
              rw [defined] at stepped
              cases stepped
              obtain ⟨instructions, references, warnings, labels⟩ := defineAll_ok defined
              refine ⟨by simp [instructions, Step.code, compiled], fun name offset => ?_,
                by simp [references, Step.reference?], by simp [warnings, Step.warning?],
                fun _ _ same => ?_, by simp⟩
              · rw [labels]
                simp only [List.mem_map, Prod.mk.injEq, Step.labels, compiled, Prod.exists]
                refine or_congr_right ⟨?_, ?_⟩
                · rintro ⟨_, shift, member, rfl, rfl⟩
                  exact ⟨shift, member, rfl⟩
                · rintro ⟨shift, member, rfl⟩
                  exact ⟨name, shift, member, rfl, rfl⟩
              · cases same
                exact ⟨fragment, compiled⟩
  | refuse span => cases stepped
  | refer label span =>
      cases stepped
      exact ⟨by simp [Step.code], by simp [Step.labels], rfl, by simp [Step.warning?], by simp,
        by simp⟩
  | warn warning =>
      cases stepped
      exact ⟨by simp [Step.code], by simp [Step.labels], by simp [Step.reference?], rfl, by simp,
        by simp⟩

/-- What steps add to what has been assembled. -/
theorem run_ok (ran : assembly.run steps = .ok after) :
    after.instructions = assembly.instructions ++ codeOf steps ∧
      (∀ name offset, after.labels.get? name = some offset ↔
        assembly.labels.get? name = some offset ∨
          ∃ shift, Defines steps name shift ∧ offset = assembly.instructions.length + shift) ∧
      after.references = assembly.references ++ referencesOf steps ∧
      (∀ code span, .splice code span ∈ steps → ∃ fragment, Code.compile code = .ok fragment) ∧
        ∀ span, .refuse span ∉ steps := by
  induction steps generalizing assembly with
  | nil =>
      cases ran
      simp [Defines, referencesOf]
  | cons first rest induction =>
      rw [run, List.foldlM_cons] at ran
      cases stepped : assembly.step first with
      | error error =>
          rw [stepped] at ran
          cases ran
      | ok between =>
          rw [stepped] at ran
          have adds := step_ok stepped
          obtain ⟨instructions, labels, references, compiles, accepts⟩ := induction ran
          refine ⟨?_, ?_, ?_, ?_, ?_⟩
          · rw [instructions, adds.instructions, codeOf_cons, List.append_assoc]
          · intro name offset
            simp only [labels, adds.label, adds.instructions, defines_cons_iff, or_assoc,
              List.length_append]
            apply or_congr_right
            constructor
            · rintro (⟨shift, member, rfl⟩ | ⟨shift, defines, rfl⟩)
              · exact ⟨shift, Or.inl member, rfl⟩
              · exact ⟨_, Or.inr ⟨shift, defines, rfl⟩, by omega⟩
            · rintro ⟨shift, member | ⟨later, defines, rfl⟩, rfl⟩
              · exact Or.inl ⟨shift, member, rfl⟩
              · exact Or.inr ⟨later, defines, by omega⟩
          · rw [references, adds.references, List.append_assoc, referencesOf_cons]
          · intro code span member
            rcases List.mem_cons.mp member with same | member
            · exact adds.compiles code span same.symm
            · exact compiles code span member
          · intro span member
            rcases List.mem_cons.mp member with same | member
            · exact adds.accepts span same.symm
            · exact accepts span member

/-- The warnings of steps are given in their order. -/
theorem run_warnings (ran : assembly.run steps = .ok after) :
    after.warnings = assembly.warnings ++ warningsOf steps := by
  induction steps generalizing assembly with
  | nil =>
      cases ran
      rw [warningsOf_nil, List.append_nil]
  | cons step rest induction =>
      rw [run, List.foldlM_cons] at ran
      cases stepped : assembly.step step with
      | error error =>
          rw [stepped] at ran
          cases ran
      | ok between =>
          rw [stepped] at ran
          rw [induction ran, (step_ok stepped).warnings, warningsOf_cons, List.append_assoc]

end Assembly

/-- A program that is laid out as a script says. -/
structure Laid (steps : List Step) (program : Program) : Prop where
  instructions : program.instructions = codeOf steps
  label : ∀ name offset, program.label? name = some offset ↔ Defines steps name offset
  refers : ∀ label span, .refer label span ∈ steps → ∃ offset, program.label? label = some offset
  compiles : ∀ code span, .splice code span ∈ steps → ∃ fragment, Code.compile code = .ok fragment
  accepts : ∀ span, .refuse span ∉ steps

theorem Assembly.finish_ok {assembly : Assembly} {compiled : Compiled}
    (finished : assembly.finish = .ok compiled) :
    compiled.program.instructions = assembly.instructions ∧
      compiled.program.labels = assembly.labels ∧ compiled.warnings = assembly.warnings ∧
        ∀ reference ∈ assembly.references, assembly.labels.contains reference.1 = true := by
  rw [finish] at finished
  cases undefined : assembly.references.find? fun reference =>
      !assembly.labels.contains reference.1 with
  | some reference =>
      rw [checkReferences, undefined] at finished
      cases finished
  | none =>
      rw [checkReferences, undefined] at finished
      cases linked : Program.link assembly.instructions assembly.labels with
      | error error =>
          rw [linked] at finished
          cases finished
      | ok program =>
          rw [linked] at finished
          cases finished
          obtain ⟨instructions, labels⟩ := Program.link_parts linked
          refine ⟨instructions, labels, rfl, fun reference member => ?_⟩
          simpa using List.find?_eq_none.mp undefined reference member

/-- The program of a document is laid out as the document's script says. -/
theorem compile_laid {document : Document} {compiled : Compiled}
    (accepted : compile document = .ok compiled) :
    ∃ settings, Settings.ofTable document.settings = .ok settings ∧
      Laid (script settings document) compiled.program := by
  rw [compile] at accepted
  cases read : Settings.ofTable document.settings with
  | error error => simp [read] at accepted
  | ok settings =>
      simp only [read] at accepted
      cases ran : Assembly.empty.run (script settings document) with
      | error error =>
          rw [ran] at accepted
          cases accepted
      | ok assembly =>
          rw [ran] at accepted
          obtain ⟨instructions, labels, references, compiles, accepts⟩ := Assembly.run_ok ran
          obtain ⟨program_instructions, program_labels, -, known⟩ := Assembly.finish_ok accepted
          have label (name : String) (offset : Nat) :
              compiled.program.label? name = some offset ↔
                Defines (script settings document) name offset := by
            rw [Program.label?, program_labels, labels]
            simp [Assembly.empty]
          refine ⟨settings, rfl, ⟨by simp [program_instructions, instructions, Assembly.empty],
            label, fun name span asked => ?_, compiles, accepts⟩⟩
          rw [Program.label?, program_labels]
          have member : (name, span) ∈ assembly.references := by
            rw [references]
            exact List.mem_append_right _ (List.mem_filterMap.mpr ⟨_, asked, rfl⟩)
          simpa [Table.contains, Option.isSome_iff_exists] using known _ member

end Compile

end Gamebook
