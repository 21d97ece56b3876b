import Gamebook.Proofs.Compile.Layout
import Gamebook.Proofs.Program.Stored

/-!
# Compiled programs are kept as they are

The braces of compiled code and of the layout are instructions of their own, and the layout calls
no native by the name of a brace.  So the instructions of a compiled program are read back from
stored data as they were.
-/

namespace Gamebook

/-- Instructions that are read back as they are when they are stored. -/
def Instruction.Kept (instructions : List Instruction) : Prop :=
  ∀ instruction ∈ instructions, instruction.recognized = instruction

open Instruction (Kept)

namespace Instruction.Kept

variable {first second : List Instruction}

@[simp]
theorem append_iff : Kept (first ++ second) ↔ Kept first ∧ Kept second :=
  List.forall_mem_append

@[simp]
theorem cons_iff {instruction : Instruction} :
    Kept (instruction :: first) ↔ instruction.recognized = instruction ∧ Kept first :=
  List.forall_mem_cons

@[simp]
theorem nil : Kept [] := List.forall_mem_nil _

theorem map_eq (kept : Kept first) : first.map recognized = first :=
  (List.map_congr_left kept).trans (List.map_id' first)

end Instruction.Kept

/-- Compiled code is kept. -/
theorem Code.kept_of_compile {code : String} {fragment : Fragment}
    (compiled : compile code = .ok fragment) : Kept fragment.instructions := by
  refine Fragment.of_compile (P := fun fragment => Kept fragment.instructions) .nil ?_ compiled
  intro fragment after kept token added
  rw [Fragment.add] at added
  split at added
  · split at added
    · cases added
    · cases added
      exact kept
  · cases added
    simp [kept, Instruction.recognized]
  · cases added
    simp [kept, Instruction.recognized]
  · cases added
    simp [kept, Instruction.recognized_ofWord]

namespace Compile

open Story (Choice Content Document Settings State)

variable {settings : Settings} {steps : List Step}

theorem kept_map {α : Type} {items : List α} {step : α → Step}
    (each : ∀ item, Kept (step item).code) : Kept (codeOf (items.map step)) := by
  induction items with
  | nil => exact .nil
  | cons item items induction => exact Instruction.Kept.append_iff.mpr ⟨each item, induction⟩

theorem kept_flatMap {α : Type} {items : List α} {layout : α → List Step}
    (each : ∀ item, Kept (codeOf (layout item))) : Kept (codeOf (items.flatMap layout)) := by
  induction items with
  | nil => exact .nil
  | cons item items induction =>
      rw [List.flatMap_cons, codeOf_append]
      exact Instruction.Kept.append_iff.mpr ⟨each item, induction⟩

/-! ## Steps -/

theorem ofWord_of_ne {name : String} (no_brace : name ≠ "\x7b" ∧ name ≠ "\x7d") :
    Instruction.ofWord name = .invoke name :=
  (if_neg no_brace.1).trans (if_neg no_brace.2)

@[simp]
theorem kept_invoke {name : String} (no_brace : name ≠ "\x7b" ∧ name ≠ "\x7d") :
    Kept (Step.invoke name).code := by
  simp [Step.invoke, Step.code, Instruction.recognized, ofWord_of_ne no_brace]

@[simp]
theorem kept_push (text : String) : Kept (Step.push text).code := by
  simp [Step.push, Step.code, Instruction.recognized]

@[simp]
theorem kept_pushNumber (value : Float) : Kept (Step.emit (.pushNumber value)).code := by
  simp [Step.code, Instruction.recognized]

@[simp]
theorem kept_pushValue (value : Value) : Kept (Step.emit (.push value)).code := by
  cases value <;> simp [Instruction.push, Step.code, Instruction.recognized]

@[simp]
theorem kept_splice (code : String) (span : Text.Span) : Kept (Step.splice code span).code := by
  rw [Step.code]
  split
  · exact Code.kept_of_compile (by assumption)
  · exact .nil

@[simp]
theorem kept_warn (warning : Warning) : Kept (Step.warn warning).code := .nil

@[simp]
theorem kept_refer (label : String) (span : Option Text.Span) : Kept (Step.refer label span).code :=
  .nil

@[simp]
theorem kept_define (label : String) (span : Text.Span) : Kept (Step.define label span).code :=
  .nil

theorem kept_block (kept : Kept (codeOf steps)) : Kept (codeOf (block steps)) := by
  simp [block, Step.code, Instruction.recognized, kept]

/-! ## Scripts -/

theorem kept_contentSteps (content : Content) : Kept (codeOf (contentSteps settings content)) := by
  cases content with
  | text run => simp [contentSteps]
  | code code span => simp [contentSteps]
  | fence language code span =>
      rw [contentSteps]
      split <;> simp

theorem kept_preconditionStep (content : Content) : Kept (preconditionStep content).code := by
  cases content with
  | code code span => exact kept_splice code span
  | text | fence => exact .nil

theorem kept_leaveSteps (state : String) (choice : Choice) :
    Kept (codeOf (leaveSteps settings state choice)) := by
  rw [leaveSteps]
  split
  · simp
  · split <;> simp

theorem kept_effectSteps (state : String) (choice : Choice) (flag : Option String) :
    Kept (codeOf (effectSteps settings state choice flag)) := by
  have effects : Kept (codeOf (choice.effects.flatMap (contentSteps settings))) :=
    kept_flatMap kept_contentSteps
  have leave : Kept (codeOf (leaveSteps settings state choice)) := kept_leaveSteps state choice
  cases flag <;> simp [effectSteps, effects, leave]

theorem kept_offerSteps (state : String) (choice : Choice) (flag : Option String) :
    Kept (codeOf (offerSteps settings state choice flag)) := by
  have warns : Kept (codeOf (titleWarnings choice)) := by
    rw [titleWarnings]
    split
    · split <;> simp
    · simp
  have effects : Kept (codeOf (block (effectSteps settings state choice flag))) :=
    kept_block (kept_effectSteps state choice flag)
  simp [offerSteps, warns, effects]

theorem kept_guardSteps (preconditions : List Content) (kept : Kept (codeOf steps)) :
    Kept (codeOf (guardSteps preconditions steps)) := by
  have tests : Kept (codeOf (preconditions.map preconditionStep)) := kept_map kept_preconditionStep
  rw [guardSteps]
  split
  · exact kept
  · simp [tests, kept_block kept]

theorem kept_choiceSteps (state : String) (choice : Choice) (flag : Option String) :
    Kept (codeOf (choiceSteps settings state choice flag)) := by
  have warns : Kept (codeOf (directiveWarnings choice)) := kept_map fun _ => .nil
  have guarded : Kept (codeOf (guardSteps choice.preconditions
      (offerSteps settings state choice flag))) :=
    kept_guardSteps choice.preconditions (kept_offerSteps state choice flag)
  cases flag <;> simp [choiceSteps, onceSteps, warns, guarded, kept_block guarded]

theorem kept_choicesSteps (state : String) (index : Nat) (choices : List Choice) :
    Kept (codeOf (choicesSteps settings state index choices)) := by
  induction choices generalizing index with
  | nil => exact .nil
  | cons choice rest induction =>
      rw [choicesSteps]
      split <;> simp [kept_choiceSteps, induction]

theorem kept_statesSteps (index : Nat) (states : List State) :
    Kept (codeOf (statesSteps settings index states)) := by
  induction states generalizing index with
  | nil => exact .nil
  | cons state rest induction =>
      have body : Kept (codeOf (state.body.flatMap (contentSteps settings))) :=
        kept_flatMap kept_contentSteps
      simp [statesSteps, stateSteps, body, kept_choicesSteps, induction]

theorem kept_preambleSteps : Kept (codeOf (preambleSteps settings)) := by
  have sets (entry : String × Value) : Kept (codeOf
      [.emit (.push entry.2), .push entry.1, .invoke "setContext"]) := by simp
  simp only [preambleSteps, codeOf_append, Instruction.Kept.append_iff]
  refine ⟨kept_flatMap sets, ?_⟩
  split <;> simp

theorem kept_script (document : Document) : Kept (codeOf (script settings document)) := by
  have warns : Kept (codeOf (whitespaceWarnings settings)) := by
    rw [whitespaceWarnings]
    split <;> simp
  simp [script, warns, kept_preambleSteps, kept_statesSteps]

/-- The instructions of a compiled document are kept. -/
theorem kept_of_compile {document : Document} {compiled : Compiled}
    (accepted : compile document = .ok compiled) : Kept compiled.program.instructions := by
  obtain ⟨settings, -, laid⟩ := compile_laid accepted
  rw [laid.instructions]
  exact kept_script document

end Compile

end Gamebook
