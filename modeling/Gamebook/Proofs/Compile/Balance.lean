import Gamebook.Proofs.Compile.Calm

/-!
# Balanced steps

The layout of a document puts braces in pairs around the steps of an option, and nowhere else.  So
the instructions of an option or of a state are balanced if all the code in it is.
-/

namespace Gamebook

/-- Whatever fragment code stands for has balanced braces. -/
def Code.IsBalanced (code : String) : Prop :=
  ∀ fragment, Code.compile code = .ok fragment → Balanced fragment.instructions

/-- A content whose code, if it has any, is balanced. -/
def Story.Content.IsBalanced (content : Story.Content) : Prop :=
  ∀ code, content.code? = some code → Code.IsBalanced code

theorem Story.Document.IsOrderly.isBalanced {document : Story.Document}
    (orderly : document.IsOrderly) {content : Story.Content}
    (member : content ∈ document.contents) : content.IsBalanced :=
  fun code found fragment compiled => (orderly content member code found fragment compiled).balanced

namespace Compile

open Story (Choice Content Document Settings State)
open Text (Span)

variable {settings : Settings} {steps : List Step} {contents : List Content}

/-! ## Contents -/

theorem splice_balanced {code : String} (balanced : Code.IsBalanced code) (span : Span) :
    Balanced (Step.splice code span).code := by
  rw [Step.code]
  cases compiled : Code.compile code with
  | error error => exact .nil
  | ok fragment => exact balanced fragment compiled

theorem contentSteps_balanced {content : Content} (balanced : content.IsBalanced) :
    Balanced (codeOf (contentSteps settings content)) := by
  cases content with
  | text run =>
      exact .of_braceless (by simp [contentSteps, Step.code, Step.push, Step.invoke])
        (by simp [contentSteps, Step.code, Step.push, Step.invoke])
  | code source span => simpa [contentSteps] using splice_balanced (balanced source rfl) span
  | fence language source span =>
      rw [contentSteps]
      split
      · exact .nil
      · rename_i meant
        have code : (Content.fence language source span).code? = some source := if_neg meant
        simpa using splice_balanced (balanced source code) span

theorem contents_balanced (each : ∀ content ∈ contents, content.IsBalanced) :
    Balanced (codeOf (contents.flatMap (contentSteps settings))) := by
  rw [codeOf, List.flatMap_assoc]
  exact .flatMap fun content member => contentSteps_balanced (each content member)

theorem preconditionStep_balanced {content : Content} (balanced : content.IsBalanced) :
    Balanced (preconditionStep content).code := by
  cases content with
  | code source span => exact splice_balanced (balanced source rfl) span
  | text | fence => exact .nil

/-! ## Options -/

theorem block_code (steps : List Step) :
    codeOf (block steps) = .openBlock :: (codeOf steps ++ [.closeBlock]) := by
  simp [block, Step.code]

theorem block_balanced (balanced : Balanced (codeOf steps)) : Balanced (codeOf (block steps)) := by
  rw [block_code]
  exact balanced.block

theorem guardSteps_balanced (each : ∀ content ∈ contents, content.IsBalanced)
    (balanced : Balanced (codeOf steps)) : Balanced (codeOf (guardSteps contents steps)) := by
  rw [guardSteps]
  split
  · exact balanced
  · have tests : Balanced (codeOf (contents.map preconditionStep)) :=
      .flatMap fun step member => by
        obtain ⟨content, among, rfl⟩ := List.mem_map.mp member
        exact preconditionStep_balanced (each content among)
    have jumps : Balanced [Instruction.invoke "jgz"] := .single (by simp) (by simp)
    rw [codeOf_append, codeOf_cons]
    exact tests.append (jumps.append (block_balanced balanced))

theorem onceSteps_balanced (flag : Option String) (balanced : Balanced (codeOf steps)) :
    Balanced (codeOf (onceSteps flag steps)) := by
  cases flag with
  | none => exact balanced
  | some flag =>
      have tests : Balanced [Instruction.pushString flag, .invoke "hasContext", .invoke "jz"] :=
        .of_braceless (by simp) (by simp)
      exact tests.append (block_balanced balanced)

section Choices

variable {choice : Choice}

theorem leaveSteps_balanced (state : String) (choice : Choice) :
    Balanced (codeOf (leaveSteps settings state choice)) := by
  rcases leaveSteps_eq settings state choice with ⟨asked, label, leave, refers, -⟩ | leave
  · have asked_code : codeOf asked = [] := by
      refine List.flatMap_eq_nil_iff.mpr fun step member => ?_
      obtain ⟨name, span, rfl⟩ := refers step member
      rfl
    rw [leave, codeOf_append, asked_code]
    exact .of_braceless (by simp [Step.code, Step.push, Step.invoke])
      (by simp [Step.code, Step.push, Step.invoke])
  · rw [leave]
    exact .single (by simp) (by simp)

theorem effectSteps_balanced (state : String) (flag : Option String)
    (each : ∀ content ∈ choice.effects, content.IsBalanced) :
    Balanced (codeOf (effectSteps settings state choice flag)) := by
  have remembers : Balanced (codeOf (rememberSteps flag)) := by
    cases flag with
    | none => exact .nil
    | some flag =>
        exact .of_braceless (by simp [rememberSteps, Step.code, Step.push, Step.invoke])
          (by simp [rememberSteps, Step.code, Step.push, Step.invoke])
  rw [effectSteps_eq, codeOf_append, codeOf_append]
  exact remembers.append ((contents_balanced each).append (leaveSteps_balanced state choice))

theorem offerSteps_balanced (state : String) (flag : Option String)
    (each : ∀ content ∈ choice.effects, content.IsBalanced) :
    Balanced (codeOf (offerSteps settings state choice flag)) := by
  have header : Balanced [Instruction.pushString (choice.text.getD ""), .invoke "ppc",
      .pushNumber 4, .invoke "+"] := .of_braceless (by simp) (by simp)
  have queues : Balanced [Instruction.invoke "response"] := .single (by simp) (by simp)
  simp only [offerSteps, codeOf_append, (titleWarnings_warns choice).code, List.nil_append]
  exact (header.append (block_balanced (effectSteps_balanced state flag each))).append queues

theorem choiceSteps_balanced (state : String) (flag : Option String)
    (each : ∀ content ∈ choice.preconditions ++ choice.effects, content.IsBalanced) :
    Balanced (codeOf (choiceSteps settings state choice flag)) := by
  rw [choiceSteps, codeOf_append, (directiveWarnings_warns choice).code, List.nil_append]
  exact onceSteps_balanced flag <|
    guardSteps_balanced (fun content member => each content (List.mem_append_left _ member)) <|
      offerSteps_balanced state flag fun content member =>
        each content (List.mem_append_right _ member)

theorem choicesSteps_balanced (state : String) (index : Nat) {choices : List Choice}
    (each : ∀ choice ∈ choices, ∀ content ∈ choice.preconditions ++ choice.effects,
      content.IsBalanced) :
    Balanced (codeOf (choicesSteps settings state index choices)) := by
  induction choices generalizing index with
  | nil => exact .nil
  | cons choice rest induction =>
      rw [choicesSteps_cons, codeOf_append]
      exact (choiceSteps_balanced state _ (each choice List.mem_cons_self)).append
        (induction _ fun other member => each other (List.mem_cons_of_mem _ member))

end Choices

/-- The contents of an option are contents of the document. -/
theorem Site.mem_contents {document : Document} (site : Site document) {content : Content}
    (member : content ∈ site.choice.preconditions ++ site.choice.effects) :
    content ∈ document.contents :=
  mem_contents_of_choice site.state_mem site.choice_mem member

end Compile

end Gamebook
