import Gamebook.Proofs.Compile.Acceptance
import Gamebook.Proofs.Compile.Alike

/-!
# Remarks

A code block whose language is `comment` is a remark.  In a body and in the effects of an option a
remark is no step of the script.  Among preconditions it is refused like any other code block, so
there it can be left out only if the document is refused for something else, or not at all.
-/

namespace Gamebook.Compile

open Story (Choice Content Document Settings State)
open Text (Span)

/-! ## Documents with other contents -/

/-- Contents but for the remarks. -/
def withoutComments (contents : List Content) : List Content :=
  contents.filter fun content => !content.isComment

/-- A document with other preconditions, and other contents in bodies and effects. -/
def mapContents (guards bodies : List Content → List Content) (document : Document) : Document :=
  let option (choice : Choice) : Choice :=
    { choice with preconditions := guards choice.preconditions, effects := bodies choice.effects }
  { document with
    states := document.states.map fun state =>
      { state with body := bodies state.body, choices := state.choices.map option } }

variable {related : List Step → List Step → Prop} {settings : Settings} {document : Document}
  {guards bodies : List Content → List Content}

/-- A document with other contents is like the document itself if the steps of its contents are. -/
theorem script_mapContents (congruence : Congruence related)
    (bodies_related : ∀ contents : List Content, related (contents.flatMap (contentSteps settings))
      ((bodies contents).flatMap (contentSteps settings)))
    (guards_related : ∀ state ∈ document.states, ∀ choice ∈ state.choices,
      ∀ {steps more : List Step}, related steps more →
        related (guardSteps choice.preconditions steps)
          (guardSteps (guards choice.preconditions) more)) :
    related (script settings document) (script settings (mapContents guards bodies document)) := by
  refine congruence.script (List.forall₂_map_right_iff.mpr (List.forall₂_same.mpr ?_))
  intro state in_document
  refine ⟨rfl, rfl, bodies_related state.body, ?_⟩
  refine List.forall₂_map_right_iff.mpr (List.forall₂_same.mpr ?_)
  intro choice in_state
  exact ⟨rfl, rfl, rfl, rfl, guards_related state in_document choice in_state,
    bodies_related choice.effects⟩

/-! ## Remarks in bodies and effects -/

/-- A remark is no step. -/
theorem contentSteps_withoutComments (contents : List Content) :
    (withoutComments contents).flatMap (contentSteps settings) =
      contents.flatMap (contentSteps settings) := by
  induction contents with
  | nil => rfl
  | cons content rest induction =>
      rw [withoutComments] at induction ⊢
      cases remark : content.isComment with
      | false => simp [remark, induction]
      | true =>
          have nothing : contentSteps settings content = [] := by
            cases content with
            | text | code => cases remark
            | fence language source span => exact if_pos remark
          simp [remark, induction, nothing]

theorem equality_congruence : Congruence Eq where
  refl _ := rfl
  append same more := by rw [same, more]

/-- Remarks in bodies and effects do not matter. -/
theorem compile_without_remarks (document : Document) :
    compile (mapContents id withoutComments document) = compile document := by
  cases read : Settings.ofTable document.settings with
  | error error => simp only [compile, mapContents, read]
  | ok settings =>
      have same : script settings document =
          script settings (mapContents id withoutComments document) :=
        script_mapContents equality_congruence
          (fun contents => (contentSteps_withoutComments contents).symm)
          fun _ _ choice _ => equality_congruence.guardSteps choice.preconditions
      rw [compile_eq read, same, ← compile_eq]
      exact read

/-! ## Remarks among preconditions -/

/-- Scripts that are the same, at least until the first one refuses a content with one of certain
spans. -/
inductive Until (refused : Span → Prop) : List Step → List Step → Prop
  | nil : Until refused [] []
  | cons (step : Step) {steps others : List Step} (rest : Until refused steps others) :
      Until refused (step :: steps) (step :: others)
  | refuse {span : Span} (refuses : refused span) (steps others : List Step) :
      Until refused (.refuse span :: steps) others

section Until

variable {refused : Span → Prop} {steps others : List Step}

theorem until_congruence (refused : Span → Prop) : Congruence (Until refused) where
  refl steps := by
    induction steps with
    | nil => exact .nil
    | cons step _ induction => exact .cons step induction
  append same more := by
    induction same with
    | nil => exact more
    | cons step _ induction => exact .cons step induction
    | refuse refuses steps others => exact .refuse refuses _ _

/-- What is made of two such scripts is the same, or the first one fails at what it refuses. -/
theorem Until.run (same : Until refused steps others) (assembly : Assembly) :
    assembly.run others = assembly.run steps ∨
      ∃ span, refused span ∧ assembly.run steps = .error (.nonCodePrecondition span) := by
  induction same generalizing assembly with
  | nil => exact Or.inl rfl
  | @refuse span refuses steps others => exact Or.inr ⟨span, refuses, rfl⟩
  | cons step _ induction =>
      simp only [Assembly.run, List.foldlM_cons] at induction ⊢
      cases assembly.step step with
      | error error => exact Or.inl rfl
      | ok between => exact induction between

theorem guardSteps_of_ne_nil {contents : List Content} (nonempty : contents ≠ []) :
    guardSteps contents steps =
      contents.map preconditionStep ++ .invoke "jgz" :: block steps :=
  if_neg (by simpa using nonempty)

/-- Options with and without the remarks among their preconditions do the same until one of these is
refused. -/
theorem Until.guardSteps {contents : List Content}
    (refuses : ∀ content ∈ contents, content.isComment = true → refused content.span)
    (inside : Until refused steps others) :
    Until refused (guardSteps contents steps) (guardSteps (withoutComments contents) others) := by
  obtain ⟨front, back, rfl, plain, remark⟩ :=
    exists_front (fun content : Content => content.isComment = false) contents
  have front_kept : withoutComments front = front := by simpa [withoutComments] using plain
  cases back with
  | nil =>
      rw [List.append_nil, front_kept]
      exact (until_congruence refused).guardSteps front inside
  | cons content back =>
      have is_comment : content.isComment = true := by simpa using remark content rfl
      have refusal : preconditionStep content = .refuse content.span := by
        cases content with
        | text | fence => rfl
        | code => cases is_comment
      have first := refuses content (by simp) is_comment
      -- Without anything in front of the remark the guard itself may be left out with it.
      cases front with
      | nil =>
          rw [List.nil_append, guardSteps_of_ne_nil (by simp), List.map_cons, refusal]
          exact .refuse first _ _
      | cons head front =>
          have kept : withoutComments (head :: front ++ content :: back) =
              head :: front ++ withoutComments (content :: back) := by
            rw [withoutComments, List.filter_append]
            exact congrArg (· ++ _) front_kept
          rw [kept, guardSteps_of_ne_nil (by simp), guardSteps_of_ne_nil (by simp)]
          simp only [List.map_append, List.append_assoc]
          refine (until_congruence refused).append ((until_congruence refused).refl _) ?_
          rw [List.map_cons, refusal]
          exact .refuse first _ _

end Until

/-- A span of a remark among the preconditions of a document. -/
def RefusedRemark (document : Document) (span : Span) : Prop :=
  ∃ state ∈ document.states, ∃ choice ∈ state.choices, ∃ content ∈ choice.preconditions,
    content.isComment = true ∧ content.span = span

/-- Remarks do not matter unless the document is refused for one among its preconditions. -/
theorem compile_without_any_remarks (document : Document) :
    compile (mapContents withoutComments withoutComments document) = compile document ∨
      ∃ span, RefusedRemark document span ∧
        compile document = .error (.nonCodePrecondition span) := by
  cases read : Settings.ofTable document.settings with
  | error error => exact Or.inl (by simp only [compile, mapContents, read])
  | ok settings =>
      have same : Until (RefusedRemark document) (script settings document)
          (script settings (mapContents withoutComments withoutComments document)) := by
        refine script_mapContents (until_congruence _) (fun contents => ?_)
          fun state in_document choice in_state _ _ inside => inside.guardSteps ?_
        · rw [contentSteps_withoutComments]
          exact (until_congruence _).refl _
        · intro content among remark
          exact ⟨state, in_document, choice, in_state, content, among, remark, rfl⟩
      have read_also : Settings.ofTable
          (mapContents withoutComments withoutComments document).settings = .ok settings := read
      rw [compile_eq read, compile_eq read_also]
      rcases same.run .empty with equal | ⟨span, among, fails⟩
      · exact Or.inl (by rw [equal])
      · exact Or.inr ⟨span, among, by rw [fails]; rfl⟩

/-- A document with a remark among its preconditions is not compiled. -/
theorem not_compiled_of_remark {span : Span} (remark : RefusedRemark document span)
    (compiled : Compiled) : compile document ≠ .ok compiled := by
  intro accepted
  obtain ⟨state, in_document, choice, in_state, content, among, is_comment, -⟩ := remark
  obtain ⟨settings, -, compilable⟩ := compile_ok_iff.mp ⟨compiled, accepted⟩
  obtain ⟨code, span, rfl⟩ :=
    compilable.preconditions state in_document choice in_state content among
  cases is_comment

/-- Where remarks are transparent.  Those in bodies and effects can be left out of every document.
If those among preconditions are left out too, the outcome is the same unless the document is
refused for one of them; it is never compiled if there is one. -/
theorem remarks_transparent (document : Document) :
    compile (mapContents id withoutComments document) = compile document ∧
    (compile (mapContents withoutComments withoutComments document) = compile document ∨
      ∃ span, RefusedRemark document span ∧
        compile document = .error (.nonCodePrecondition span)) ∧
    ∀ span, RefusedRemark document span → ∀ compiled, compile document ≠ .ok compiled :=
  ⟨compile_without_remarks document, compile_without_any_remarks document,
    fun _ remark => not_compiled_of_remark remark⟩

/-- A story with a remark in front of the title of its only option. -/
def remarked : Document :=
  ⟨Table.empty, [⟨"A", [], [⟨some "Go", none, [], [.fence (some "comment") "why\n" ⟨7, 29⟩], [],
    ⟨5, 35⟩⟩], ⟨0, 35⟩⟩]⟩

theorem remarks_transparent_remarked :
    RefusedRemark remarked ⟨7, 29⟩ ∧ ∀ compiled, compile remarked ≠ .ok compiled := by
  have remark : RefusedRemark remarked ⟨7, 29⟩ :=
    ⟨_, .head _, _, .head _, _, .head _, rfl, rfl⟩
  exact ⟨remark, (remarks_transparent remarked).2.2 ⟨7, 29⟩ remark⟩

/-- A remark among preconditions is not transparent: without it the story is compiled. -/
theorem remark_refused :
    compile remarked = .error (.nonCodePrecondition ⟨7, 29⟩) ∧
      ∃ compiled,
        compile (mapContents withoutComments withoutComments remarked) = .ok compiled := by
  have succeeds :
      (compile (mapContents withoutComments withoutComments remarked)).isOk = true := by
    decide +kernel
  exact ⟨rfl, isOk_iff.mp succeeds⟩

end Gamebook.Compile
