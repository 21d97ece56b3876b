import Gamebook.Proofs.Compile.Site
import Gamebook.Proofs.Lists

/-!
# Documents that are alike

Two scripts may be related in a way that every script is to itself and that scripts in a row keep.
The scripts of two documents are then related if the documents differ in nothing but contents whose
steps are related.
-/

namespace Gamebook.Compile

open Story (Choice Content Document Settings State)

/-- What relates every script to itself, and scripts in a row if it relates each. -/
structure Congruence (related : List Step → List Step → Prop) : Prop where
  refl : ∀ steps, related steps steps
  append : ∀ {first second others more : List Step},
    related first others → related second more → related (first ++ second) (others ++ more)

section Alike

variable (related : List Step → List Step → Prop) (settings : Settings)

/-- Options that differ in nothing but their effects and preconditions, and whose effects and
preconditions are related. -/
structure ChoiceAlike (choice other : Choice) : Prop where
  text : other.text = choice.text
  link : other.link = choice.link
  directives : other.directives = choice.directives
  span : other.span = choice.span
  guard : ∀ {steps more : List Step}, related steps more →
    related (guardSteps choice.preconditions steps) (guardSteps other.preconditions more)
  effects : related (choice.effects.flatMap (contentSteps settings))
    (other.effects.flatMap (contentSteps settings))

/-- States that differ in nothing but their bodies and options, and whose bodies and options are
related. -/
structure StateAlike (state other : State) : Prop where
  name : other.name = state.name
  span : other.span = state.span
  body : related (state.body.flatMap (contentSteps settings))
    (other.body.flatMap (contentSteps settings))
  choices : List.Forall₂ (ChoiceAlike related settings) state.choices other.choices

end Alike

namespace Congruence

variable {related : List Step → List Step → Prop} (congruence : Congruence related)
  {settings : Settings} {steps others : List Step}

include congruence

theorem cons (step : Step) (rest : related steps others) :
    related (step :: steps) (step :: others) :=
  congruence.append (congruence.refl [step]) rest

theorem around (before after : List Step) (inside : related steps others) :
    related (before ++ steps ++ after) (before ++ others ++ after) :=
  congruence.append (congruence.append (congruence.refl before) inside) (congruence.refl after)

theorem block (inside : related steps others) : related (block steps) (block others) :=
  congruence.cons _ (congruence.append inside (congruence.refl _))

theorem guardSteps (preconditions : List Content) (inside : related steps others) :
    related (guardSteps preconditions steps) (guardSteps preconditions others) := by
  rw [Compile.guardSteps, Compile.guardSteps]
  split
  · exact inside
  · exact congruence.append (congruence.refl _) (congruence.cons _ (congruence.block inside))

theorem onceSteps (flag : Option String) (inside : related steps others) :
    related (onceSteps flag steps) (onceSteps flag others) := by
  cases flag with
  | none => exact inside
  | some flag =>
      exact congruence.cons _ (congruence.cons _ (congruence.cons _ (congruence.block inside)))

theorem choiceAlike (choice : Choice) : ChoiceAlike related settings choice choice where
  text := rfl
  link := rfl
  directives := rfl
  span := rfl
  guard := congruence.guardSteps choice.preconditions
  effects := congruence.refl _

theorem stateAlike (state : State) : StateAlike related settings state state where
  name := rfl
  span := rfl
  body := congruence.refl _
  choices := List.forall₂_same.mpr fun choice _ => congruence.choiceAlike choice

section Document

variable {choice other : Choice} {choices more : List Choice} {states later : List State}

theorem choiceSteps (alike : ChoiceAlike related settings choice other) (state : String)
    (flag : Option String) : related (choiceSteps settings state choice flag)
      (choiceSteps settings state other flag) := by
  have leave : leaveSteps settings state other = leaveSteps settings state choice := by
    simp only [leaveSteps, alike.link, alike.span]
  have effects : related (effectSteps settings state choice flag)
      (effectSteps settings state other flag) := by
    simp only [effectSteps, leave]
    exact congruence.around _ _ alike.effects
  have offer : related (offerSteps settings state choice flag)
      (offerSteps settings state other flag) := by
    simp only [offerSteps, titleWarnings, alike.text, alike.span]
    exact congruence.around _ _ (congruence.block effects)
  simp only [Compile.choiceSteps, directiveWarnings, alike.directives, alike.span]
  exact congruence.append (congruence.refl _) (congruence.onceSteps flag (alike.guard offer))

theorem choicesSteps (alike : List.Forall₂ (ChoiceAlike related settings) choices more)
    (state : String) (index : Nat) : related (choicesSteps settings state index choices)
      (choicesSteps settings state index more) := by
  induction alike generalizing index with
  | nil => exact congruence.refl []
  | @cons choice other _ _ first _ induction =>
      have once : other.isOnce = choice.isOnce := by
        simp only [Choice.isOnce, first.directives]
      rw [choicesSteps_cons, choicesSteps_cons, once]
      exact congruence.append (congruence.choiceSteps first state _) (induction _)

theorem statesSteps (alike : List.Forall₂ (StateAlike related settings) states later)
    (index : Nat) :
    related (statesSteps settings index states) (statesSteps settings index later) := by
  induction alike generalizing index with
  | nil => exact congruence.refl []
  | @cons state other _ _ first _ induction =>
      have once : onceCount other = onceCount state := by
        have flags : other.choices.map Choice.isOnce = state.choices.map Choice.isOnce :=
          map_eq_of_forall₂ first.choices fun choice other alike => by
            simp only [Choice.isOnce, alike.directives]
        have counted := congrArg (List.countP id) flags
        rwa [List.countP_map, List.countP_map] at counted
      rw [Compile.statesSteps, Compile.statesSteps, once]
      refine congruence.append ?_ (induction _)
      simp only [stateSteps, first.name, first.span]
      refine congruence.append (congruence.append ?_ ?_) (congruence.refl _)
      · exact congruence.cons _ first.body
      · exact congruence.cons _ (congruence.choicesSteps first.choices _ _)

/-- The scripts of documents that are alike are related. -/
theorem script {document similar : Document}
    (alike : List.Forall₂ (StateAlike related settings) document.states similar.states) :
    related (script settings document) (script settings similar) :=
  congruence.around _ _ (congruence.statesSteps alike 0)

end Document

end Congruence

end Gamebook.Compile
