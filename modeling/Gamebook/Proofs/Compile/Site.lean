import Gamebook.Proofs.Compile.Layout
import Gamebook.Proofs.Lists
import Gamebook.Proofs.Program.Blocks

/-!
# The options of a document in its program

An option stands at one place of a document, and its steps stand at one place of the script.  The
effects of the option are a block of the program; the offset of its first instruction is what the
option is queued with.  Different options take up different parts of the program, and those that
disappear when they are chosen are remembered under different keys.
-/

namespace Gamebook.Compile

open Story (Choice Content Document Settings State)

/-! ## Steps in a row -/

variable {settings : Settings}

theorem choicesSteps_cons (state : String) (index : Nat) (choice : Choice) (rest : List Choice) :
    choicesSteps settings state index (choice :: rest) =
      choiceSteps settings state choice (if choice.isOnce then some (onceFlag index) else none) ++
        choicesSteps settings state (if choice.isOnce then index + 1 else index) rest := by
  rw [choicesSteps]
  split <;> rfl

theorem choicesSteps_append (state : String) (index : Nat) (first second : List Choice) :
    choicesSteps settings state index (first ++ second) =
      choicesSteps settings state index first ++
        choicesSteps settings state (index + first.countP Choice.isOnce) second := by
  induction first generalizing index with
  | nil => rfl
  | cons choice rest induction =>
      rw [List.cons_append, choicesSteps_cons, choicesSteps_cons, induction, List.append_assoc,
        List.countP_cons]
      congr 3
      split <;> omega

/-- The steps that test whether an option was chosen. -/
def onceLead (flag : Option String) : List Step :=
  match flag with
  | some flag => [.push flag, .invoke "hasContext", .invoke "jz", .emit .openBlock]
  | none => []

/-- The steps that test the preconditions of an option. -/
def guardLead (choice : Choice) : List Step :=
  if choice.preconditions.isEmpty then []
  else choice.preconditions.map preconditionStep ++ [.invoke "jgz", .emit .openBlock]

/-- The steps of an option before its title. -/
def leadSteps (choice : Choice) (flag : Option String) : List Step :=
  directiveWarnings choice ++ onceLead flag ++ guardLead choice ++ titleWarnings choice

/-- The steps that push the title of an option and the offset of its effects. -/
def headerSteps (choice : Choice) : List Step :=
  [.push (choice.text.getD ""), .invoke "ppc", .emit (.pushNumber 4), .invoke "+"]

/-- The steps behind the one that queues an option. -/
def trailSteps (choice : Choice) (flag : Option String) : List Step :=
  (if choice.preconditions.isEmpty then [] else [.emit .closeBlock]) ++
    match flag with
    | some _ => [.emit .closeBlock]
    | none => []

/-- The steps of an option in order. -/
theorem choiceSteps_eq (state : String) (choice : Choice) (flag : Option String) :
    choiceSteps settings state choice flag =
      leadSteps choice flag ++ (headerSteps choice ++
        (block (effectSteps settings state choice flag) ++
          (.invoke "response" :: trailSteps choice flag))) := by
  simp only [choiceSteps, leadSteps, onceLead, guardLead, headerSteps, trailSteps, offerSteps,
    guardSteps, onceSteps]
  cases flag <;> cases choice.preconditions.isEmpty <;> simp [block]

/-! ## Warnings -/

/-- Steps that give warnings and nothing else. -/
def Warns (steps : List Step) : Prop :=
  ∀ step ∈ steps, ∃ warning, step = .warn warning

namespace Warns

variable {steps : List Step} {step : Step}

theorem code (warns : Warns steps) : codeOf steps = [] := by
  apply List.flatMap_eq_nil_iff.mpr
  intro step member
  obtain ⟨warning, rfl⟩ := warns step member
  rfl

theorem not_mem (warns : Warns steps) (other : ∀ warning, step ≠ .warn warning) : step ∉ steps := by
  intro member
  obtain ⟨warning, same⟩ := warns step member
  exact other warning same

end Warns

theorem directiveWarnings_warns (choice : Choice) : Warns (directiveWarnings choice) := by
  intro step member
  obtain ⟨directive, -, rfl⟩ := List.mem_map.mp member
  exact ⟨_, rfl⟩

theorem titleWarnings_warns (choice : Choice) : Warns (titleWarnings choice) := by
  intro step member
  rw [titleWarnings] at member
  split at member
  · split at member
    · exact ⟨_, List.mem_singleton.mp member⟩
    · simp at member
  · exact ⟨_, List.mem_singleton.mp member⟩

theorem whitespaceWarnings_warns (settings : Settings) : Warns (whitespaceWarnings settings) := by
  intro step member
  rw [whitespaceWarnings] at member
  split at member
  · exact ⟨_, List.mem_singleton.mp member⟩
  · simp at member

/-! ## States in a row -/

/-- The number of options of states that disappear. -/
def onceCounts (states : List State) : Nat :=
  (states.map onceCount).sum

theorem statesSteps_append (index : Nat) (first second : List State) :
    statesSteps settings index (first ++ second) =
      statesSteps settings index first ++
        statesSteps settings (index + onceCounts first) second := by
  induction first generalizing index with
  | nil => rfl
  | cons state rest induction =>
      rw [List.cons_append, statesSteps, statesSteps, induction, List.append_assoc]
      simp only [onceCounts, List.map_cons, List.sum_cons, Nat.add_assoc]

/-! ## Sites -/

/-- The place of an option in a document. -/
structure Site (document : Document) where
  /-- The states before the option's state. -/
  earlierStates : List State
  /-- The state that has the option. -/
  state : State
  /-- The states behind it. -/
  laterStates : List State
  /-- The options before the option in its state. -/
  earlierChoices : List Choice
  /-- The option. -/
  choice : Choice
  /-- The options behind it. -/
  laterChoices : List Choice
  /-- The states are those of the document. -/
  states : document.states = earlierStates ++ state :: laterStates
  /-- The options are those of the state. -/
  choices : state.choices = earlierChoices ++ choice :: laterChoices

namespace Site

variable {document : Document} (site : Site document)

theorem state_mem : site.state ∈ document.states := by
  simp [site.states]

theorem choice_mem : site.choice ∈ site.state.choices := by
  simp [site.choices]

/-- The number of options before the site that disappear. -/
def index : Nat :=
  onceCounts site.earlierStates + site.earlierChoices.countP Choice.isOnce

/-- The key under which it is remembered that the option was chosen, if it disappears. -/
def flag? : Option String :=
  if site.choice.isOnce then some (onceFlag site.index) else none

/-- The steps of the option's state before those of the option. -/
def within (settings : Settings) : List Step :=
  .define site.state.name site.state.span :: site.state.body.flatMap (contentSteps settings) ++
    .define (optionsLabel site.state.name) site.state.span ::
      choicesSteps settings site.state.name (onceCounts site.earlierStates) site.earlierChoices

/-- The steps of a script before those of the option. -/
def before (settings : Settings) : List Step :=
  whitespaceWarnings settings ++ preambleSteps settings ++
    statesSteps settings 0 site.earlierStates ++ site.within settings

/-- The steps of the option. -/
def steps (settings : Settings) : List Step :=
  choiceSteps settings site.state.name site.choice site.flag?

/-- The steps of the option before its title. -/
def lead : List Step :=
  leadSteps site.choice site.flag?

/-- The steps of the option's effects. -/
def effects (settings : Settings) : List Step :=
  effectSteps settings site.state.name site.choice site.flag?

/-- The steps behind the one that queues the option. -/
def trail : List Step :=
  trailSteps site.choice site.flag?

/-- The steps of a script behind those of the option. -/
def after (settings : Settings) : List Step :=
  choicesSteps settings site.state.name
      (if site.choice.isOnce then site.index + 1 else site.index) site.laterChoices ++
    [.invoke "getResponse", .invoke "goto"] ++
      statesSteps settings (onceCounts site.earlierStates + onceCount site.state)
          site.laterStates ++
        [.invoke "exit"]

theorem steps_eq : site.steps settings =
    site.lead ++ (headerSteps site.choice ++ (block (site.effects settings) ++
      (.invoke "response" :: site.trail))) :=
  choiceSteps_eq site.state.name site.choice site.flag?

/-- The steps of a script around an option. -/
theorem script_eq : script settings document =
    site.before settings ++ (site.steps settings ++ site.after settings) := by
  have index_eq : onceCounts site.earlierStates + site.earlierChoices.countP Choice.isOnce =
      site.index := rfl
  rw [script, site.states, statesSteps_append, statesSteps, stateSteps, site.choices,
    choicesSteps_append, choicesSteps_cons]
  simp only [before, within, steps, after, flag?, Nat.zero_add, index_eq, List.append_assoc,
    List.cons_append]

/-! ## Offsets -/

/-- The offset of the first instruction of the option. -/
def start (settings : Settings) : Nat :=
  (codeOf (site.before settings)).length

/-- The offset of the instruction that pushes the title. -/
def heading (settings : Settings) : Nat :=
  site.start settings + (codeOf site.lead).length

/-- The offset of the brace that opens the block of effects. -/
def opening (settings : Settings) : Nat :=
  site.heading settings + 4

/-- The offset of the first instruction of the effects. -/
def entry (settings : Settings) : Nat :=
  site.opening settings + 1

/-- The offset of the brace that closes the block of effects. -/
def closing (settings : Settings) : Nat :=
  site.entry settings + (codeOf (site.effects settings)).length

/-- The offset behind the option. -/
def stop (settings : Settings) : Nat :=
  site.start settings + (codeOf (site.steps settings)).length

theorem stop_eq (settings : Settings) : site.stop settings =
    site.closing settings + 2 + (codeOf site.trail).length := by
  simp only [stop, steps_eq, closing, entry, opening, heading, codeOf_append, codeOf_cons,
    codeOf_nil, block, headerSteps, Step.code, Step.push, Step.invoke, List.length_append,
    List.length_cons, List.length_nil]
  omega

/-! ## Different sites -/

/-- One option stands before another in the document. -/
def Precedes (first second : Site document) : Prop :=
  first.earlierStates.length < second.earlierStates.length ∨
    first.earlierStates.length = second.earlierStates.length ∧
      first.earlierChoices.length < second.earlierChoices.length

variable {first second : Site document}

private theorem same_state
    (same : first.earlierStates.length = second.earlierStates.length) :
    first.earlierStates = second.earlierStates ∧ first.state = second.state ∧
      first.laterStates = second.laterStates := by
  obtain ⟨earlier, rest⟩ := List.append_inj (first.states.symm.trans second.states) same
  exact ⟨earlier, List.cons.inj rest⟩

/-- Options at different places are one before the other. -/
theorem precedes_or_precedes (different : first ≠ second) :
    first.Precedes second ∨ second.Precedes first := by
  rcases Nat.lt_trichotomy first.earlierStates.length second.earlierStates.length with
    less | same | greater
  · exact Or.inl (Or.inl less)
  · rcases Nat.lt_trichotomy first.earlierChoices.length second.earlierChoices.length with
      less | same_choice | greater
    · exact Or.inl (Or.inr ⟨same, less⟩)
    · refine absurd ?_ different
      obtain ⟨earlier, state, later⟩ := same_state same
      obtain ⟨earlier_choices, rest⟩ := List.append_inj
        (first.choices.symm.trans ((congrArg State.choices state).trans second.choices)) same_choice
      obtain ⟨choice, later_choices⟩ := List.cons.inj rest
      cases first
      cases second
      simp only at earlier state later earlier_choices choice later_choices
      subst earlier state later earlier_choices choice later_choices
      rfl
    · exact Or.inr (Or.inr ⟨same.symm, greater⟩)
  · exact Or.inr (Or.inl greater)

private theorem split_of_length_lt {α : Type} {first second later others : List α} {item other : α}
    (same : first ++ item :: later = second ++ other :: others)
    (less : first.length < second.length) : ∃ between, second = first ++ item :: between := by
  rcases append_eq_append_cons same with ⟨rest, rfl, -⟩ | ⟨rest, split, rfl⟩
  · simp only [List.length_append] at less
    omega
  · cases rest with
    | nil => simp at less
    | cons head rest =>
        cases split
        exact ⟨rest, rfl⟩

/-- The steps of an option come before those of a later one. -/
theorem Precedes.before (precedes : first.Precedes second) (settings : Settings) :
    ∃ between, second.before settings =
      first.before settings ++ (first.steps settings ++ between) := by
  have index_eq : onceCounts first.earlierStates + first.earlierChoices.countP Choice.isOnce =
      first.index := rfl
  rcases precedes with less | ⟨same, less⟩
  · obtain ⟨between, earlier⟩ :=
      split_of_length_lt (first.states.symm.trans second.states) less
    refine ⟨choicesSteps settings first.state.name
        (if first.choice.isOnce then first.index + 1 else first.index) first.laterChoices ++
      ([.invoke "getResponse", .invoke "goto"] ++
        (statesSteps settings (onceCounts first.earlierStates + onceCount first.state) between ++
          second.within settings)), ?_⟩
    rw [Site.before, earlier, statesSteps_append, statesSteps, stateSteps, first.choices,
      choicesSteps_append, choicesSteps_cons]
    simp only [Site.before, within, steps, flag?, Nat.zero_add, index_eq, List.append_assoc,
      List.cons_append]
  · obtain ⟨earlier, state, -⟩ := same_state same
    obtain ⟨between, earlier_choices⟩ := split_of_length_lt
      (first.choices.symm.trans ((congrArg State.choices state).trans second.choices)) less
    refine ⟨choicesSteps settings first.state.name
        (if first.choice.isOnce then first.index + 1 else first.index) between, ?_⟩
    rw [Site.before, Site.within, ← earlier, ← state, earlier_choices, choicesSteps_append,
      choicesSteps_cons]
    simp only [Site.before, within, steps, flag?, index_eq, List.append_assoc, List.cons_append]

/-- Different options take up different parts of the program. -/
theorem disjoint (different : first ≠ second) (settings : Settings) :
    first.stop settings ≤ second.start settings ∨ second.stop settings ≤ first.start settings := by
  have ordered {earlier later : Site document} (precedes : earlier.Precedes later) :
      earlier.stop settings ≤ later.start settings := by
    obtain ⟨between, split⟩ := precedes.before settings
    rw [start, split, stop, start]
    simp only [codeOf_append, List.length_append]
    omega
  exact (precedes_or_precedes different).imp ordered ordered

theorem Precedes.index_lt (precedes : first.Precedes second) (once : first.choice.isOnce = true) :
    first.index < second.index := by
  rcases precedes with less | ⟨same, less⟩
  · obtain ⟨between, earlier⟩ :=
      split_of_length_lt (first.states.symm.trans second.states) less
    have counted : onceCount first.state = first.earlierChoices.countP Choice.isOnce +
        (first.laterChoices.countP Choice.isOnce + 1) := by
      rw [onceCount, first.choices, List.countP_append, List.countP_cons_of_pos once]
    simp only [index, earlier, onceCounts, List.map_append, List.map_cons, List.sum_append,
      List.sum_cons, counted]
    omega
  · obtain ⟨earlier, state, -⟩ := same_state same
    obtain ⟨between, earlier_choices⟩ := split_of_length_lt
      (first.choices.symm.trans ((congrArg State.choices state).trans second.choices)) less
    simp only [index, ← earlier, earlier_choices, List.countP_append,
      List.countP_cons_of_pos once]
    omega

theorem onceFlag_injective {first second : Nat} (same : onceFlag first = onceFlag second) :
    first = second := by
  have digits : Nat.toDigits 10 first = Nat.toDigits 10 second := by
    have lists := congrArg String.toList same
    simpa [onceFlag, String.toList_append, Nat.toString_eq_ofList_toDigits] using lists
  rw [← Nat.ofDigitChars_toDigits (n := first) (by decide : 1 < 10) (by decide), digits,
    Nat.ofDigitChars_toDigits (by decide) (by decide)]

/-- Options that disappear are remembered under different keys. -/
theorem flag?_injective {flag : String} (first_flag : first.flag? = some flag)
    (second_flag : second.flag? = some flag) : first = second := by
  have once (site : Site document) (flagged : site.flag? = some flag) :
      site.choice.isOnce = true ∧ onceFlag site.index = flag := by
    rw [flag?] at flagged
    split at flagged
    · exact ⟨‹_›, Option.some.inj flagged⟩
    · cases flagged
  obtain ⟨first_once, first_key⟩ := once first first_flag
  obtain ⟨second_once, second_key⟩ := once second second_flag
  by_contra different
  have same := onceFlag_injective (first_key.trans second_key.symm)
  rcases precedes_or_precedes different with precedes | precedes
  · exact absurd same (precedes.index_lt first_once).ne
  · exact absurd same (precedes.index_lt second_once).ne'

/-- The effects of one option do not start within those of another. -/
theorem eq_of_entry (after : first.entry settings ≤ second.entry settings)
    (before : second.entry settings < first.closing settings) : second = first := by
  by_contra different
  have bounds := first.stop_eq settings
  have other_bounds := second.stop_eq settings
  have apart := disjoint different settings
  simp only [closing, entry, opening, heading] at *
  omega

end Site

end Gamebook.Compile
