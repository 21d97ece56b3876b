import Gamebook.Proofs.Compile.Spans
import Gamebook.Proofs.Lists
import Gamebook.Proofs.Tables

/-!
# Warnings

The warnings about a document that is compiled follow its states and options.  What they are about
can be mended in the document: directives without a meaning, missing titles, and an unknown
treatment of white space.  The program of the mended document is the same.
-/

namespace Gamebook.Compile

open Story (Choice Content Document Settings State Whitespace)

/-! ## What is warned of -/

/-- The warnings about an option: one for each directive without a meaning, and one if its title is
missing or has a backtick. -/
def optionWarnings (choice : Choice) : List Warning :=
  (choice.directives.filter fun directive => directive ≠ Story.onceDirective).map
      (fun directive =>
        ⟨"unknown directive \x60" ++ directive ++ "\x60 ignored", some choice.span⟩) ++
    match choice.text with
    | some text =>
      if '\x60' ∈ text.toList then
        [⟨"option text contains a backtick; inline code in option titles is not supported",
          some choice.span⟩]
      else []
    | none => [⟨"option has no text; offering it with an empty title", some choice.span⟩]

/-- The warning about settings, if there is one. -/
def settingsWarnings (settings : Settings) : List Warning :=
  match settings.whitespace with
  | .unknown mode => [⟨"unknown whitespace mode \x60" ++ mode ++ "\x60, normalizing", none⟩]
  | .normalize | .retain => []

/-- The warnings about a document: about its settings, then about its options in order. -/
def documentWarnings (settings : Settings) (document : Document) : List Warning :=
  settingsWarnings settings ++
    document.states.flatMap fun state => state.choices.flatMap optionWarnings

/-! ## Mending -/

/-- A mode of white space, or the usual one for one that is unknown. -/
def mendMode : Json → Json
  | .string mode =>
    match Settings.whitespaceOfMode mode with
    | .unknown _ => .string "normalize"
    | .normalize | .retain => .string mode
  | other => other

/-- A member of the settings of behaviour with a known mode of white space. -/
def mendMember (member : String × Json) : String × Json :=
  (member.1, if member.1 = "whitespace" then mendMode member.2 else member.2)

/-- The settings of behaviour with a known mode of white space. -/
def mendBehaviour : Json → Json
  | .object members => .object (members.map mendMember)
  | .array items => .array (items.modify 1 mendMode)
  | other => other

/-- Settings with a known mode of white space. -/
def mendSettings (table : Table Json) : Table Json :=
  match table.get? "options" with
  | some options => table.insert "options" (mendBehaviour options)
  | none => table

/-- An option with a title, without directives that have no meaning, and with the directive `@once`
at most once. -/
def mendChoice (choice : Choice) : Choice :=
  { choice with
    text := some (choice.text.getD "")
    directives :=
      (choice.directives.filter fun directive => directive = Story.onceDirective).take 1 }

/-- A state with mended options. -/
def mendState (state : State) : State :=
  { state with choices := state.choices.map mendChoice }

/-- A document without most of what is warned of; a backtick in a title stays. -/
def mend (document : Document) : Document :=
  ⟨mendSettings document.settings, document.states.map mendState⟩

/-- A treatment of white space that is known. -/
def knownMode : Whitespace → Whitespace
  | .unknown _ | .normalize => .normalize
  | .retain => .retain

/-- Settings with a known treatment of white space. -/
def mended (settings : Settings) : Settings :=
  { settings with whitespace := knownMode settings.whitespace }

variable {settings : Settings} {document : Document} {choice : Choice} {choices : List Choice}
  {state : State} {states : List State} {steps first second : List Step} {flag : Option String}

/-! ## The warnings of a script -/

theorem choiceWarnings_eq (choice : Choice) : choiceWarnings choice = optionWarnings choice := by
  have directives : warningsOf (directiveWarnings choice) =
      (choice.directives.filter fun directive => directive ≠ Story.onceDirective).map
        fun directive => ⟨"unknown directive \x60" ++ directive ++ "\x60 ignored",
          some choice.span⟩ := by
    rw [directiveWarnings, warningsOf, List.filterMap_map, ← List.filterMap_eq_map]
    rfl
  rw [choiceWarnings, optionWarnings, directives, titleWarnings]
  congr 1
  cases choice.text with
  | none => rfl
  | some text =>
      by_cases backtick : '\x60' ∈ text.toList <;>
        simp [backtick, warningsOf, Step.warning?]

/-- The warnings of a script are those about its document. -/
theorem warningsOf_script_eq (settings : Settings) (document : Document) :
    warningsOf (script settings document) = documentWarnings settings document := by
  have mode : warningsOf (whitespaceWarnings settings) = settingsWarnings settings := by
    rw [whitespaceWarnings, settingsWarnings]
    cases settings.whitespace <;> rfl
  rw [warningsOf_script, mode, documentWarnings, funext choiceWarnings_eq]

/-! ## Scripts without warnings -/

/-- The steps that do more than warn. -/
def actionsOf (steps : List Step) : List Step :=
  steps.filter fun step => step.warning?.isNone

@[simp]
theorem actionsOf_append :
    actionsOf (first ++ second) = actionsOf first ++ actionsOf second :=
  List.filter_append ..

theorem Warns.actionsOf_eq (warns : Warns steps) : actionsOf steps = [] := by
  refine List.filter_eq_nil_iff.mpr fun step member => ?_
  obtain ⟨warning, rfl⟩ := warns step member
  simp [Step.warning?]

/-- What has been assembled but for the warnings. -/
def Assembly.silent (assembly : Assembly) : Assembly :=
  { assembly with warnings := [] }

theorem define_silent (assembly : Assembly) (span : Text.Span) (label : String × Nat) :
    (assembly.define span label).map Assembly.silent =
      assembly.silent.define span label := by
  rw [Assembly.define, Assembly.define,
    show assembly.silent.labels = assembly.labels from rfl]
  split <;> rfl

theorem defineAll_silent (assembly : Assembly) (span : Text.Span) (labels : List (String × Nat)) :
    (labels.foldlM (fun (current : Assembly) label => current.define span label) assembly).map
        Assembly.silent =
      labels.foldlM (fun (current : Assembly) label => current.define span label)
        assembly.silent :=
  foldlM_map (fun current label => define_silent current span label) labels assembly

/-- A step that does more than warn does not depend on earlier warnings. -/
theorem step_silent {step : Step} (acts : step.warning? = none) (assembly : Assembly) :
    (assembly.step step).map Assembly.silent = assembly.silent.step step := by
  cases step with
  | warn warning => cases acts
  | emit | refuse | refer => rfl
  | define label span => exact define_silent assembly span _
  | splice code span =>
      rw [Assembly.step, Assembly.step]
      cases Code.compile code with
      | error error => rfl
      | ok fragment =>
          have labels := defineAll_silent assembly span
            (fragment.labels.entries.map fun entry =>
              (entry.1, assembly.instructions.length + entry.2))
          simp only [Assembly.splice]
          rw [show assembly.silent.instructions = assembly.instructions from rfl, ← labels]
          cases List.foldlM (fun current label => current.define span label) assembly _ <;> rfl

/-- What is assembled but for the warnings comes from the steps that do more than warn. -/
theorem run_silent (assembly : Assembly) (steps : List Step) :
    (assembly.run steps).map Assembly.silent =
      assembly.silent.run (actionsOf steps) := by
  induction steps generalizing assembly with
  | nil => rfl
  | cons step steps induction =>
      rw [Assembly.run, List.foldlM_cons]
      cases warned : step.warning? with
      | some warning =>
          obtain rfl : step = .warn warning := by
            cases step <;> first | cases warned; rfl | cases warned
          exact induction _
      | none =>
          rw [actionsOf, List.filter_cons_of_pos (by simp [warned]), Assembly.run,
            List.foldlM_cons, ← step_silent warned]
          cases assembly.step step with
          | error error => rfl
          | ok between => exact induction between

theorem finish_silent (assembly : Assembly) :
    assembly.silent.finish.map Compiled.program =
      assembly.finish.map Compiled.program := by
  rw [Assembly.finish, Assembly.finish]
  rw [show assembly.silent.checkReferences = assembly.checkReferences from rfl]
  cases assembly.checkReferences with
  | error error => rfl
  | ok =>
      simp only [Assembly.silent]
      cases Program.link assembly.instructions assembly.labels <;> rfl

/-- The program of a document comes from the steps of its script that do more than warn. -/
theorem compile_map_program (read : Settings.ofTable document.settings = .ok settings) :
    (compile document).map Compiled.program =
      (Assembly.empty.run (actionsOf (script settings document))).bind fun assembly =>
        assembly.finish.map Compiled.program := by
  rw [show Assembly.empty = Assembly.empty.silent from rfl, ← run_silent,
    compile_eq read]
  cases Assembly.empty.run (script settings document) with
  | error error => rfl
  | ok assembly => exact (finish_silent assembly).symm

/-! ## Mended settings -/

theorem canonical_mendMode (json : Json) : (mendMode json).canonical = mendMode json.canonical := by
  cases json with
  | string mode =>
      simp only [mendMode, Json.canonical]
      cases Settings.whitespaceOfMode mode <;> simp only [Json.canonical]
  | _ => simp only [mendMode, Json.canonical]

theorem canonicalMembers_map_mendMember (members : List (String × Json)) :
    Json.canonicalMembers (members.map mendMember) =
      (Json.canonicalMembers members).map mendMember := by
  induction members with
  | nil => rfl
  | cons member members induction =>
      obtain ⟨key, value⟩ := member
      rw [List.map_cons, mendMember, Json.canonicalMembers, Json.canonicalMembers, List.map_cons,
        induction, mendMember]
      dsimp only
      split
      · rw [canonical_mendMode]
      · rfl

theorem get?_toTable_mendMember (members : List (String × Json)) (key : String) :
    (Json.toTable (members.map mendMember)).get? key =
      ((Json.toTable members).get? key).map fun json =>
        if key = "whitespace" then mendMode json else json := by
  rw [Json.toTable, Json.toTable, canonicalMembers_map_mendMember]
  exact Table.get?_ofList_map
    (fun key json => if key = "whitespace" then mendMode json else json) _ key

theorem readWhitespace_mendMode (given : Option Json) :
    Settings.readOr Settings.readWhitespace .normalize (given.map mendMode) =
      (Settings.readOr Settings.readWhitespace .normalize given).map knownMode := by
  cases given with
  | none => rfl
  | some json =>
      cases json with
      | string mode =>
          have normal : Settings.whitespaceOfMode "normalize" = .normalize := rfl
          simp only [Option.map_some, mendMode, Settings.readOr, Settings.readWhitespace]
          cases known : Settings.whitespaceOfMode mode <;>
            simp [Settings.readString, Except.map, known, normal, knownMode]
      | _ => rfl

/-- A behaviour with a known treatment of white space. -/
def knownBehaviour (behaviour : Story.NoLink × Whitespace) : Story.NoLink × Whitespace :=
  (behaviour.1, knownMode behaviour.2)

/-- Both notations of the settings of behaviour read its two parts in the same order. -/
theorem readBoth_mendMode (noLink whitespace : Option Json)
    {next : Story.NoLink → Whitespace → Except Story.SettingsError (Story.NoLink × Whitespace)}
    (known : ∀ noLink whitespace, next noLink (knownMode whitespace) =
      (next noLink whitespace).map knownBehaviour) :
    (do
      let noLink ← Settings.readOr Settings.readNoLink .backToOptions noLink
      let whitespace ← Settings.readOr Settings.readWhitespace .normalize (whitespace.map mendMode)
      next noLink whitespace) =
    Except.map knownBehaviour (do
      let noLink ← Settings.readOr Settings.readNoLink .backToOptions noLink
      let whitespace ← Settings.readOr Settings.readWhitespace .normalize whitespace
      next noLink whitespace) := by
  rw [readWhitespace_mendMode]
  cases Settings.readOr Settings.readNoLink .backToOptions noLink with
  | error error => rfl
  | ok noLink =>
      cases Settings.readOr Settings.readWhitespace .normalize whitespace with
      | error error => rfl
      | ok whitespace => exact known noLink whitespace

theorem readBehaviour_mendBehaviour (json : Json) :
    Settings.readBehaviour (mendBehaviour json) =
      (Settings.readBehaviour json).map knownBehaviour := by
  cases json with
  | object members =>
      have noLink := get?_toTable_mendMember members "no_link_behaviour"
      have whitespace := get?_toTable_mendMember members "whitespace"
      simp only [if_true] at whitespace
      simp only [show ("no_link_behaviour" = "whitespace") = False by decide, if_false,
        Option.map_id'] at noLink
      simp only [mendBehaviour, Settings.readBehaviour, noLink, whitespace]
      exact readBoth_mendMode _ _ fun _ _ => rfl
  | array items =>
      have noLink : (items.modify 1 mendMode)[0]? = items[0]? := by simp
      have whitespace : (items.modify 1 mendMode)[1]? = items[1]?.map mendMode := by simp
      simp only [mendBehaviour, Settings.readBehaviour, noLink, whitespace, List.length_modify]
      exact readBoth_mendMode _ _ fun _ _ => by split <;> rfl
  | _ => rfl

/-- The settings of a mended document are mended; those that cannot be read still cannot. -/
theorem ofTable_mendSettings (table : Table Json) :
    Settings.ofTable (mendSettings table) = (Settings.ofTable table).map mended := by
  have other {key : String} (apart : key ≠ "options") :
      (mendSettings table).get? key = table.get? key := by
    rw [mendSettings]
    split
    · rw [Table.get?_insert, if_neg apart.symm]
    · rfl
  have options : Settings.readOr Settings.readBehaviour (.backToOptions, .normalize)
      ((mendSettings table).get? "options") =
        (Settings.readOr Settings.readBehaviour (.backToOptions, .normalize)
          (table.get? "options")).map knownBehaviour := by
    rw [mendSettings]
    cases given : table.get? "options" with
    | none => simp only [given]; rfl
    | some json =>
        simp only [Table.get?_insert, if_true]
        exact readBehaviour_mendBehaviour json
  rw [Settings.ofTable, Settings.ofTable, other (by decide), other (by decide), options]
  cases Settings.readOr Settings.readContext Table.empty (table.get? "initial-context") with
  | error error => rfl
  | ok context =>
      cases Settings.readOr Settings.readOptionalString none (table.get? "initial-state") with
      | error error => rfl
      | ok state =>
          cases Settings.readOr Settings.readBehaviour (.backToOptions, .normalize)
            (table.get? "options") <;> rfl

/-! ## Mended documents -/

@[simp]
theorem isOnce_mendChoice (choice : Choice) : (mendChoice choice).isOnce = choice.isOnce := by
  have only : ∀ directive ∈ choice.directives.filter fun directive =>
      directive = Story.onceDirective, directive = Story.onceDirective :=
    fun directive member => of_decide_eq_true (List.mem_filter.mp member).2
  rw [Bool.eq_iff_iff, Choice.isOnce, Choice.isOnce, List.contains_iff_mem, List.contains_iff_mem,
    mendChoice]
  constructor
  · intro kept
    exact (List.mem_filter.mp (List.mem_of_mem_take kept)).1
  · intro given
    have kept : Story.onceDirective ∈ choice.directives.filter fun directive =>
        directive = Story.onceDirective := List.mem_filter.mpr ⟨given, by simp⟩
    cases filtered : choice.directives.filter fun directive =>
        directive = Story.onceDirective with
    | nil =>
        rw [filtered] at kept
        cases kept
    | cons first others =>
        rw [filtered] at only
        rw [List.take_succ_cons, only first List.mem_cons_self]
        exact List.mem_cons_self

theorem contentSteps_mended (content : Content) :
    contentSteps (mended settings) content = contentSteps settings content := by
  have retains : (mended settings).retainsWhitespace = settings.retainsWhitespace := by
    rw [Settings.retainsWhitespace, Settings.retainsWhitespace, mended]
    cases settings.whitespace <;> rfl
  cases content with
  | text run => simp only [contentSteps, runText, retains]
  | code | fence => rfl

theorem actionsOf_choiceSteps_mend (state : String) :
    actionsOf (choiceSteps (mended settings) state (mendChoice choice) flag) =
      actionsOf (choiceSteps settings state choice flag) := by
  have effects : effectSteps (mended settings) state (mendChoice choice) flag =
      effectSteps settings state choice flag := by
    have contents : choice.effects.flatMap (contentSteps (mended settings)) =
        choice.effects.flatMap (contentSteps settings) :=
      List.flatMap_congr fun content _ => contentSteps_mended content
    simp only [effectSteps, mendChoice, contents]
    rfl
  have lead : actionsOf (leadSteps (mendChoice choice) flag) =
      actionsOf (leadSteps choice flag) := by
    simp only [leadSteps, actionsOf_append, (directiveWarnings_warns _).actionsOf_eq,
      (titleWarnings_warns _).actionsOf_eq]
    rfl
  rw [choiceSteps_eq, choiceSteps_eq, effects]
  simp only [actionsOf_append, lead]
  rfl

theorem actionsOf_choicesSteps_mend (state : String) (index : Nat) (choices : List Choice) :
    actionsOf (choicesSteps (mended settings) state index (choices.map mendChoice)) =
      actionsOf (choicesSteps settings state index choices) := by
  induction choices generalizing index with
  | nil => rfl
  | cons choice choices induction =>
      rw [List.map_cons, choicesSteps_cons, choicesSteps_cons, actionsOf_append, actionsOf_append,
        actionsOf_choiceSteps_mend, isOnce_mendChoice, induction]

theorem actionsOf_statesSteps_mend (index : Nat) (states : List State) :
    actionsOf (statesSteps (mended settings) index (states.map mendState)) =
      actionsOf (statesSteps settings index states) := by
  induction states generalizing index with
  | nil => rfl
  | cons state states induction =>
      have once : onceCount (mendState state) = onceCount state := by
        rw [onceCount, onceCount, mendState, List.countP_map]
        exact List.countP_congr fun choice _ => by rw [Function.comp, isOnce_mendChoice]
      have body : state.body.flatMap (contentSteps (mended settings)) =
          state.body.flatMap (contentSteps settings) :=
        List.flatMap_congr fun content _ => contentSteps_mended content
      have own : actionsOf (stateSteps (mended settings) index (mendState state)) =
          actionsOf (stateSteps settings index state) := by
        have choices := @actionsOf_choicesSteps_mend settings state.name index state.choices
        simp only [stateSteps, mendState, body, actionsOf, List.filter_append,
          List.filter_cons] at choices ⊢
        rw [choices]
      rw [List.map_cons, statesSteps, statesSteps, actionsOf_append, actionsOf_append, once,
        induction, own]

/-- The scripts of a document and the mended one differ in warnings only. -/
theorem actionsOf_script_mend (settings : Settings) (document : Document) :
    actionsOf (script (mended settings) (mend document)) =
      actionsOf (script settings document) := by
  have states := @actionsOf_statesSteps_mend settings 0 document.states
  simp only [script, actionsOf_append, (whitespaceWarnings_warns _).actionsOf_eq, mend, states]
  rfl

/-- A mended document gives the same program, or is refused for the same reason. -/
theorem compile_mend (document : Document) :
    (compile (mend document)).map Compiled.program =
      (compile document).map Compiled.program := by
  have settings_mended : Settings.ofTable (mend document).settings =
      (Settings.ofTable document.settings).map mended := ofTable_mendSettings document.settings
  cases read : Settings.ofTable document.settings with
  | error error =>
      rw [read] at settings_mended
      rw [compile, compile, settings_mended, read]
      rfl
  | ok settings =>
      rw [read] at settings_mended
      rw [compile_map_program read, compile_map_program settings_mended, actionsOf_script_mend]

/-- The warnings about a document that is compiled are exactly these: one for an unknown treatment
of white space, then for each option, in the order of states and options, one for each directive
other than `@once` and one for a title that is missing or has a backtick.  They are harmless: if
directives that are unknown or repeated are left out, missing titles are empty, and an unknown
treatment of white space is the usual one, then the program is the same; and a document that is
refused is refused for the same reason. -/
theorem warnings_complete_and_harmless (document : Document) :
    (∀ compiled, compile document = .ok compiled →
      ∃ settings, Settings.ofTable document.settings = .ok settings ∧
        compiled.warnings = documentWarnings settings document) ∧
    (compile (mend document)).map Compiled.program =
      (compile document).map Compiled.program := by
  refine ⟨fun compiled accepted => ?_, compile_mend document⟩
  obtain ⟨settings, read, given⟩ := compile_warnings accepted
  exact ⟨settings, read, given.trans (warningsOf_script_eq settings document)⟩

end Gamebook.Compile
