import Gamebook.Trial.Check
import Mathlib.Data.List.Forall2
import Mathlib.Tactic.MkIffOfInductiveProp

/-!
# What a passed trial tells

Each part of a check succeeds exactly if what it compares agrees.  Where a trial passes, the story
is therefore as its plan says: a story that is expected to be refused cannot be loaded, and any
other one gives the warnings, comes to the end, shows the text and leaves the context that the plan
lists.
-/

namespace Gamebook

open Compile (Warning)

/-! ## Texts that occur in others -/

theorem Text.occursIn_iff {part whole : List Char} :
    Text.occursIn part whole = true ↔ part <:+: whole := by
  induction whole with
  | nil => simp [Text.occursIn]
  | cons first rest ih =>
    simp only [Text.occursIn, Bool.or_eq_true, List.isPrefixOf_iff_prefix, ih, List.infix_cons_iff]

theorem Text.occurs_iff {part whole : String} :
    Text.occurs part whole = true ↔ part.toList <:+: whole.toList :=
  Text.occursIn_iff

namespace Trial

variable {plan : Plan} {story : String}

/-! ## What a plan says -/

/-- A story is loaded as a machine with some warnings. -/
def Loads (story : String) (machine : Machine) (warnings : List Warning) : Prop :=
  ∃ document compiled, Compile.compileSource story = .ok (document, compiled) ∧
    Machine.create compiled.program Registry.quest = .ok machine ∧ compiled.warnings = warnings

/-- A story cannot be read or compiled, or its program cannot be loaded. -/
def Unloadable (story : String) : Prop :=
  (∃ error, Compile.compileSource story = .error error) ∨
    ∃ document compiled error, Compile.compileSource story = .ok (document, compiled) ∧
      Machine.create compiled.program Registry.quest = .error error

/-- A warning is one that is expected: it has the text, and stands on the line if one is given. -/
@[mk_iff]
structure Meets (story : String) (found : Warning) (expected : ExpectedWarning) : Prop where
  text : expected.part.toList <:+: found.message.toList
  place : ∀ line, expected.line = some line →
    ∃ span, found.span = some span ∧ Text.lineOf story span.start = line

/-- A key holds what is listed for it. -/
def Holds (context : Context) (key : String) (expected : Toml) : Prop :=
  ∃ value found, valueOf? expected = some value ∧ context.get? key = some found ∧
    found.equals value = true

/-- A run comes to the end that is expected: to an error if its text is given; else to a choice that
is not made, if that is expected; and to completion if neither is. -/
@[mk_iff]
structure Ends (plan : Plan) (ending : Ending) : Prop where
  failed : ∀ part, plan.error = some part →
    ∃ error, ending = .failed error ∧ part.toList <:+: error.message.toList
  aborted : plan.error = none → plan.aborted = true → ∃ error, ending = .aborted error
  completed : plan.error = none → plan.aborted = false → ending = .completed

/-- A story that has been loaded and played is as its plan says. -/
@[mk_iff]
structure Fulfills (plan : Plan) (story : String) (warnings : List Warning) (after : Machine)
    (ending : Ending) : Prop where
  warned : ∀ expected, plan.warnings = some expected →
    List.Forall₂ (Meets story) warnings expected
  ends : Ends plan ending
  told : ∀ expected, plan.output = some expected →
    Text.trim (displayAll after.emitted) = Text.trim expected
  kept : ∀ expected, plan.context = some expected →
    ∀ entry ∈ expected, Holds after.context entry.1 entry.2

/-! ## What each part of a check compares -/

/-- Two checks succeed one after the other if both do. -/
theorem seq_eq_ok_iff {first second : Except Mismatch Unit} :
    (first >>= fun _ => second) = .ok () ↔ first = .ok () ∧ second = .ok () := by
  cases first <;> simp [bind, Except.bind]

theorem checkGiven_eq_ok_iff {α : Type} {compare : α → Except Mismatch Unit} {given : Option α} :
    checkGiven compare given = .ok () ↔ ∀ expected, given = some expected →
      compare expected = .ok () := by
  cases given <;> simp [checkGiven]

theorem checkWarning_eq_ok_iff {index : Nat} {found : Warning} {expected : ExpectedWarning} :
    checkWarning story index found expected = .ok () ↔ Meets story found expected := by
  rw [meets_iff, ← Text.occurs_iff, checkWarning]
  by_cases text : Text.occurs expected.part found.message = true
  · cases expected.line <;> cases found.span <;> simp [text]
  · simp [text]

theorem checkEachWarning_eq_ok_iff {found : List Warning} {expected : List ExpectedWarning}
    (index : Nat) (same : found.length = expected.length) :
    checkEachWarning story index found expected = .ok () ↔
      List.Forall₂ (Meets story) found expected := by
  induction found generalizing expected index with
  | nil =>
    obtain rfl := List.length_eq_zero_iff.mp same.symm
    simp [checkEachWarning]
  | cons warning others ih =>
    cases expected with
    | nil => cases same
    | cons first rest =>
      rw [checkEachWarning, seq_eq_ok_iff, checkWarning_eq_ok_iff, List.forall₂_cons,
        ih (index + 1) (Nat.succ.inj same)]

/-- The warnings are compared one to one: none may be missing and none left over. -/
theorem checkWarnings_eq_ok_iff {found : List Warning} {expected : List ExpectedWarning} :
    checkWarnings story found expected = .ok () ↔
      List.Forall₂ (Meets story) found expected := by
  rw [checkWarnings]
  split
  · next same => exact checkEachWarning_eq_ok_iff 1 same
  · next differ => simp only [reduceCtorEq, false_iff]; exact fun met => differ met.length_eq

/-- A run that was dropped or given up agrees with no plan. -/
theorem checkEnding_eq_ok_iff {ending : Ending} :
    checkEnding plan ending = .ok () ↔ Ends plan ending := by
  rw [ends_iff, checkEnding.eq_def]
  simp only [← Text.occurs_iff]
  cases ending <;> cases plan.error <;> cases plan.aborted <;> simp

theorem checkOutput_eq_ok_iff {found expected : String} :
    checkOutput found expected = .ok () ↔ Text.trim found = Text.trim expected := by
  simp [checkOutput]

theorem checkKey_eq_ok_iff {context : Context} {key : String} {expected : Toml} :
    checkKey context key expected = .ok () ↔ Holds context key expected := by
  rw [checkKey, Holds]
  cases valueOf? expected with
  | none => simp
  | some value => cases context.get? key <;> simp

theorem checkContext_eq_ok_iff {context : Context} {expected : List (String × Toml)} :
    checkContext context expected = .ok () ↔
      ∀ entry ∈ expected, Holds context entry.1 entry.2 := by
  induction expected with
  | nil => simp [checkContext]
  | cons entry rest ih =>
    rw [checkContext, seq_eq_ok_iff, checkKey_eq_ok_iff, ih, List.forall_mem_cons]

/-! ## The check as a whole -/

theorem checkLoaded_eq_ok_iff {machine : Machine} {warnings : List Warning} :
    checkLoaded plan story machine warnings = .ok () ↔
      Fulfills plan story warnings (plan.play machine).1 (plan.play machine).2 := by
  rw [fulfills_iff, checkLoaded]
  simp only [seq_eq_ok_iff, checkGiven_eq_ok_iff, checkWarnings_eq_ok_iff, checkEnding_eq_ok_iff,
    checkOutput_eq_ok_iff, checkContext_eq_ok_iff]

theorem load_eq_ok_iff {machine : Machine} {warnings : List Warning} :
    load story = .ok (machine, warnings) ↔ Loads story machine warnings := by
  rw [load, Loads]
  rcases Compile.compileSource story with error | ⟨document, compiled⟩
  · simp
  · cases creating : Machine.create compiled.program Registry.quest <;> simp [creating]

theorem exists_load_error_iff :
    (∃ reason, load story = .error reason) ↔ Unloadable story := by
  rw [load, Unloadable]
  rcases Compile.compileSource story with error | ⟨document, compiled⟩
  · simp
  · cases creating : Machine.create compiled.program Registry.quest <;> simp [creating]

/-- A story that is expected to be refused is not played, so that nothing else is compared. -/
theorem check_refused_iff (refused : plan.refused = true) :
    check plan story = .ok () ↔ Unloadable story := by
  rw [← exists_load_error_iff, check]
  cases load story <;> simp [refused]

theorem check_loaded_iff (loadable : plan.refused = false) :
    check plan story = .ok () ↔ ∃ machine warnings, Loads story machine warnings ∧
      Fulfills plan story warnings (plan.play machine).1 (plan.play machine).2 := by
  simp only [← load_eq_ok_iff, ← checkLoaded_eq_ok_iff]
  rw [check]
  rcases load story with reason | ⟨machine, warnings⟩ <;> simp [loadable]

/-- A trial passes only if the story is as the plan says.  A story that is expected to be refused
cannot be loaded, and then it is not played.  Any other one is loaded, gives the warnings of the
plan one to one, comes to the end that is expected, and has then shown the text and left the context
that the plan lists. -/
theorem fulfilled_of_check (passes : check plan story = .ok ()) :
    (plan.refused = true → Unloadable story) ∧
      (plan.refused = false → ∃ machine warnings, Loads story machine warnings ∧
        Fulfills plan story warnings (plan.play machine).1 (plan.play machine).2) := by
  constructor
  · intro refused
    exact (check_refused_iff refused).mp passes
  · intro loadable
    exact (check_loaded_iff loadable).mp passes

/-! ## Trials that pass -/

/-- A trial whose check can be evaluated. -/
theorem check_eq_ok (succeeds : (check plan story).isOk = true) : check plan story = .ok () := by
  cases checked : check plan story with
  | error mismatch => rw [checked] at succeeds; cases succeeds
  | ok result => rfl

/-- The plan without any wishes: the story comes to its end without a choice. -/
def Plan.bare : Plan where
  description := none
  choices := []
  seed := 0
  output := none
  context := none
  error := none
  refused := false
  aborted := false
  warnings := none

/-- A story with a warning, an option, a text, and a key that is set. -/
def departure : String :=
  "# Door\n\n- \x60@twice\x60 [Leave](#Out)\n\n# Out\n\nGone.\n\n\x6015 \"gold\" setContext\x60\n"

/-- The plan of its trial. -/
def departurePlan : Plan :=
  { Plan.bare with
    choices := [0]
    output := some "Gone."
    context := some [("gold", .integer 15)]
    warnings := some [⟨"@twice", some 3⟩] }

theorem fulfilled_of_check_departure :
    check departurePlan departure = .ok () ∧ ∃ machine warnings,
      Loads departure machine warnings ∧ Fulfills departurePlan departure warnings
        (departurePlan.play machine).1 (departurePlan.play machine).2 := by
  have passes : check departurePlan departure = .ok () := by
    apply check_eq_ok
    decide +kernel
  exact ⟨passes, (fulfilled_of_check passes).2 rfl⟩

/-- Of two wishes that exclude each other, one is not looked at.  A story that is expected to be
refused need not fail with the error that is expected too, for it is not played; and a story that is
expected to fail need not end at a choice. -/
theorem excluded_wishes_pass :
    (check { Plan.bare with refused := true, error := some "number" } "# A\n\n# A\n" = .ok () ∧
      ¬ ∃ machine warnings, Loads "# A\n\n# A\n" machine warnings) ∧
    (check { Plan.bare with error := some "number", aborted := true }
        "# A\n\n\x60\"x\" 1 +\x60\n" = .ok () ∧
      ∀ machine warnings, Loads "# A\n\n\x60\"x\" 1 +\x60\n" machine warnings → ∀ error,
        (Plan.play { Plan.bare with error := some "number", aborted := true } machine).2 ≠
          .aborted error) := by
  have refusal : check { Plan.bare with refused := true, error := some "number" }
      "# A\n\n# A\n" = .ok () := by
    apply check_eq_ok
    decide +kernel
  have failure : check { Plan.bare with error := some "number", aborted := true }
      "# A\n\n\x60\"x\" 1 +\x60\n" = .ok () := by
    apply check_eq_ok
    decide +kernel
  refine ⟨⟨refusal, ?_⟩, failure, ?_⟩
  · rintro ⟨machine, warnings, loads⟩
    obtain ⟨reason, failed⟩ := exists_load_error_iff.mpr ((check_refused_iff rfl).mp refusal)
    rw [load_eq_ok_iff.mpr loads] at failed
    cases failed
  · intro machine warnings loads error aborted
    rw [check, load_eq_ok_iff.mpr loads] at failure
    obtain ⟨found, failed, -⟩ := (checkLoaded_eq_ok_iff.mp failure).ends.failed "number" rfl
    rw [failed] at aborted
    cases aborted

end Trial

end Gamebook
