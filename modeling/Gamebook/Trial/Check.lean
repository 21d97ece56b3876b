import Gamebook.Compile.Assembly
import Gamebook.Trial.FrontMatter
import Gamebook.Trial.Mismatch
import Gamebook.Trial.Plan

/-!
# Checking a story against its plan

A story is loaded, played with the choices of its plan, and compared with what the plan expects.  The
first mismatch found is reported: loading, then warnings, then the end of the run, then the output,
then the context.
-/

namespace Gamebook.Trial

/-- Load a story: its machine and the warnings about it, or why it cannot be loaded. -/
def load (story : String) : Except String (Machine × List Compile.Warning) :=
  match Compile.compileSource story with
  | .error error =>
    .error ("; ".intercalate (error.diagnostics.map fun diagnostic => diagnostic.message))
  | .ok (_, compiled) =>
    match Machine.create compiled.program Registry.quest with
    | .error error => .error error.message
    | .ok machine => .ok (machine, compiled.warnings)

/-! ## Warnings -/

/-- Compare one warning, the `index`th one. -/
def checkWarning (story : String) (index : Nat) (found : Compile.Warning)
    (expected : ExpectedWarning) : Except Mismatch Unit :=
  if !Text.occurs expected.part found.message then
    .error (.warningText index found.message expected.part)
  else
    match expected.line, found.span with
    | none, _ => .ok ()
    | some line, some span =>
      let place := Text.lineOf story span.start
      if place = line then .ok () else .error (.warningLine index place line)
    | some line, none => .error (.warningPlace index line)

/-- Compare warnings one by one, the first of them being the `index`th one. -/
def checkEachWarning (story : String) :
    Nat → List Compile.Warning → List ExpectedWarning → Except Mismatch Unit
  | index, found :: others, expected :: rest => do
    checkWarning story index found expected
    checkEachWarning story (index + 1) others rest
  | _, _, _ => .ok ()

/-- Compare all warnings. -/
def checkWarnings (story : String) (found : List Compile.Warning)
    (expected : List ExpectedWarning) : Except Mismatch Unit :=
  if found.length = expected.length then checkEachWarning story 1 found expected
  else .error (.warningCount expected.length (found.map Compile.Warning.message))

/-! ## The end of the run -/

/-- Choose the next option of a script; without one, give up. -/
def chooseNext (machine : Machine) (_ : List OfferedChoice) :
    StateM (List Nat) (Machine × Answer) := do
  match ← get with
  | [] => return (machine, .refuse .cancelled)
  | id :: rest => do
    set rest
    return (machine, .pick id)

/-- Play a machine with the choices of a plan. -/
def Plan.play (plan : Plan) (machine : Machine) : Machine × Ending :=
  ((machine.withSeed plan.seed).play chooseNext Machine.patience Machine.patience plan.choices).1

/-- Compare the end of the run. -/
def checkEnding (plan : Plan) (ending : Ending) : Except Mismatch Unit :=
  match ending, plan.error with
  | .failed error, some part =>
    if Text.occurs part error.message then .ok () else .error (.otherError error part)
  | .failed error, none => .error (.unexpectedError error)
  | .completed, some part => .error (.missingError part)
  | .completed, none => if plan.aborted then .error .completed else .ok ()
  | .aborted _, some part => .error (.missingError part)
  | .aborted error, none => if plan.aborted then .ok () else .error (.aborted error)
  | .dropped, _ => .error .unfinished
  | .unfinished, _ => .error .unfinished

/-! ## Output and context -/

/-- Compare the output. -/
def checkOutput (found expected : String) : Except Mismatch Unit :=
  let found := Text.trim found
  let expected := Text.trim expected
  if found = expected then .ok () else .error (.output expected found)

/-- The value that a setting stands for. -/
def valueOf? : Toml → Option Value
  | .integer value => some (.number (Float.ofInt value))
  | .float value => some (.number value)
  | .bool value => some (.flag value)
  | .string value => some (.string value)
  | _ => none

/-- Compare the value of a key. -/
def checkKey (context : Context) (key : String) (expected : Toml) : Except Mismatch Unit :=
  match valueOf? expected with
  | none => .error (.incomparable key expected)
  | some expected =>
    match context.get? key with
    | none => .error (.unset key expected)
    | some found => if found.equals expected then .ok () else .error (.context key found expected)

/-- Compare the values of keys. -/
def checkContext (context : Context) : List (String × Toml) → Except Mismatch Unit
  | [] => .ok ()
  | (key, expected) :: rest => do
    checkKey context key expected
    checkContext context rest

/-! ## All together -/

/-- Compare what may be expected or not. -/
def checkGiven {α : Type} (check : α → Except Mismatch Unit) : Option α → Except Mismatch Unit
  | none => .ok ()
  | some expected => check expected

/-- Compare a story that has been loaded. -/
def checkLoaded (plan : Plan) (story : String) (machine : Machine)
    (warnings : List Compile.Warning) : Except Mismatch Unit := do
  checkGiven (checkWarnings story warnings) plan.warnings
  let (machine, ending) := plan.play machine
  checkEnding plan ending
  checkGiven (checkOutput (displayAll machine.emitted)) plan.output
  checkGiven (checkContext machine.context) plan.context

/-- Compare a story with its plan. -/
def check (plan : Plan) (story : String) : Except Mismatch Unit :=
  match load story with
  | .error reason => if plan.refused then .ok () else .error (.refused reason)
  | .ok (machine, warnings) =>
    if plan.refused then .error .loaded else checkLoaded plan story machine warnings

/-- The verdict on a trial file: what the trial is called, if it says so, and why it fails, if it
does. -/
structure Verdict where
  /-- What the trial is called. -/
  description : Option String
  /-- Why it fails. -/
  failure : Option String
  deriving DecidableEq, Repr

/-- Check a trial file. -/
def checkFile (content : String) : Verdict :=
  match split content with
  | .error error => ⟨none, some error.message⟩
  | .ok parts =>
    match Plan.read parts.frontMatter with
    | .error error => ⟨none, some error.message⟩
    | .ok plan =>
      match check plan parts.story with
      | .ok () => ⟨plan.description, none⟩
      | .error mismatch => ⟨plan.description, some mismatch.message⟩

end Gamebook.Trial
