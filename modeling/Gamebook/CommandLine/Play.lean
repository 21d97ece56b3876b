import Gamebook.CommandLine.Arguments
import Gamebook.CommandLine.Prompt
import Gamebook.CommandLine.Rendering
import Gamebook.Compile.Assembly
import Gamebook.Machine.Snapshot
import Gamebook.Program.Listing

/-!
# Playing

A file holds a story or a snapshot, as its name tells.  It is loaded, and then shown, written as a
snapshot, or played.
-/

namespace Gamebook.CommandLine

/-- What a file holds. -/
inductive FileKind
  | story
  | snapshot
  deriving DecidableEq, Repr

/-- What a file with a name holds, whatever the case of its letters: `.json` is a snapshot, `.md` and
`.qmd` are stories, and `.html` may follow these. -/
def FileKind.ofName? (name : String) : Option FileKind :=
  let endsIn (ending : String) (reversed : List Char) : Bool :=
    ending.toList.reverse.isPrefixOf reversed
  let reversed := (name.toList.map Char.toLower).reverse
  if endsIn ".json" reversed then some .snapshot
  else
    let stem := if endsIn ".html" reversed then reversed.drop 5 else reversed
    if endsIn ".md" stem || endsIn ".qmd" stem then some .story else none

/-- What has been loaded from a file. -/
structure Loaded where
  /-- The machine at its start. -/
  machine : Machine
  /-- The story, if the file holds one. -/
  document : Option Story.Document

variable {m : Type → Type} [Monad m]

/-- Load a story. -/
def loadStory (host : Host m) (file source : String) : m (Option Loaded) := do
  let tell (diagnostic : Diagnostic) : m Unit :=
    (diagnosticLines file source diagnostic).forM host.reportLine
  match Compile.compileSource source with
  | .error error => do
    error.diagnostics.forM tell
    return none
  | .ok (document, compiled) => do
    compiled.warnings.forM fun warning => tell warning.diagnostic
    match Machine.create compiled.program Registry.quest with
    | .error error => do
      host.reportLine ("error: " ++ error.message)
      return none
    | .ok machine => return some ⟨machine, some document⟩

/-- Load a snapshot. -/
def loadSnapshot (host : Host m) (file source : String) : m (Option Loaded) := do
  let loaded := do Machine.ofSnapshot (← Snapshot.read source) Registry.quest
  match loaded with
  | .error error => do
    host.reportLine ("error: cannot load snapshot '" ++ file ++ "': " ++ error.message)
    return none
  | .ok machine => return some ⟨machine, none⟩

/-- Load a file. -/
def load (host : Host m) (file : String) : m (Option Loaded) := do
  match FileKind.ofName? file with
  | none => do
    host.reportLine
      ("error: '" ++ file ++ "' needs a .md / .qmd (optionally .html) or .json extension")
    return none
  | some kind => do
    match ← host.readText file with
    | .error error => do
      host.reportLine ("error: cannot read '" ++ file ++ "': " ++ error.message)
      return none
    | .ok source =>
      match kind with
      | .story => loadStory host file source
      | .snapshot => loadSnapshot host file source

/-! ## Lists -/

/-- The line of a state in the list of states. -/
def stateLine (state : Story.State) : String :=
  match state.choices.length with
  | 0 => "# " ++ state.name
  | 1 => "# " ++ state.name ++ " (1 option)"
  | count => "# " ++ state.name ++ " (" ++ toString count ++ " options)"

/-- The list of the states of a story, or of the labels of a program without one. -/
def stateLines (loaded : Loaded) : List String :=
  match loaded.document with
  | some document => document.states.map stateLine
  | none =>
    loaded.machine.program.labels.entries.map fun entry =>
      Program.alignRight 6 (toString entry.2) ++ "  " ++ entry.1

/-! ## The game -/

/-- Show what a machine has emitted since the last time. -/
def flush (host : Host m) (quiet : Bool) (machine : Machine) : m Machine := do
  if !quiet then host.print (displayAll machine.emitted)
  return machine.clearOutput

/-- Show what a machine has emitted, then ask for an option. -/
def choose (host : Host m) (quiet : Bool) (machine : Machine) (choices : List OfferedChoice) :
    m (Machine × Answer) := do
  let machine ← flush host quiet machine
  return (machine, ← ask host choices)

/-- Tell how a game has ended. -/
def tellEnding (host : Host m) : Ending → m UInt32
  | .completed => pure 0
  | .aborted .cancelled => do
    host.reportLine ""
    host.reportLine "story cancelled"
    return 0
  | .aborted error => do
    host.reportLine ("error: " ++ error.message)
    return 1
  | .failed error => do
    host.reportLine ("runtime error: " ++ error.message)
    return 1
  | .dropped | .unfinished => do
    host.reportLine "error: the story does not end"
    return 1

/-- Play a game to its end. -/
def playGame (host : Host m) (arguments : PlayArguments) (machine : Machine) : m UInt32 := do
  let seed ←
    match arguments.seed with
    | some seed => pure seed
    | none => host.freshSeed
  let (machine, ending) ←
    (machine.withSeed seed).play (choose host arguments.quiet) Machine.patience Machine.patience
  let _ ← flush host arguments.quiet machine
  tellEnding host ending

/-- Write a snapshot of a machine, then play it. -/
def writeAndPlay (host : Host m) (arguments : PlayArguments) (machine : Machine) : m UInt32 := do
  let written ←
    match arguments.output with
    | none => pure (.ok ())
    | some file => host.writeText file machine.snapshot.text
  match written with
  | .error error => do
    host.reportLine
      ("error: cannot write '" ++ arguments.output.getD "" ++ "': " ++ error.message)
    return 1
  | .ok () => if arguments.noRun then return 0 else playGame host arguments machine

/-- Play the story or the snapshot in a file.  The exit code is returned. -/
def play (host : Host m) (arguments : PlayArguments) : m UInt32 := do
  match ← load host arguments.file with
  | none => return 1
  | some loaded =>
    if arguments.check then do
      host.reportLine ("ok: " ++ arguments.file ++ " loaded successfully")
      return 0
    else if arguments.listing then do
      host.print loaded.machine.program.listing
      return 0
    else if arguments.listStates then do
      (stateLines loaded).forM host.printLine
      return 0
    else writeAndPlay host arguments loaded.machine

end Gamebook.CommandLine
