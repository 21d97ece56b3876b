import Gamebook.Compile.Script

/-!
# Assembling programs

A script is assembled step by step into instructions and labels.  The first step that fails decides
the error; references are checked when all labels are known, and the program is linked last.
-/

namespace Gamebook.Compile

open Story (Document Settings)
open Text (Span)

/-- What has been assembled. -/
structure Assembly where
  /-- The instructions in order. -/
  instructions : List Instruction
  /-- The labels and their offsets. -/
  labels : Labels
  /-- The labels that are asked for, in order. -/
  references : List (String × Option Span)
  /-- The warnings in order. -/
  warnings : List Warning

namespace Assembly

/-- Nothing. -/
def empty : Assembly := ⟨[], Table.empty, [], []⟩

/-- Define a label for an offset. -/
def define (assembly : Assembly) (span : Span) (label : String × Nat) : Except Error Assembly :=
  if assembly.labels.contains label.1 then .error (.duplicateLabel label.1 (some span))
  else .ok { assembly with labels := assembly.labels.insert label.1 label.2 }

/-- Put in a code fragment; its labels move with it. -/
def splice (assembly : Assembly) (fragment : Code.Fragment) (span : Span) :
    Except Error Assembly := do
  let base := assembly.instructions.length
  let labels := fragment.labels.entries.map fun entry => (entry.1, base + entry.2)
  let assembly ← labels.foldlM (fun current label => current.define span label) assembly
  return { assembly with instructions := assembly.instructions ++ fragment.instructions }

/-- Take one step. -/
def step (assembly : Assembly) : Step → Except Error Assembly
  | .emit instruction =>
    .ok { assembly with instructions := assembly.instructions ++ [instruction] }
  | .define label span => assembly.define span (label, assembly.instructions.length)
  | .splice code span =>
    match Code.compile code with
    | .ok fragment => assembly.splice fragment span
    | .error error => .error (.lex error span)
  | .refuse span => .error (.nonCodePrecondition span)
  | .refer label span => .ok { assembly with references := assembly.references ++ [(label, span)] }
  | .warn warning => .ok { assembly with warnings := assembly.warnings ++ [warning] }

/-- Take steps in order. -/
def run (assembly : Assembly) (steps : List Step) : Except Error Assembly :=
  steps.foldlM step assembly

/-- Check that every label that is asked for is defined. -/
def checkReferences (assembly : Assembly) : Except Error Unit :=
  match assembly.references.find? fun reference => !assembly.labels.contains reference.1 with
  | some (label, span) => .error (.undefinedLabel label span)
  | none => .ok ()

end Assembly

/-- A program and the warnings about its document. -/
structure Compiled where
  /-- The program. -/
  program : Program
  /-- The warnings in order. -/
  warnings : List Warning

/-- The program of an assembly whose references are all defined. -/
def Assembly.finish (assembly : Assembly) : Except Error Compiled := do
  assembly.checkReferences
  match Program.link assembly.instructions assembly.labels with
  | .ok program => return { program, warnings := assembly.warnings }
  | .error error => .error (.program error)

/-- Compile a document. -/
def compile (document : Document) : Except Error Compiled :=
  match Settings.ofTable document.settings with
  | .error error => .error (.invalidSettings error)
  | .ok settings => do
    let assembly ← Assembly.empty.run (script settings document)
    assembly.finish

/-! ## Sources -/

/-- Why a source text gives no program. -/
inductive SourceError
  /-- Entries of the settings cannot be read. -/
  | unreadable (errors : List Story.EntryError)
  | compile (error : Error)

namespace SourceError

/-- The message of an error. -/
def message : SourceError → String
  | unreadable errors => "document failed to parse (" ++ toString errors.length ++ " error(s))"
  | compile error => error.message

/-- The reports of an error. -/
def diagnostics : SourceError → List Diagnostic
  | unreadable errors => errors.map Story.EntryError.diagnostic
  | compile error => [error.diagnostic]

end SourceError

/-- Read and compile a source text; the document is returned with the program. -/
def compileSource (source : String) : Except SourceError (Document × Compiled) :=
  match Document.read source with
  | .error errors => .error (.unreadable errors)
  | .ok document =>
    match compile document with
    | .error error => .error (.compile error)
    | .ok compiled => .ok (document, compiled)

end Gamebook.Compile
