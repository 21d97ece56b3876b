import Gamebook.Trial.Catalog

/-!
# The host of the command line

What the command line needs from its surroundings: files, lines of input, and two streams of output.
The commands are written for any such host.
-/

namespace Gamebook.CommandLine

/-- Why a file cannot be read or written. -/
inductive FileError
  /-- There is no such file. -/
  | missing
  /-- It is a folder. -/
  | isFolder
  /-- Any other reason. -/
  | other (reason : String)
  deriving DecidableEq, Repr

/-- The message of an error. -/
def FileError.message : FileError → String
  | missing => "No such file or directory (os error 2)"
  | isFolder => "Is a directory (os error 21)"
  | other reason => reason

/-- The surroundings of a command. -/
structure Host (m : Type → Type) where
  /-- Read a file as a text. -/
  readText : String → m (Except FileError String)
  /-- Write a text to a file. -/
  writeText : String → String → m (Except FileError Unit)
  /-- What lies at a path; none if nothing does. -/
  tree? : String → m (Option FileTree)
  /-- Read a line of input without its line end; none at the end of the input. -/
  readLine : m (Option String)
  /-- Write to the output. -/
  print : String → m Unit
  /-- Write to the stream of messages. -/
  report : String → m Unit
  /-- A seed that nobody can foresee. -/
  freshSeed : m UInt64

variable {m : Type → Type}

/-- Write a line to the output. -/
def Host.printLine (host : Host m) (line : String) : m Unit :=
  host.print (line ++ "\n")

/-- Write a line to the stream of messages. -/
def Host.reportLine (host : Host m) (line : String) : m Unit :=
  host.report (line ++ "\n")

end Gamebook.CommandLine
