import Gamebook.CommandLine.Program

/-!
# The program

The command line on the files and streams of the system.
-/

namespace Gamebook.CommandLine

/-- The error of a system call. -/
def fileError : IO.Error → FileError
  | .noFileOrDirectory .. => .missing
  | error => .other (toString error)

/-- A path as an entry of a folder. -/
def entryAt (path : String) : IO.FS.DirEntry :=
  { root := path, fileName := "" }

/-- Whether a path is that of a folder. -/
def isFolder (path : String) : IO Bool :=
  (entryAt path).root.isDir

/-- Read a file of the system. -/
def readSystem (path : String) : IO (Except FileError String) := do
  if ← isFolder path then return .error .isFolder
  try
    return .ok (← IO.FS.readFile path)
  catch error => return .error (fileError error)

/-- Write a file of the system. -/
def writeSystem (path content : String) : IO (Except FileError Unit) := do
  if ← isFolder path then return .error .isFolder
  try
    IO.FS.writeFile path content
    return .ok ()
  catch error => return .error (fileError error)

/-- What lies at an entry of a folder; folders below it that cannot be read are empty. -/
partial def treeOf (entry : IO.FS.DirEntry) : IO FileTree := do
  if ← entry.path.isDir then
    try
      let entries ← entry.path.readDir
      return .folder (← entries.toList.mapM fun inner => return (inner.fileName, ← treeOf inner))
    catch _ => return .folder []
  else return .file

/-- What lies at a path of the system. -/
def systemTree? (path : String) : IO (Option FileTree) := do
  let entry := entryAt path
  if ← entry.root.isDir then return some (← treeOf entry)
  if ← entry.root.pathExists then return some .file
  return none

/-- Read a line of the standard input. -/
def readInput : IO (Option String) := do
  let line ← (← IO.getStdin).getLine
  return if line.isEmpty then none else some (line.dropEndWhile fun c => c = '\n' || c = '\r').copy

/-- Write to a stream at once. -/
def writeNow (stream : IO.FS.Stream) (text : String) : IO Unit := do
  stream.putStr text
  stream.flush

/-- The host of the system. -/
def systemHost : Host IO where
  readText := readSystem
  writeText := writeSystem
  tree? := systemTree?
  readLine := readInput
  print text := do writeNow (← IO.getStdout) text
  report text := do writeNow (← IO.getStderr) text
  freshSeed := return (← IO.monoNanosNow).toUInt64

end Gamebook.CommandLine

/-- Carry out the command that the arguments tell. -/
def main (arguments : List String) : IO UInt32 :=
  Gamebook.CommandLine.run Gamebook.CommandLine.systemHost arguments
