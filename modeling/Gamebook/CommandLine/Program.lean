import Gamebook.CommandLine.Play
import Gamebook.CommandLine.Test

/-!
# The command line

A command is read from its arguments and carried out.
-/

namespace Gamebook.CommandLine

/-- Carry out the command that the arguments tell.  The exit code is returned. -/
def run {m : Type → Type} [Monad m] (host : Host m) (arguments : List String) : m UInt32 := do
  match Command.read arguments with
  | .error error => do
    host.reportLine ("error: " ++ error.message)
    return 2
  | .ok (.play arguments) => play host arguments
  | .ok (.test arguments) => test host arguments

end Gamebook.CommandLine
