import Gamebook.Machine.Session
import Gamebook.Toml.Printer

/-!
# Mismatches

The ways in which a story differs from what its plan expects.
-/

namespace Gamebook.Trial

/-- A difference between a story and its plan. -/
inductive Mismatch
  /-- The story was loaded, though it should not have been. -/
  | loaded
  /-- The story cannot be loaded. -/
  | refused (reason : String)
  /-- The number of warnings differs. -/
  | warningCount (expected : Nat) (messages : List String)
  /-- A warning, counted from one, does not have the expected text. -/
  | warningText (index : Nat) (message part : String)
  /-- A warning is about another line. -/
  | warningLine (index found expected : Nat)
  /-- A warning is about no line. -/
  | warningPlace (index expected : Nat)
  /-- The run ends in another error. -/
  | otherError (error : RuntimeError) (part : String)
  /-- The run ends in an error. -/
  | unexpectedError (error : RuntimeError)
  /-- The run does not end in an error. -/
  | missingError (part : String)
  /-- The run ends, though a choice should have been left open. -/
  | completed
  /-- A choice is left open. -/
  | aborted (error : ResolveError)
  /-- The run does not end. -/
  | unfinished
  /-- The output differs. -/
  | output (expected found : String)
  /-- The expected value of a key is neither a number nor a text. -/
  | incomparable (key : String) (expected : Toml)
  /-- A key has another value. -/
  | context (key : String) (found expected : Value)
  /-- A key has no value. -/
  | unset (key : String) (expected : Value)

/-- The message of a mismatch. -/
def Mismatch.message : Mismatch → String
  | loaded => "story loaded, but a compile error was expected"
  | refused reason => "story failed to load: " ++ reason
  | warningCount expected messages =>
    let listed :=
      if messages.isEmpty then "    (none)"
      else "\n".intercalate (messages.map fun message => "    " ++ message)
    toString expected ++ " warning(s) expected, " ++ toString messages.length ++ " reported:\n" ++
      listed
  | warningText index message part =>
    "warning " ++ toString index ++ ": \"" ++ message ++ "\" does not mention \"" ++ part ++ "\""
  | warningLine index found expected =>
    "warning " ++ toString index ++ ": reported on line " ++ toString found ++ ", expected line " ++
      toString expected
  | warningPlace index expected =>
    "warning " ++ toString index ++ ": has no location, expected line " ++ toString expected
  | otherError error part =>
    "runtime error \x60" ++ error.message ++ "\x60 does not mention \"" ++ part ++ "\""
  | unexpectedError error => "unexpected runtime error: " ++ error.message
  | missingError part => "expected a runtime error mentioning \"" ++ part ++ "\", got none"
  | completed => "story completed, but was expected to abort"
  | aborted error => "story aborted: " ++ error.message
  | unfinished => "story does not end"
  | output expected found =>
    "output differs\n  expected: " ++ Text.quote expected ++ "\n  actual:   " ++ Text.quote found
  | incomparable key expected =>
    "context \x60" ++ key ++ "\x60: cannot compare against " ++ expected.text
  | context key found expected =>
    "context \x60" ++ key ++ "\x60 is " ++ found.inspect ++ ", expected " ++ expected.inspect
  | unset key expected => "context \x60" ++ key ++ "\x60 is unset, expected " ++ expected.inspect

end Gamebook.Trial
