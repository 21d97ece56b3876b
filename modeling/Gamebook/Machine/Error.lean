import Gamebook.Program.Basic
import Gamebook.Value

/-!
# Runtime and load errors

Why an instruction fails, and why a machine cannot be built.
-/

namespace Gamebook

/-- Why an instruction fails, or a request to the machine. -/
inductive RuntimeError
  /-- An operand, counted from one in the order in which they are popped, is of the wrong kind. -/
  | type (caller : String) (operand : Nat) (expected found : String)
  /-- A number is outside the range that a native takes. -/
  | outOfRange (caller : String) (value : Float)
  | undefinedLabel (label : String)
  | undefinedFunction (name : String)
  | missingContextKey (key : String)
  /-- The chosen option is not among those offered. -/
  | unresolvedChoice (id : Nat)
  /-- The machine does not wait for a choice. -/
  | notSuspended
  /-- A branch at an offset is not followed by a block. -/
  | unguardedBranch (caller : String) (offset : Nat)
  deriving DecidableEq

/-- The message of an error. -/
def RuntimeError.message : RuntimeError → String
  | type caller operand expected found =>
    "\x60" ++ caller ++ "\x60: operand " ++ toString operand ++ " should be a " ++ expected ++
      ", found " ++ found
  | outOfRange caller value =>
    "\x60" ++ caller ++ "\x60: " ++ Decimal.Layout.plain.render value ++ " is out of range"
  | undefinedLabel label => "jump to undefined label \x60" ++ label ++ "\x60"
  | undefinedFunction name => "undefined function \x60" ++ name ++ "\x60"
  | missingContextKey key => "context has no value for \x60" ++ key ++ "\x60"
  | unresolvedChoice id => "choice " ++ toString id ++ " is not among the offered choices"
  | notSuspended => "the VM is not waiting for a choice"
  | unguardedBranch caller offset =>
    "\x60" ++ caller ++ "\x60 at offset " ++ toString offset ++
      " must be followed by a \x60\x7b\x60 block"

/-- Why a machine cannot be built. -/
inductive LoadError
  /-- The instructions do not link. -/
  | program (error : LinkError)
  /-- The program calls a native that is not registered. -/
  | undefinedFunction (name : String)
  /-- A text is not a snapshot. -/
  | malformedSnapshot
  deriving DecidableEq

/-- The message of an error. -/
def LoadError.message : LoadError → String
  | program error => error.message
  | undefinedFunction name => "program invokes undefined function \x60" ++ name ++ "\x60"
  | malformedSnapshot => "malformed snapshot"

end Gamebook
