import Gamebook.Code.Fragment
import Gamebook.Story.Reader
import Gamebook.Story.Settings

/-!
# Compile errors and warnings

Why a document gives no program, and what is worth a remark although it does.
-/

namespace Gamebook.Compile

open Text (Span)

/-- Why a document gives no program. -/
inductive Error
  /-- A code fragment has no meaning. -/
  | lex (error : Code.LexError) (span : Span)
  /-- Something other than inline code stands in front of an option's title. -/
  | nonCodePrecondition (span : Span)
  /-- A setting is at fault. -/
  | invalidSettings (error : Story.SettingsError)
  /-- A label is defined twice. -/
  | duplicateLabel (label : String) (span : Option Span)
  /-- A label that is jumped to is not defined. -/
  | undefinedLabel (label : String) (span : Option Span)
  /-- The instructions do not link. -/
  | program (error : LinkError)

namespace Error

/-- The message of an error. -/
def message : Error → String
  | lex error _ => "cannot compile code fragment: " ++ error.message
  | nonCodePrecondition _ => "option precondition must be inline code"
  | invalidSettings error => "invalid options section: " ++ error.message
  | duplicateLabel label _ => "label \x60" ++ label ++ "\x60 is defined more than once"
  | undefinedLabel label _ => "\x60" ++ label ++ "\x60 does not name a state or label"
  | program error => error.message

/-- The bytes of the source that are at fault. -/
def span? : Error → Option Span
  | lex _ span | nonCodePrecondition span => some span
  | duplicateLabel _ span | undefinedLabel _ span => span
  | invalidSettings _ | program _ => none

/-- Remarks on an error. -/
def notes : Error → List String
  | lex error _ =>
    ["at bytes " ++ toString error.span.start ++ ".." ++ toString error.span.stop ++
      " of the fragment"]
  | nonCodePrecondition _ => ["only \x60inline code\x60 may appear before the option's text"]
  | _ => []

/-- The report of an error. -/
def diagnostic (error : Error) : Diagnostic :=
  { severity := .error, message := error.message
    labels := error.span?.toList.map fun span => ⟨span, ""⟩
    notes := error.notes }

end Error

/-- A remark on a document that gives a program. -/
structure Warning where
  /-- The remark. -/
  message : String
  /-- The bytes of the source it is about. -/
  span : Option Span
  deriving DecidableEq, Repr

/-- The report of a warning. -/
def Warning.diagnostic (warning : Warning) : Diagnostic :=
  { severity := .warning, message := warning.message
    labels := warning.span.toList.map fun span => ⟨span, ""⟩
    notes := [] }

end Gamebook.Compile
