import Gamebook.Text.Span

/-!
# Diagnostics

What is reported about a source text: a message, the places it is about, and remarks.
-/

namespace Gamebook

/-- How grave a diagnostic is. -/
inductive Severity
  | error
  | warning
  deriving DecidableEq, Repr

/-- The word for a severity. -/
def Severity.word : Severity → String
  | error => "error"
  | warning => "warning"

/-- A place that a diagnostic points at. -/
structure Diagnostic.Label where
  /-- The bytes of the source. -/
  span : Text.Span
  /-- What is said about them. -/
  message : String
  deriving DecidableEq, Repr

/-- A report about a source text. -/
structure Diagnostic where
  /-- How grave it is. -/
  severity : Severity
  /-- What is reported. -/
  message : String
  /-- The places it points at. -/
  labels : List Diagnostic.Label
  /-- Remarks. -/
  notes : List String
  deriving DecidableEq, Repr

/-- The first line of a printed diagnostic. -/
def Diagnostic.headline (diagnostic : Diagnostic) : String :=
  diagnostic.severity.word ++ ": " ++ diagnostic.message

end Gamebook
