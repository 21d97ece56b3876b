import Gamebook.Diagnostic

/-!
# Printed diagnostics

A diagnostic is printed as its headline, a line for each place it points at, and a line for each
remark.
-/

namespace Gamebook.CommandLine

/-- The number of characters between the start of a line and byte `offset` of a text, which come after
`before` other ones. -/
def columnWithin (before : Nat) : (offset : Nat) → List Char → Nat
  | _, [] => before
  | 0, _ => before
  | offset + 1, c :: rest =>
    columnWithin (if c = '\n' then 0 else before + 1) (offset + 1 - c.utf8Size) rest

/-- The column at which byte `offset` of a text stands, from one. -/
def columnOf (text : String) (offset : Nat) : Nat :=
  columnWithin 0 offset text.toList + 1

/-- The line of a place in a file. -/
def labelLine (file source : String) (label : Diagnostic.Label) : String :=
  let place :=
    "  --> " ++ file ++ ":" ++ toString (Text.lineOf source label.span.start) ++ ":" ++
      toString (columnOf source label.span.start)
  if label.message.isEmpty then place else place ++ ": " ++ label.message

/-- The lines of a diagnostic about a file. -/
def diagnosticLines (file source : String) (diagnostic : Diagnostic) : List String :=
  diagnostic.headline :: diagnostic.labels.map (labelLine file source) ++
    diagnostic.notes.map (fun note => "  = " ++ note) ++ [""]

end Gamebook.CommandLine
