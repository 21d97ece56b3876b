/-!
# Byte spans

Positions in a source text are byte offsets of its UTF-8 form.  A span is a half-open interval of
them.
-/

namespace Gamebook.Text

/-- The bytes of a text from `start` up to, but not including, `stop`. -/
structure Span where
  /-- Offset of the first byte. -/
  start : Nat
  /-- Offset just past the last byte. -/
  stop : Nat
  deriving DecidableEq, Inhabited, Repr

/-- The number of bytes that a list of characters takes. -/
def byteLength : List Char → Nat
  | [] => 0
  | c :: rest => c.utf8Size + byteLength rest

/-- Split a list of characters behind its first `count` bytes; none if a character stands across the
cut or the list is shorter. -/
def splitBytes? : (count : Nat) → List Char → Option (List Char × List Char)
  | 0, characters => some ([], characters)
  | _ + 1, [] => none
  | count + 1, c :: rest =>
    if c.utf8Size ≤ count + 1 then
      (splitBytes? (count + 1 - c.utf8Size) rest).map fun (front, back) => (c :: front, back)
    else none
termination_by _ characters => characters.length

/-- The text of a span; empty if the span does not lie on characters of the text. -/
def Span.slice (span : Span) (text : String) : String :=
  let part := do
    if span.stop < span.start then none
    let (_, back) ← splitBytes? span.start text.toList
    let (front, _) ← splitBytes? (span.stop - span.start) back
    some (String.ofList front)
  part.getD ""

/-- The number of line feeds among the characters that start before byte `offset`. -/
def lineFeedsBefore : (offset : Nat) → List Char → Nat
  | _, [] => 0
  | 0, _ => 0
  | offset + 1, c :: rest =>
    (if c = '\n' then 1 else 0) + lineFeedsBefore (offset + 1 - c.utf8Size) rest

/-- The line on which byte `offset` of a text stands, from one. -/
def lineOf (text : String) (offset : Nat) : Nat :=
  lineFeedsBefore offset text.toList + 1

end Gamebook.Text
