import Gamebook.Markdown.Source

/-!
# Indentation

A cursor reads the indentation of a line column by column.  A tab reaches to the next column that is
a multiple of four; when only a part of it is asked for, the rest stays pending.
-/

namespace Gamebook.Markdown

/-- A place in the indentation of a line. -/
structure Cursor where
  /-- The position of the next character. -/
  position : Nat
  /-- The position from which tab stops are counted. -/
  origin : Nat
  /-- Columns of the last tab that are not read yet. -/
  pending : Nat

namespace Cursor

/-- The cursor at the start of a line, or of the part of it that starts at `position`. -/
def start (position : Nat) : Cursor :=
  { position, origin := position, pending := 0 }

/-- Read up to `count` columns of the characters ahead; the number of columns missing is returned
with the new cursor. -/
def readColumns (source : Source) (count : Nat) (cursor : Cursor) : Nat × Cursor :=
  if 0 < count then
    match source.at? cursor.position with
    | some ' ' => readColumns source (count - 1) { cursor with position := cursor.position + 1 }
    | some '\t' =>
      let columns := 4 - (cursor.position - cursor.origin) % 4
      let used := min columns count
      readColumns source (count - used)
        { position := cursor.position + 1, origin := cursor.position + 1, pending := columns - used }
    | _ => (count, cursor)
  else (0, cursor)
termination_by count

/-- Skip up to `count` columns; the number of columns missing is returned with the new cursor. -/
def skip (source : Source) (count : Nat) (cursor : Cursor) : Nat × Cursor :=
  let pending := min cursor.pending count
  readColumns source (count - pending) { cursor with pending := cursor.pending - pending }

/-- Skip up to `count` columns; the number of columns skipped is returned with the new cursor. -/
def skipUpTo (source : Source) (count : Nat) (cursor : Cursor) : Nat × Cursor :=
  let (missing, cursor) := cursor.skip source count
  (count - missing, cursor)

/-- Skip all spaces and tabs. -/
def skipSpace (source : Source) (cursor : Cursor) : Cursor :=
  { cursor with
    position := source.skipWhile (fun c => c = ' ' || c = '\t') cursor.position
    pending := 0 }

/-- Whether the line ends at the cursor. -/
def atLineEnd (source : Source) (cursor : Cursor) : Bool :=
  (source.at? cursor.position).all Source.isLineEnd

/-- Read the mark of a block quote and the column after it. -/
def quoteMark? (source : Source) (cursor : Cursor) : Option Cursor :=
  if source.hasAt cursor.position '>' then
    some ({ cursor with position := cursor.position + 1 }.skip source 1).2
  else none

end Cursor

end Gamebook.Markdown
