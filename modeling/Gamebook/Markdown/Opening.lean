import Gamebook.Markdown.Cursor
import Gamebook.Text.Digits

/-!
# How lines open blocks

The recognizers of the lines that start, end or interrupt a block: thematic breaks, headings, code
fences and list items.  Each is given the position at which the indentation ends.
-/

namespace Gamebook.Markdown

/-! ## Thematic breaks -/

/-- The number of break marks in the rest of the line and the position after it, or none if another
character stands there. -/
def breakMarks? (source : Source) (mark : Char) : Nat → Nat → Option (Nat × Nat)
  | 0, position => some (0, position)
  | fuel + 1, position =>
    match source.lineEnd? position with
    | some next => some (0, next)
    | none =>
      if source.hasAt position mark then
        (breakMarks? source mark fuel (position + 1)).map fun (count, next) => (count + 1, next)
      else if source.hasAt position ' ' || source.hasAt position '\t' then
        breakMarks? source mark fuel (position + 1)
      else none

/-- The position after a thematic break: three or more of one mark, with spaces between them. -/
def thematicBreak? (source : Source) (position : Nat) : Option Nat :=
  match source.at? position with
  | some mark =>
    if mark = '*' || mark = '-' || mark = '_' then
      match breakMarks? source mark (source.size - position) position with
      | some (count, next) => if 3 ≤ count then some next else none
      | none => none
    else none
  | none => none

/-! ## Headings -/

/-- The level of a heading that starts with number signs. -/
def headingLevel? (source : Source) (position : Nat) : Option Nat :=
  let level := source.runLength '#' position
  if (source.at? (position + level)).all Source.isSpace && 1 ≤ level && level ≤ 6 then some level
  else none

/-- The level that an underline gives to the paragraph above it, and the position after the line. -/
def underline? (source : Source) (position : Nat) : Option (Nat × Nat) :=
  match source.at? position with
  | some '=' => (source.blankLine? (source.skipWhile (· = '=') position)).map fun next => (1, next)
  | some '-' => (source.blankLine? (source.skipWhile (· = '-') position)).map fun next => (2, next)
  | _ => none

/-! ## Code fences -/

/-- The mark of an opening code fence and its number.  A fence of backticks has none after it on its
line. -/
def fence? (source : Source) (position : Nat) : Option (Char × Nat) :=
  match source.at? position with
  | some mark =>
    let count := source.runLength mark position
    if (mark = '\x60' || mark = '~') && 3 ≤ count then
      let rest := source.slice (position + count) (source.nextLine (position + count))
      if mark = '\x60' && rest.contains '\x60' then none else some (mark, count)
    else none
  | none => none

/-- The position after a closing fence and the spaces behind it.  The end of the text closes every
fence. -/
def closingFence? (source : Source) (mark : Char) (count : Nat) (position : Nat) : Option Nat :=
  if source.size ≤ position then some position
  else
    let found := source.runLength mark position
    if found < count then none
    else
      let stop := source.skipWhile (· = ' ') (position + found)
      (source.lineEnd? stop).map fun _ => stop

/-! ## List items -/

/-- The mark of a list: the character that all its items share, and the number of the first item of
an ordered list. -/
structure ListMark where
  /-- A bullet, or the character after the number. -/
  character : Char
  /-- The number in front of the character; zero for bullets. -/
  number : Nat

/-- Whether a list has bullets. -/
def ListMark.isBullet (mark : ListMark) : Bool :=
  mark.character = '-' || mark.character = '+' || mark.character = '*'

/-- Read a bullet, or up to nine digits and a point or closing bracket; the position after it is
returned too. -/
def listMark? (source : Source) (position : Nat) : Option (ListMark × Nat) :=
  match source.at? position with
  | none => none
  | some c =>
    if c = '-' || c = '+' || c = '*' then some (⟨c, 0⟩, position + 1)
    else
      let stop := source.skipWhile Char.isDigit position
      if stop = position || position + 9 < stop then none
      else
        match source.at? stop with
        | some c =>
          if c = '.' || c = ')' then
            let digits := source.slice position stop
            some (⟨c, Text.digitsValue digits⟩, stop + 1)
          else none
        | none => none

/-- Read the start of a list item at a cursor behind `outer` columns of indentation: the mark, the
indentation of the item's content, and the cursor at the content. -/
def itemStart? (source : Source) (outer : Nat) (cursor : Cursor) :
    Option (ListMark × Nat × Cursor) :=
  if (thematicBreak? source cursor.position).isSome then none
  else
    match listMark? source cursor.position with
    | none => none
    | some (mark, next) =>
      let (missing, after) := { cursor with position := next }.skip source 1
      if missing = 0 || after.atLineEnd source then
        let width := outer + (next - cursor.position) + 1
        if source.isBlankLine after.position then some (mark, width, after)
        else
          let (further, inner) := after.skipUpTo source 4
          if further < 4 then some (mark, width + further, inner) else some (mark, width, after)
      else none

/-- Whether a list item starts here that may interrupt a paragraph.  Inside the paragraph's own
container it is a bullet or the number one, and has a line of content soon. -/
def interruptingItem (source : Source) (inContainer : Bool) (position : Nat) : Bool :=
  match listMark? source position with
  | none => false
  | some (mark, next) =>
    let spaced :=
      (source.at? next).all fun c => c = ' ' || c = '\t' || Source.isLineEnd c
    spaced &&
      (!inContainer ||
        ((mark.isBullet || mark.number = 1) &&
          !((source.blankLine? next).any fun second => source.isBlankLine second)))

end Gamebook.Markdown
