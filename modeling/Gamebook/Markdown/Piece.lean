import Gamebook.Markdown.Entity
import Gamebook.Text.Blank

/-!
# The pieces of a line

Before its structure is known, a line of text is cut at the characters that may mean something:
emphasis marks, backticks, brackets, angle brackets, escapes and character references.  What the
pieces mean is decided when the whole paragraph is known.
-/

namespace Gamebook.Markdown

/-- A run of one emphasis mark. -/
structure Run where
  /-- The mark. -/
  mark : Char
  /-- The number of marks. -/
  length : Nat
  /-- Whether the run may start an element. -/
  canOpen : Bool
  /-- Whether the run may end an element. -/
  canClose : Bool

/-- What a piece of a line may mean. -/
inductive PieceKind
  | text
  /-- A character reference and what it stands for. -/
  | reference (value : String)
  | run (run : Run)
  /-- Backticks; after a backslash the first of them is plain text. -/
  | ticks (count : Nat) (escaped : Bool)
  | angle
  | linkOpen
  | imageOpen
  /-- A closing bracket, and whether what it closes may be a reference by itself. -/
  | linkClose (alone : Bool)
  | softBreak
  /-- A line break that is kept, made by a backslash or by spaces. -/
  | hardBreak (backslash : Bool)

/-- A piece of a line between two positions. -/
structure Piece where
  /-- The first position. -/
  start : Nat
  /-- The position after the piece. -/
  stop : Nat
  /-- What the piece may mean. -/
  kind : PieceKind

/-- Put a piece of text in front of the pieces, unless it is empty. -/
def consText (start stop : Nat) (pieces : List Piece) : List Piece :=
  if start < stop then ⟨start, stop, .text⟩ :: pieces else pieces

/-! ## Emphasis marks -/

/-- Whether the run of `length` marks at `position` may start an element.  `start` is where the
line's text starts. -/
def canOpenAt (source : Source) (start position length : Nat) (mark : Char) : Bool :=
  match source.at? (position + length) with
  | none => false
  | some next =>
    if Text.isBlank next then false
    else if position = start then true
    else if mark = '*' && !Text.isPunctuation next then true
    else if mark = '~' && 1 < length then true
    else
      match source.at? (position - 1) with
      | none => true
      | some previous =>
        (mark = '~' && previous = '~' && !Text.isPunctuation next) || Text.isBlank previous ||
          Text.isPunctuation previous

/-- Whether the run of `length` marks at `position` may end an element.  `start` is where the line's
text starts. -/
def canCloseAt (source : Source) (start position length : Nat) (mark : Char) : Bool :=
  if position = start then false
  else
    match source.at? (position - 1) with
    | none => false
    | some previous =>
      if Text.isBlank previous then false
      else
        match source.at? (position + length) with
        | none => true
        | some next =>
          if (mark = '*' || (mark = '~' && 1 < length)) && !Text.isPunctuation previous then true
          else (mark = '~' && previous = '~') || Text.isBlank next || Text.isPunctuation next

/-! ## Lines -/

/-- How the scan of a line goes on behind a character of meaning. -/
structure Cut where
  /-- The piece that is cut out, if there is one. -/
  piece : Option Piece
  /-- The position at which the next piece of text starts. -/
  text : Nat
  /-- The position at which the scan goes on. -/
  next : Nat

/-- Cut out a piece; text goes on behind it. -/
def Cut.at (start stop : Nat) (kind : PieceKind) : Cut :=
  ⟨some ⟨start, stop, kind⟩, stop, stop⟩

/-- The cut at `position`, where the character `c` stands, or the number of characters that are plain
text. -/
def cutAt (source : Source) (start position : Nat) (c : Char) : Cut ⊕ Nat :=
  if c = '\\' then
    if isEscape source position then
      if source.hasAt (position + 1) '\x60' then
        let count := source.runLength '\x60' (position + 1)
        .inl (.at (position + 1) (position + 1 + count) (.ticks count true))
      else .inl ⟨none, position + 1, position + 2⟩
    else .inr 1
  else if c = '*' || c = '_' || c = '~' then
    let length := source.runLength c position
    let canOpen := canOpenAt source start position length c
    let canClose := canCloseAt source start position length c
    if (canOpen || canClose) && (c ≠ '~' || length ≤ 2) then
      .inl (.at position (position + length) (.run ⟨c, length, canOpen, canClose⟩))
    else .inr length
  else if c = '\x60' then
    let count := source.runLength c position
    .inl (.at position (position + count) (.ticks count false))
  else if c = '<' && !source.hasAt (position + 1) '\\' then .inl (.at position (position + 1) .angle)
  else if c = '!' && source.hasAt (position + 1) '[' then
    .inl (.at position (position + 2) .imageOpen)
  else if c = '[' then .inl (.at position (position + 1) .linkOpen)
  else if c = ']' then .inl (.at position (position + 1) (.linkClose true))
  else if c = '&' then
    match reference? source position with
    | some (value, next) => .inl (.at position next (.reference value))
    | none => .inr 1
  else .inr 1

/-- The pieces of a line. -/
structure Line where
  /-- The pieces, last one first. -/
  pieces : List Piece
  /-- The position after the line. -/
  next : Nat
  /-- The line break, unless the text ends here. -/
  lineBreak : Option Piece

/-- End a line at the line end at `position`, with text since `text`. -/
def endLine (source : Source) (text position next : Nat) (pieces : List Piece) : Line :=
  let backslashes := source.countBefore (· = '\\') position
  let spaces := source.countBefore Source.isLineSpace position
  if backslashes % 2 = 1 && next < source.size then
    { pieces := consText text (position - 1) pieces, next
      lineBreak := some ⟨position - 1, next, .hardBreak true⟩ }
  else if 2 ≤ spaces then
    { pieces := consText text (position - spaces) pieces, next
      lineBreak := some ⟨position - spaces, next, .hardBreak false⟩ }
  else
    { pieces := consText text (position - spaces) pieces, next
      lineBreak := some ⟨position, next, .softBreak⟩ }

/-- Cut the line whose text starts at `start`, from `position` on; plain text has been seen since
`text`. -/
def cutLine (source : Source) (start : Nat) : Nat → Nat → Nat → List Piece → Line
  | 0, _, position, pieces => { pieces, next := position, lineBreak := none }
  | fuel + 1, text, position, pieces =>
    match source.at? position with
    | none =>
      let spaces := min (source.countBefore Source.isLineSpace position) (position - text)
      { pieces := consText text (position - spaces) pieces, next := position, lineBreak := none }
    | some c =>
      match if Source.isLineEnd c then source.lineEnd? position else none with
      | some next => endLine source text position next pieces
      | none =>
        match cutAt source start position c with
        | .inl cut =>
          cutLine source start fuel cut.text cut.next
            (cut.piece.toList ++ consText text position pieces)
        | .inr length => cutLine source start fuel text (position + length) pieces

/-- The pieces of the line whose text starts at `start`. -/
def lineAt (source : Source) (start : Nat) : Line :=
  cutLine source start (source.size + 1) start start []

end Gamebook.Markdown
