import Gamebook.Markdown.Block

/-!
# The blocks of a text

A text is read block by block: the line at hand is matched against the open containers, new
containers are opened, and what is left of the line decides which block starts.
-/

namespace Gamebook.Markdown

variable (source : Source) (containers : List Container)

/-! ## Paragraphs and headings -/

/-- Whether the line that goes on at `position` interrupts a paragraph. -/
def interrupts (inContainer : Bool) (position : Nat) : Bool :=
  (source.lineEnd? position).isSome || (thematicBreak? source position).isSome ||
    (headingLevel? source position).isSome || (fence? source position).isSome ||
    source.hasAt position '>' || interruptingItem source inContainer position ||
    (Html.blockEnd? source false position).isSome

/-- The lines of a paragraph. -/
structure ParagraphLines where
  /-- The pieces, last one first. -/
  pieces : List Piece
  /-- The position after the paragraph. -/
  next : Nat
  /-- The level of the heading that an underline makes of the paragraph. -/
  level : Option Nat

/-- Read the lines of a paragraph from the one whose text starts at `position`. -/
def paragraphLines : Nat → Nat → List Piece → ParagraphLines
  | 0, position, pieces => { pieces, next := position, level := none }
  | fuel + 1, position, pieces =>
    let line := lineAt source position
    let pieces := line.pieces ++ pieces
    let ended :=
      match line.lineBreak with
      | some ⟨start, _, .hardBreak true⟩ => consText start (start + 1) pieces
      | _ => pieces
    let (outside, cursor) := enterAll source containers (.start line.next)
    let inContainer := outside.isEmpty
    let (missing, cursor) := cursor.skip source 4
    let nearMargin := 0 < missing
    match if nearMargin && inContainer then underline? source cursor.position else none with
    | some (level, next) => { pieces := ended, next, level := some level }
    | none =>
      let content := cursor.skipSpace source
      if (nearMargin && interrupts source inContainer cursor.position) ||
          content.atLineEnd source then
        { pieces := ended, next := line.next, level := none }
      else paragraphLines fuel content.position (line.lineBreak.toList ++ pieces)

/-- The block of a paragraph, or of the heading that an underline makes of it. -/
def paragraphBlock (start : Nat) : Block × Nat :=
  let lines := paragraphLines source containers (source.size + 1) start []
  let tag := (lines.level.map Tag.heading).getD .paragraph
  (.leaf (some tag) start lines.next lines.pieces.reverse containers, lines.next)

/-- The position at which the text of a heading ends: in front of the number signs that close it and
the spaces before them. -/
def headingTextEnd (start stop : Nat) : Nat :=
  let limit := stop - source.countBefore (fun c => Source.isLineEnd c || c = ' ') stop
  if limit ≤ start then start
  else
    let closing := limit - source.countBefore (· = '#') limit
    if closing ≤ start then start
    else
      let spaces := source.countBefore (· = ' ') closing
      if 0 < spaces then max start (closing - spaces) else limit

/-- The block of a heading that starts with number signs. -/
def headingBlock (start level : Nat) : Block × Nat :=
  match source.lineEnd? (start + level) with
  | some next => (.leaf (some (.heading level)) start next [] containers, next)
  | none =>
    let first := source.skipLineSpace (start + level)
    let line := lineAt source first
    let pieces :=
      match line.pieces with
      | [] => []
      | last :: rest => { last with stop := headingTextEnd source first line.next } :: rest
    (.leaf (some (.heading level)) start line.next pieces.reverse containers, line.next)

/-! ## Code blocks -/

/-- The part of a code block between two positions. -/
def codePart (start stop : Nat) : List CodePart :=
  if start < stop then [⟨source.sliceText start stop, start, stop⟩] else []

/-- The parts of a line of code, the columns of a tab that are left in front of it included.  A
carriage return before the last byte of the line is dropped. -/
def codeLine (pending start stop : Nat) : List CodePart :=
  let tab := if 0 < pending then [⟨String.ofList (List.replicate pending ' '), start, start⟩] else []
  let returns :=
    2 ≤ stop && source.hasAt (stop - 2) '\r' &&
      (source.at? (stop - 1)).any fun c => c.utf8Size = 1
  if returns then
    tab ++ (codePart source start (stop - 2) ++ codePart source (max start (stop - 1)) stop)
  else tab ++ codePart source start stop

/-- The lines of a code block. -/
structure CodeLines where
  /-- The parts, last one first. -/
  parts : List CodePart
  /-- The position at which the block ends. -/
  stop : Nat
  /-- The position at which the text goes on. -/
  next : Nat

/-- Read the lines of a fenced code block up to its closing fence. -/
def fencedLines (indent : Nat) (mark : Char) (count : Nat) : Nat → Nat → List CodePart → CodeLines
  | 0, position, parts => ⟨parts, position, position⟩
  | fuel + 1, position, parts =>
    let (outside, cursor) := enterAll source containers (.start position)
    if outside.isEmpty then
      let cursor := (cursor.skip source indent).2
      let (missing, closing) := cursor.skip source (4 - indent)
      match if 0 < missing then closingFence? source mark count closing.position else none with
      | some stop => ⟨parts, stop, (source.blankLine? stop).getD stop⟩
      | none =>
        let next := source.nextLine cursor.position
        let line := codeLine source cursor.pending cursor.position next
        fencedLines indent mark count fuel next (line.reverse ++ parts)
    else ⟨parts, position, position⟩

/-- The block of a code fence. -/
def fencedBlock (start indent : Nat) (mark : Char) (count : Nat) : Block × Nat :=
  let infoStart := source.skipLineSpace (start + count)
  let next := source.nextLine infoStart
  let infoStop := next - min (source.countBefore Source.isSpace next) (next - infoStart)
  let info := unescape (source.slice infoStart infoStop)
  let lines := fencedLines source containers indent mark count (source.size + 1) next []
  (.code (some info) start lines.stop lines.parts.reverse, lines.next)

/-- The lines of an indented code block, and whether the last one was blank. -/
structure IndentedLines extends CodeLines where
  /-- Whether the last line was blank. -/
  lastBlank : Bool

/-- Read the lines of an indented code block; `kept` is what has been read up to the last line that
was not blank. -/
def indentedLines : Nat → (position pending : Nat) → (blank : Bool) → (parts : List CodePart) →
    (kept : List CodePart × Nat) → IndentedLines
  | 0, position, _, blank, _, kept =>
    { parts := kept.1, stop := kept.2, next := position, lastBlank := blank }
  | fuel + 1, position, pending, blank, parts, kept =>
    let next := source.nextLine position
    let parts := (codeLine source pending position next).reverse ++ parts
    let kept := if blank then kept else (parts, next)
    let (outside, cursor) := enterAll source containers (.start next)
    let (missing, inner) := cursor.skip source 4
    if outside.isEmpty && (missing = 0 || inner.atLineEnd source) &&
        inner.position < source.size then
      indentedLines fuel inner.position inner.pending (source.isBlankLine inner.position) parts kept
    else { parts := kept.1, stop := kept.2, next, lastBlank := blank }

/-! ## HTML blocks -/

/-- Read the lines of an HTML block, the first of which starts behind so many columns of indentation.
They are returned last one first, with the position at which the block ends and the one at which the
text goes on. -/
def htmlLines (ending : Html.BlockEnd) : (fuel columns position : Nat) → List HtmlLine →
    List HtmlLine × Nat × Nat
  | 0, _, position, lines => (lines, position, position)
  | fuel + 1, columns, position, lines =>
    let next := source.nextLine position
    let lines := ⟨columns, position, next⟩ :: lines
    let (outside, cursor) := enterAll source containers (.start next)
    let complete :=
      match ending with
      | .mark text => Text.occursIn text (source.slice position next)
      | .blankLine => cursor.atLineEnd source
    let blank :=
      match ending with
      | .mark _ => false
      | .blankLine => source.isBlankLine cursor.position
    if !outside.isEmpty || complete then (lines, next, next)
    else if source.size ≤ cursor.position || blank then (lines, cursor.position, next)
    else htmlLines ending fuel cursor.pending cursor.position lines

/-! ## Link references -/

/-- Where the text of the line at `position` starts, if a label may go on there. -/
def labelLine? (position : Nat) : Option Nat :=
  let (outside, cursor) := enterAll source containers (.start position)
  if interrupts source outside.isEmpty cursor.position ||
      (outside.isEmpty && (underline? source cursor.position).isSome) then none
  else some cursor.position

/-- Skip white space with at most one line end, `lineEnds` of which are behind; their number is
returned with the position. -/
def definitionSpace? : Nat → Nat → Nat → Option (Nat × Nat)
  | 0, _, _ => none
  | fuel + 1, lineEnds, position =>
    let position := source.skipLineSpace position
    match source.lineEnd? position with
    | none => some (position, lineEnds)
    | some next =>
      if 0 < lineEnds then none
      else
        let (outside, cursor) := enterAll source containers (.start next)
        let (missing, cursor) := cursor.skip source 4
        if 0 < missing && (interrupts source outside.isEmpty cursor.position ||
            (underline? source cursor.position).isSome) then none
        else definitionSpace? fuel (lineEnds + 1) cursor.position

/-- Read a link reference: a label, a colon, a destination and perhaps a title. -/
def definition? (position : Nat) : Option (Reference × Nat) := do
  let (label, stop) ← Link.label? source (labelLine? source containers) position
  if !source.hasAt stop ':' then none
  let (first, _) ← definitionSpace? source containers 2 0 (stop + 1)
  let (destination, stop) ← Link.destination? source first
  if stop = first then none
  let reference : Reference := ⟨label, destination⟩
  match definitionSpace? source containers 2 0 stop with
  | none => some (reference, stop)
  | some (next, lineEnds) =>
    if next = stop then none
    else
      let titled := (Link.title? source (fun line => !source.isBlankLine line) next).filter
        fun after => source.isBlankLine after
      match titled with
      | some after => some (reference, after)
      | none => if 0 < lineEnds then some (reference, stop) else none

/-! ## Blocks -/

/-- Open the containers that start on the line which began at `lineStart`.  The position after the
line is returned if it ends behind the mark of an item. -/
def openContainers (lineStart : Nat) : Nat → Draft → Cursor → Draft × Cursor × Option Nat
  | 0, draft, cursor => (draft, cursor, none)
  | fuel + 1, draft, cursor =>
    let (outer, inner) := cursor.skipUpTo source 4
    if 4 ≤ outer then (draft, cursor, none)
    else
      match itemStart? source outer inner with
      | some (mark, indent, content) =>
        let start := inner.position - outer
        let draft := (draft.continueList start mark).openFrame (.item indent) start
        match source.blankLine? content.position with
        | some next => ({ draft with emptyItem := some next }, content, some next)
        | none => openContainers lineStart fuel draft content
      | none =>
        match inner.quoteMark? source with
        | some content =>
          let draft := (draft.closeList lineStart).openFrame .quote inner.position
          openContainers lineStart fuel draft content
        | none => (draft, cursor, none)

/-- Read the leaf block whose text starts at `position`, behind `indent` columns. -/
def readLeaf (draft : Draft) (indent position : Nat) : Draft × Nat :=
  let containers := draft.containers
  let finish (result : Block × Nat) : Draft × Nat := (draft.add result.1, result.2)
  match Html.blockEnd? source true position with
  | some ending =>
    let (lines, stop, next) :=
      htmlLines source containers ending (source.size + 1) indent position []
    finish (.html position stop lines.reverse, next)
  | none =>
    match thematicBreak? source position with
    | some next => finish (.thematicBreak position next, next)
    | none =>
      match headingLevel? source position with
      | some level => finish (headingBlock source containers position level)
      | none =>
        match fence? source position with
        | some (mark, count) =>
          finish (fencedBlock source containers position indent mark count)
        | none =>
          match definition? source containers position with
          | some (reference, stop) =>
            ({ draft with references := draft.references ++ [reference] },
              (source.blankLine? stop).getD stop)
          | none => finish (paragraphBlock source containers position)

/-- Read one block, or a blank line, from the line that begins at `start`; the position after it is
returned too. -/
def readBlock (draft : Draft) (start : Nat) : Draft × Nat :=
  let (outside, cursor) := enterAll source draft.containers (.start start)
  let draft := draft.closeDownTo (draft.frames.length - outside.length) start
  match openContainers source start (source.size + 1) draft cursor with
  | (draft, _, some next) => (draft, next)
  | (draft, cursor, none) =>
    match source.blankLine? cursor.position with
    | some next => (draft.noteBlank, next)
    | none =>
      let draft := draft.closeList start
      let (indent, inner) := cursor.skipUpTo source 4
      if 4 ≤ indent then
        let lines := indentedLines source draft.containers (source.size + 1)
          inner.position inner.pending false [] ([], 0)
        let block := Block.code none inner.position lines.stop lines.parts.reverse
        ({ draft.add block with lastBlank := lines.lastBlank }, lines.next)
      else readLeaf source draft indent inner.position

/-- Read blocks up to the end of the text. -/
def readBlocks : Nat → Draft → Nat → Draft
  | 0, draft, _ => draft
  | fuel + 1, draft, position =>
    if position < source.size then
      let (draft, next) := readBlock source draft position
      readBlocks fuel draft next
    else draft

/-- The blocks of a text and its link references. -/
def outline : List Block × List Reference :=
  let draft := readBlocks source (source.size + 1) .empty 0
  let draft := draft.closeDownTo 0 source.size
  (draft.blocks.reverse, draft.references)

end Gamebook.Markdown
