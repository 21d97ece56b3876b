import Gamebook.Markdown.Event
import Gamebook.Markdown.Html
import Gamebook.Markdown.Link
import Gamebook.Markdown.Opening
import Gamebook.Markdown.Piece

/-!
# Blocks

A markdown text is a tree of blocks.  While it is read, the open containers form a stack of frames;
every frame gathers the blocks that are finished inside it.  Paragraphs and headings keep the pieces
of their lines until all link references are known.
-/

namespace Gamebook.Markdown

/-! ## Containers -/

/-- A block that holds other blocks. -/
inductive Container
  | quote
  /-- A list, whether its items are tight, and the mark they share. -/
  | list (tight : Bool) (mark : ListMark)
  /-- An item and the indentation of its content. -/
  | item (indent : Nat)

/-- Read what a line has to start with to belong to a container. -/
def Container.enter? (source : Source) (cursor : Cursor) : Container → Option Cursor
  | .quote => (cursor.skip source 3).2.quoteMark? source
  | .list _ _ => some cursor
  | .item indent =>
    let (missing, next) := cursor.skip source indent
    if missing = 0 || next.atLineEnd source then some next else none

/-- Enter containers from the outside in; those that the line does not belong to are returned with
the cursor. -/
def enterAll (source : Source) : List Container → Cursor → List Container × Cursor
  | [], cursor => ([], cursor)
  | container :: rest, cursor =>
    match container.enter? source cursor with
    | some next => enterAll source rest next
    | none => (container :: rest, cursor)

/-- The position at which the content of a line starts that begins at `position`. -/
def contentStart (source : Source) (containers : List Container) (position : Nat) : Nat :=
  (enterAll source containers (.start position)).2.position

/-! ## Blocks -/

/-- A part of a code block: its text, and the positions it stands for. -/
structure CodePart where
  /-- The text. -/
  text : String
  /-- The first position. -/
  start : Nat
  /-- The position after the part. -/
  stop : Nat

/-- A line of an HTML block. -/
structure HtmlLine where
  /-- The columns of indentation that are not part of the text. -/
  columns : Nat
  /-- The first position. -/
  start : Nat
  /-- The position after the line. -/
  stop : Nat

/-- A block of a markdown text. -/
inductive Block
  /-- A paragraph or heading: its tag (none inside a tight list), positions, pieces, and the
  containers around it from the outside in. -/
  | leaf (tag : Option Tag) (start stop : Nat) (pieces : List Piece) (containers : List Container)
  /-- A code block, and the info text of a fenced one. -/
  | code (info : Option String) (start stop : Nat) (parts : List CodePart)
  /-- An HTML block and its lines. -/
  | html (start stop : Nat) (lines : List HtmlLine)
  | thematicBreak (start stop : Nat)
  | group (container : Container) (start stop : Nat) (blocks : List Block)

instance : Inhabited Block := ⟨.thematicBreak 0 0⟩

/-- Take the paragraph tag from a paragraph. -/
def Block.tighten : Block → Block
  | .leaf (some .paragraph) start stop pieces containers => .leaf none start stop pieces containers
  | other => other

/-- Take the paragraph tags from the paragraphs directly inside an item. -/
def Block.tightenItem : Block → Block
  | .group container start stop blocks => .group container start stop (blocks.map Block.tighten)
  | other => other

/-! ## The stack of open containers -/

/-- An open container. -/
structure Frame where
  /-- The container. -/
  container : Container
  /-- Its first position. -/
  start : Nat
  /-- The finished blocks inside it, last one first. -/
  blocks : List Block

/-- The block of a frame that ends at `stop`. -/
def Frame.close (frame : Frame) (stop : Nat) : Block :=
  let blocks := frame.blocks.reverse
  match frame.container with
  | .list true mark =>
    .group (.list true mark) frame.start stop (blocks.map Block.tightenItem)
  | container => .group container frame.start stop blocks

/-- A link reference: the label that is compared, and the destination. -/
structure Reference where
  /-- The label in the form that is compared. -/
  label : List Char
  /-- Where the link leads. -/
  destination : String

/-- A text that is being read block by block. -/
structure Draft where
  /-- The open containers, innermost first. -/
  frames : List Frame
  /-- The finished blocks outside all open containers, last one first. -/
  blocks : List Block
  /-- Whether the last line was blank. -/
  lastBlank : Bool
  /-- The position after the first line of an item that has no content yet. -/
  emptyItem : Option Nat
  /-- The link references, first one first. -/
  references : List Reference

namespace Draft

/-- The draft of a text of which nothing has been read. -/
def empty : Draft :=
  { frames := [], blocks := [], lastBlank := false, emptyItem := none, references := [] }

/-- The open containers from the outside in. -/
def containers (draft : Draft) : List Container :=
  (draft.frames.map Frame.container).reverse

/-- Put a finished block into the innermost open container. -/
def add (draft : Draft) (block : Block) : Draft :=
  match draft.frames with
  | [] => { draft with blocks := block :: draft.blocks }
  | frame :: rest => { draft with frames := { frame with blocks := block :: frame.blocks } :: rest }

/-- Open a container. -/
def openFrame (draft : Draft) (container : Container) (start : Nat) : Draft :=
  { draft with frames := ⟨container, start, []⟩ :: draft.frames }

/-- Close the innermost open container. -/
def close (draft : Draft) (stop : Nat) : Draft :=
  match draft.frames with
  | [] => draft
  | frame :: rest =>
    let closed := { draft with frames := rest }.add (frame.close stop)
    match frame.container with
    | .list true _ => { closed with emptyItem := none }
    | _ => closed

/-- Close containers until `count` are left open. -/
def closeDownTo (draft : Draft) (count stop : Nat) : Draft :=
  (List.range (draft.frames.length - count)).foldl (fun current _ => current.close stop) draft

/-- Close an item that has no content if a blank line follows its first one. -/
def closeEmptyItem (draft : Draft) : Draft :=
  match draft.emptyItem, draft.frames with
  | some stop, ⟨.item _, _, _⟩ :: _ =>
    let closed := if draft.lastBlank then draft.close stop else draft
    { closed with emptyItem := none }
  | _, _ => { draft with emptyItem := none }

/-- Make the list loose in which the innermost open container is an item. -/
def loosen (draft : Draft) : Draft :=
  match draft.frames with
  | inner :: ⟨.list _ mark, start, blocks⟩ :: rest =>
    { draft with frames := inner :: ⟨.list false mark, start, blocks⟩ :: rest }
  | _ => draft

/-- Close an open list, as anything but an item of it does.  A blank line in front makes the list
around it loose. -/
def closeList (draft : Draft) (stop : Nat) : Draft :=
  let draft := draft.closeEmptyItem
  let draft :=
    match draft.frames with
    | ⟨.list _ _, _, _⟩ :: _ => draft.close stop
    | _ => draft
  if draft.lastBlank then { draft.loosen with lastBlank := false } else draft

/-- Go on with the open list if it has the given mark, or start a list. -/
def continueList (draft : Draft) (start : Nat) (mark : ListMark) : Draft :=
  let draft := draft.closeEmptyItem
  let fresh (draft : Draft) : Draft :=
    { draft.openFrame (.list true mark) start with lastBlank := false }
  match draft.frames with
  | [] => fresh draft
  | ⟨.list tight old, listStart, blocks⟩ :: rest =>
    if old.character = mark.character then
      { draft with
        frames := ⟨.list (tight && !draft.lastBlank) old, listStart, blocks⟩ :: rest
        lastBlank := false }
    else fresh (draft.closeList start)
  | _ => fresh (draft.closeList start)

/-- Note a blank line. -/
def noteBlank (draft : Draft) : Draft :=
  match draft.frames with
  | ⟨.quote, _, _⟩ :: _ => draft
  | ⟨.item indent, start, blocks⟩ :: rest =>
    let indent := if draft.emptyItem.isSome then 0 else indent
    { draft with frames := ⟨.item indent, start, blocks⟩ :: rest, lastBlank := true }
  | _ => { draft with lastBlank := true }

end Draft

end Gamebook.Markdown
