import Gamebook.Markdown.Event
import Gamebook.Markdown.Piece

/-!
# Emphasis

Runs of emphasis marks are paired from left to right: a run that may end an element takes the nearest
run of its mark that may start one.  What no partner is found for is plain text.
-/

namespace Gamebook.Markdown

/-- A part of a line whose links and code are known, but whose emphasis is not. -/
inductive Item
  | node (node : Node)
  /-- A run of emphasis marks that starts at a position. -/
  | run (run : Run) (start : Nat)
  /-- A line break made by the backslash at a position, and the position after it. -/
  | backslashBreak (start stop : Nat)

/-- A run that may start an element, and what has been read since. -/
structure Opener where
  /-- The run. -/
  run : Run
  /-- The position of the first mark that has no partner yet. -/
  start : Nat
  /-- The number of marks that have no partner yet. -/
  count : Nat
  /-- The nodes behind the run, last one first. -/
  after : List Node

/-- The state of the pairing. -/
structure Pairing where
  /-- The nodes outside all openers, last one first. -/
  nodes : List Node
  /-- The openers, innermost first. -/
  openers : List Opener
  /-- The number of outermost openers that tildes are not paired with any more. -/
  tildeFloor : Nat

variable (source : Source)

/-- The node of plain text between two positions. -/
def textNode (start stop : Nat) : Node :=
  .leaf (.text (source.sliceText start stop)) (source.span start stop)

namespace Pairing

/-- Nothing is read. -/
def empty : Pairing := ⟨[], [], 0⟩

/-- Add a node behind everything that has been read. -/
def add (pairing : Pairing) (node : Node) : Pairing :=
  match pairing.openers with
  | [] => { pairing with nodes := node :: pairing.nodes }
  | opener :: rest =>
    { pairing with openers := { opener with after := node :: opener.after } :: rest }

/-- Whether a run may end the element that an opener starts. -/
def pairs (run : Run) (opener : Run) : Bool :=
  opener.mark = run.mark && (run.mark ≠ '~' || opener.length = run.length) &&
    ((!(run.canOpen && run.canClose) && !(opener.canOpen && opener.canClose)) ||
      (run.length + opener.length) % 3 ≠ 0 || run.length % 3 = 0)

/-- Split the openers at the innermost one that pairs with a run: those inside it, the opener, and
those around it.  The `floor` outermost openers are left out. -/
def splitAt (run : Run) (floor : Nat) : List Opener → Option (List Opener × Opener × List Opener)
  | [] => none
  | opener :: around =>
    if around.length < floor then none
    else if pairs run opener.run then some ([], opener, around)
    else (splitAt run floor around).map fun (inside, found, around) =>
      (opener :: inside, found, around)

/-- The marks of an opener as plain text, with what is behind them, last node first. -/
def Opener.flatten (opener : Opener) : List Node :=
  opener.after ++ [textNode source opener.start (opener.start + opener.count)]

/-- The tag of an element that takes one or two marks on each side. -/
def tagOf (mark : Char) (double : Bool) : Tag :=
  if mark = '~' then .strikethrough else if double then .strong else .emphasis

/-- Wrap nodes into elements, from the inside out, that take `count` marks on each side: those before
`start`, and those from `stop` on. -/
def wrap (mark : Char) : (count start stop : Nat) → List Node → List Node
  | 0, _, _, children => children
  | 1, start, stop, children =>
    [.element (tagOf mark false) (source.span (start - 1) (stop + 1)) children]
  | count + 2, start, stop, children =>
    wrap mark count (start - 2) (stop + 2)
      [.element (tagOf mark true) (source.span (start - 2) (stop + 2)) children]

/-- Pair the marks of a closing run, of which `count` are left from position `start` on; the number
of marks that found no partner is returned too. -/
def closeRun (run : Run) : (fuel count start : Nat) → Pairing → Pairing × Nat
  | 0, count, _, pairing => (pairing, count)
  | fuel + 1, count, start, pairing =>
    let isTilde := run.mark = '~'
    match splitAt run (if isTilde then pairing.tildeFloor else 0) pairing.openers with
    | none =>
      (if isTilde then { pairing with tildeFloor := pairing.openers.length } else pairing, count)
    | some (inside, opener, around) =>
      let children := (inside.flatMap (Opener.flatten source) ++ opener.after).reverse
      let paired := min count opener.count
      let nodes := wrap source run.mark paired (opener.start + opener.count) start children
      let rest : Pairing :=
        { pairing with openers := around, tildeFloor := min pairing.tildeFloor around.length }
      let pairing :=
        if paired < opener.count then
          { rest with openers := { opener with count := opener.count - paired, after := nodes } ::
              around }
        else nodes.foldl add rest
      if paired < count then closeRun run fuel (count - paired) (start + paired) pairing
      else (pairing, 0)

/-- Read a run of emphasis marks. -/
def addRun (pairing : Pairing) (run : Run) (start : Nat) : Pairing :=
  let (pairing, count) :=
    if run.canClose then closeRun source run run.length run.length start pairing
    else (pairing, run.length)
  let first := start + (run.length - count)
  if count = 0 then pairing
  else if run.canOpen then
    { pairing with openers := ⟨run, first, count, []⟩ :: pairing.openers }
  else pairing.add (textNode source first (first + count))

/-- The nodes that have been read; openers without a partner are plain text. -/
def finish (pairing : Pairing) : List Node :=
  (pairing.openers.flatMap (Opener.flatten source) ++ pairing.nodes).reverse

end Pairing

/-- Resolve the emphasis of items.  A backslash that would break the line behind the last item is
plain text if emphasis marks stand in front of it. -/
def emphasize (pairing : Pairing) (marked : Bool) : List Item → List Node
  | [] => pairing.finish source
  | .node node :: rest => emphasize (pairing.add node) marked rest
  | .run run start :: rest => emphasize (pairing.addRun source run start) true rest
  | .backslashBreak start stop :: rest =>
    let kind : EventKind := if marked && rest.isEmpty then .text "\\" else .hardBreak
    emphasize (pairing.add (.leaf kind (source.span start stop))) marked rest

/-- The nodes of items. -/
def resolveEmphasis (items : List Item) : List Node :=
  emphasize source .empty false items

end Gamebook.Markdown
