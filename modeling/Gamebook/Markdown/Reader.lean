import Gamebook.Markdown.Inline
import Gamebook.Markdown.Outline

/-!
# Reading markdown

A text is read in two passes: its blocks and link references first, then the inline content of each
block.  The outcome is the sequence of events of the whole text.
-/

namespace Gamebook.Markdown

/-- The tag of a container. -/
def Container.tag : Container → Tag
  | .quote => .quote
  | .list _ mark => .list (if mark.isBullet then none else some mark.number)
  | .item _ => .item

/-- The nodes of a line of an HTML block: its indentation, if it has any, is a text of its own. -/
def HtmlLine.nodes (source : Source) (line : HtmlLine) : List Node :=
  let text := .leaf (.html (source.sliceText line.start line.stop)) (source.span line.start line.stop)
  if line.columns = 0 then [text]
  else
    let blanks := String.ofList (List.replicate line.columns ' ')
    [.leaf (.text blanks) (source.span line.start line.start), text]

variable (source : Source) (references : List Reference)

mutual

/-- The nodes of a block. -/
def Block.nodes : Block → List Node
  | .leaf tag start stop pieces containers =>
    let children := inlineNodes (source.upTo stop) containers references pieces
    match tag with
    | some tag => [.element tag (source.span start stop) children]
    | none => children
  | .code info start stop parts =>
    [.element (.codeBlock info) (source.span start stop)
      (parts.map fun part => .leaf (.text part.text) (source.span part.start part.stop))]
  | .html start stop lines =>
    [.element .html (source.span start stop) (lines.flatMap (HtmlLine.nodes source))]
  | .thematicBreak start stop => [.leaf .thematicBreak (source.span start stop)]
  | .group container start stop blocks =>
    [.element container.tag (source.span start stop) (Block.nodesAll blocks)]

/-- The nodes of blocks in order. -/
def Block.nodesAll : List Block → List Node
  | [] => []
  | block :: rest => block.nodes ++ Block.nodesAll rest

end

/-- The events of a text. -/
def events (text : String) : List Event :=
  let source := Source.ofString text
  let (blocks, references) := outline source
  Node.eventsAll (Block.nodesAll source references blocks)

end Gamebook.Markdown
