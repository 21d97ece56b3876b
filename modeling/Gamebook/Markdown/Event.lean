import Gamebook.Text.Span

/-!
# Markdown events

A read text is a sequence of events: starts and ends of elements, which nest, and leaves between
them.  Every event carries the bytes that it stands for; the start and the end of an element both
carry the bytes of the whole element.
-/

namespace Gamebook.Markdown

/-- The kind of an element. -/
inductive Tag
  | paragraph
  | heading (level : Nat)
  | quote
  /-- A code block; fenced ones have an info text. -/
  | codeBlock (info : Option String)
  | html
  /-- A list; ordered ones have the number of their first item. -/
  | list (first : Option Nat)
  | item
  | emphasis
  | strong
  | strikethrough
  | link (destination : String)
  | image (destination : String)
  deriving DecidableEq, Inhabited, Repr

/-- What an event stands for. -/
inductive EventKind
  | start (tag : Tag)
  | stop (tag : Tag)
  | text (value : String)
  | code (value : String)
  | html (value : String)
  | softBreak
  | hardBreak
  | thematicBreak
  deriving DecidableEq, Inhabited, Repr

/-- An event and the bytes it stands for. -/
structure Event where
  /-- What the event stands for. -/
  kind : EventKind
  /-- The bytes it stands for. -/
  span : Text.Span
  deriving DecidableEq, Inhabited, Repr

/-! ## Trees of elements -/

/-- An element or a leaf, before it is laid out as events. -/
inductive Node
  | leaf (kind : EventKind) (span : Text.Span)
  | element (tag : Tag) (span : Text.Span) (children : List Node)
  deriving Inhabited

mutual

/-- The events of a node. -/
def Node.events : Node → List Event
  | .leaf kind span => [⟨kind, span⟩]
  | .element tag span children =>
    ⟨.start tag, span⟩ :: (Node.eventsAll children ++ [⟨.stop tag, span⟩])

/-- The events of nodes in order. -/
def Node.eventsAll : List Node → List Event
  | [] => []
  | node :: rest => node.events ++ Node.eventsAll rest

end

end Gamebook.Markdown
