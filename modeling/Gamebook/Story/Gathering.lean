import Gamebook.Markdown.Event
import Gamebook.Story.Content

/-!
# Gathering content

A block of markdown is flattened to story content.  Adjacent texts and line breaks of one style form
one run; every start or end of an element, and every other event, ends the run.
-/

namespace Gamebook.Story

open Markdown (Event EventKind Tag)
open Text (Span)

/-- The flattened content of a block. -/
structure Gathered where
  /-- The contents, last one first. -/
  contents : List Content
  /-- The destinations of the links, last one first. -/
  links : List String
  /-- Whether the last content is a run of text that may still grow. -/
  growing : Bool

namespace Gathered

/-- Nothing. -/
def empty : Gathered := ⟨[], [], false⟩

/-- End the last run of text. -/
def endRun (gathered : Gathered) : Gathered :=
  { gathered with growing := false }

/-- Add a content that is no run of text. -/
def push (gathered : Gathered) (content : Content) : Gathered :=
  { gathered with contents := content :: gathered.contents, growing := false }

/-- Add text, to the last run if that may grow and has the same style. -/
def pushText (source : String) (gathered : Gathered) (text : String) (style : Style)
    (span : Span) : Gathered :=
  let fresh : Gathered :=
    { gathered with
      contents := .text { text, raw := span.slice source, style, endsParagraph := false, span } ::
        gathered.contents
      growing := true }
  match gathered.contents with
  | .text run :: rest =>
    if gathered.growing && run.style = style then
      let span : Span := ⟨run.span.start, span.stop⟩
      { gathered with
        contents := .text { run with text := run.text ++ text, raw := span.slice source, span } ::
          rest }
    else fresh
  | _ => fresh

/-- Mark the last content as the end of a paragraph that started when there were `count` contents, if
it is a run of text. -/
def endParagraph (gathered : Gathered) (count : Nat) : Gathered :=
  if gathered.contents.length ≤ count then gathered
  else
    match gathered.contents with
    | .text run :: rest =>
      { gathered with contents := .text { run with endsParagraph := true } :: rest }
    | _ => gathered

/-- Add the content of a later block; the last run does not grow any more. -/
def append (first second : Gathered) : Gathered :=
  { contents := second.contents ++ first.contents, links := second.links ++ first.links
    growing := false }

end Gathered

/-- A code block whose end has not been reached. -/
structure OpenFence where
  /-- The language. -/
  language : Option String
  /-- The text so far. -/
  text : String
  /-- The bytes of the block. -/
  span : Span

/-- The content of an open code block. -/
def OpenFence.content (fence : OpenFence) : Content :=
  .fence fence.language fence.text fence.span

/-- The state of gathering inside a block. -/
structure Gathering where
  /-- What has been gathered. -/
  gathered : Gathered
  /-- The number of open elements. -/
  depth : Nat
  /-- The styles of the open elements that have one, innermost first. -/
  styles : List Style
  /-- The number of contents at the start of every open paragraph or item, innermost first. -/
  paragraphs : List Nat
  /-- The open code block. -/
  fence : Option OpenFence

namespace Gathering

/-- The state in front of a block. -/
def start : Gathering := ⟨.empty, 0, [], [], none⟩

/-- The style of text. -/
def style (state : Gathering) : Style :=
  state.styles.headD .plain

/-- Whether the block is complete. -/
def isComplete (state : Gathering) : Bool :=
  state.depth = 0 && state.fence.isNone

/-- Enter an element. -/
def enter (state : Gathering) (tag : Tag) (span : Span) : Gathering :=
  let inner := { state with depth := state.depth + 1, gathered := state.gathered.endRun }
  match tag with
  | .codeBlock info =>
    { state with fence := some ⟨info.bind fun text => (Text.words text).head?, "", span⟩ }
  | .emphasis => { inner with styles := .emphasis :: state.styles }
  | .strong => { inner with styles := .strong :: state.styles }
  | .link destination =>
    { inner with gathered := { inner.gathered with links := destination :: inner.gathered.links } }
  | .paragraph | .item =>
    { inner with paragraphs := state.gathered.contents.length :: state.paragraphs }
  | _ => inner

/-- Leave an element. -/
def leave (state : Gathering) (tag : Tag) : Gathering :=
  let outer := { state with depth := state.depth - 1, gathered := state.gathered.endRun }
  match tag with
  | .emphasis | .strong => { outer with styles := state.styles.tail }
  | .paragraph | .item =>
    match state.paragraphs with
    | [] => outer
    | count :: rest =>
      { outer with paragraphs := rest, gathered := outer.gathered.endParagraph count }
  | _ => outer

/-- Take in one event. -/
def step (source : String) (state : Gathering) (event : Event) : Gathering :=
  match state.fence with
  | some fence =>
    match event.kind with
    | .stop (.codeBlock _) =>
      { state with fence := none, gathered := state.gathered.push fence.content }
    | .text text => { state with fence := some { fence with text := fence.text ++ text } }
    | _ => state
  | none =>
    let addText (text : String) : Gathering :=
      { state with gathered := state.gathered.pushText source text state.style event.span }
    match event.kind with
    | .start tag => state.enter tag event.span
    | .stop tag => state.leave tag
    | .text text => addText text
    | .softBreak | .hardBreak => addText "\n"
    | .code code => { state with gathered := state.gathered.push (.code code event.span) }
    | .html _ | .thematicBreak => { state with gathered := state.gathered.endRun }

/-- What has been gathered when the events end. -/
def finish (state : Gathering) : Gathered :=
  match state.fence with
  | some fence => state.gathered.push fence.content
  | none => state.gathered

/-- Take in events until the block is complete; the rest of the events is returned too. -/
def run (source : String) (state : Gathering) : List Event → Gathered × List Event
  | [] => (state.finish, [])
  | event :: rest =>
    let state := state.step source event
    if state.isComplete then (state.gathered, rest) else state.run source rest

theorem run_length (source : String) (state : Gathering) (events : List Event) :
    (state.run source events).2.length ≤ events.length - 1 := by
  induction events generalizing state with
  | nil => simp [run]
  | cons event rest ih =>
      rw [run]
      split
      · simp
      · have := ih (state.step source event)
        simp only [List.length_cons]
        omega

end Gathering

/-- Gather the block at the front of the events: an element with all that is inside it, or a single
event. -/
def gatherBlock (source : String) (events : List Event) : Gathered × List Event :=
  Gathering.start.run source events

theorem gatherBlock_length (source : String) (event : Event) (rest : List Event) :
    (gatherBlock source (event :: rest)).2.length < rest.length + 1 := by
  have := Gathering.start.run_length source (event :: rest)
  simp only [List.length_cons] at this
  unfold gatherBlock
  omega

end Gamebook.Story
