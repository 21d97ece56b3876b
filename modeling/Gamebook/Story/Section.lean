import Gamebook.Story.Document
import Gamebook.Story.Gathering

/-!
# Sections

A story is cut at its headings.  Within a section, the items of the first bullet list and of those
after it become options; other content that follows them belongs to the last option.  Sections that
hold settings have no options.
-/

namespace Gamebook.Story

open Markdown (Event EventKind Tag)
open Text (Span)

/-- A list item with what was gathered from it. -/
structure Item where
  /-- The content of the item and of the blocks after it. -/
  gathered : Gathered
  /-- The bytes of the item. -/
  span : Span

/-- A section that is being read. -/
structure OpenSection where
  /-- The name. -/
  name : String
  /-- The offset of the heading. -/
  start : Nat
  /-- The content in front of the options. -/
  body : List Content
  /-- The items, last one first. -/
  items : List Item

/-- A section of a story. -/
structure Section where
  /-- The name. -/
  name : String
  /-- The bytes from the heading to the next one. -/
  span : Span
  /-- The content in front of the options. -/
  body : List Content
  /-- The items in order. -/
  items : List Item

/-- Whether a name is that of a section with settings. -/
def isSettingsName (name : String) : Bool :=
  name = settingsSection

namespace OpenSection

/-- Add the content of a block to the body, or to the last item once there is one. -/
def add (opened : OpenSection) (gathered : Gathered) : OpenSection :=
  match opened.items with
  | [] => { opened with body := opened.body ++ gathered.contents.reverse }
  | item :: rest =>
    { opened with items := { item with gathered := item.gathered.append gathered } :: rest }

/-- Add items, which are given in order. -/
def addItems (opened : OpenSection) (items : List Item) : OpenSection :=
  { opened with items := items.reverse ++ opened.items }

/-- The section that ends at an offset. -/
def close (opened : OpenSection) (stop : Nat) : Section :=
  { name := opened.name, span := ⟨opened.start, stop⟩, body := opened.body
    items := opened.items.reverse }

end OpenSection

/-- The text of a heading, up to its end; the rest of the events is returned too. -/
def headingText : List Event → String × List Event
  | [] => ("", [])
  | event :: rest =>
    match event.kind with
    | .stop (.heading _) => ("", rest)
    | .text text | .code text =>
      let (name, rest) := headingText rest
      (text ++ name, rest)
    | .softBreak | .hardBreak =>
      let (name, rest) := headingText rest
      (" " ++ name, rest)
    | _ => headingText rest

theorem headingText_length (events : List Event) :
    (headingText events).2.length ≤ events.length := by
  induction events with
  | nil => simp [headingText]
  | cons event rest ih =>
      rw [headingText]
      split <;> simp only [List.length_cons] <;> omega

variable (source : String)

/-- The items of a bullet list, up to its end; the rest of the events is returned too. -/
def readItems (events : List Event) : List Item × List Event :=
  match events with
  | [] => ([], [])
  | event :: rest =>
    match event.kind with
    | .stop (.list none) => ([], rest)
    | .start .item =>
      match gathered : gatherBlock source (event :: rest) with
      | (content, following) =>
        have : following.length < rest.length + 1 := by
          have := gatherBlock_length source event rest
          rwa [gathered] at this
        let (items, others) := readItems following
        (⟨content, event.span⟩ :: items, others)
    | _ => readItems rest
termination_by events.length

theorem readItems_length (events : List Event) :
    (readItems source events).2.length ≤ events.length := by
  fun_induction readItems source events with
  | case1 => simp
  | case2 => simp
  | case3 event rest _ content following gathered shorter _ _ equal ih =>
      rw [equal] at ih
      dsimp only at ih
      simp only [List.length_cons]
      omega
  | case4 event rest _ _ ih =>
      simp only [List.length_cons]
      omega

/-- Whether an event starts a heading. -/
def startsHeading (event : Event) : Bool :=
  match event.kind with
  | .start (.heading _) => true
  | _ => false

/-- Whether an event starts a bullet list. -/
def startsBullets (event : Event) : Bool :=
  match event.kind with
  | .start (.list none) => true
  | _ => false

/-- Whether bullet lists make options in the section at hand. -/
def takesOptions (current : Option OpenSection) : Bool :=
  current.any fun opened => !isSettingsName opened.name

/-- The section at hand, if there is one, ended at an offset. -/
def closeSection (current : Option OpenSection) (stop : Nat) : List Section :=
  (current.map fun opened => opened.close stop).toList

/-- Read sections; `current` is the one that the events continue. -/
def readSections (current : Option OpenSection) (events : List Event) : List Section :=
  match events with
  | [] => closeSection current source.utf8ByteSize
  | event :: rest =>
    if startsHeading event then
      match heading : headingText rest with
      | (name, following) =>
        have : following.length < rest.length + 1 := by
          have := headingText_length rest
          rw [heading] at this
          exact Nat.lt_succ_of_le this
        let opened : OpenSection := ⟨Text.normalizeSpaces name, event.span.start, [], []⟩
        closeSection current event.span.start ++ readSections (some opened) following
    else if startsBullets event && takesOptions current then
      match listed : readItems source rest with
      | (items, following) =>
        have : following.length < rest.length + 1 := by
          have := readItems_length source rest
          rw [listed] at this
          exact Nat.lt_succ_of_le this
        readSections (current.map fun opened => opened.addItems items) following
    else
      match gathered : gatherBlock source (event :: rest) with
      | (content, following) =>
        have : following.length < rest.length + 1 := by
          have := gatherBlock_length source event rest
          rwa [gathered] at this
        readSections (current.map fun opened => opened.add content) following
termination_by events.length

/-- The sections of a story. -/
def sections (events : List Event) : List Section :=
  readSections source none events

end Gamebook.Story
