import Gamebook.Proofs.Story.Gathering
import Gamebook.Story.Reader
import Mathlib.Data.List.Forall2
import Mathlib.Data.List.TakeWhile

/-!
# Chapters

A story is cut at its top-level headings.  What is read of a chapter depends on the events of the
chapter alone: it is the section that these events make without the rest of the story, but that it
ends where the next chapter starts.
-/

namespace Gamebook.Story

open Markdown (Event EventKind Node Tag)
open Text (Span)

variable {source : String}

/-- A heading with the nodes up to the next one, and the bytes up to there. -/
structure Chapter where
  /-- The heading and the nodes behind it. -/
  nodes : List Node
  /-- The bytes of the chapter. -/
  span : Span

/-- Where the first heading among some nodes starts, in a source of some size; the end of the source
if there is none. -/
def nextHeading (size : Nat) (nodes : List Node) : Nat :=
  match nodes.find? Node.isHeading with
  | some heading => heading.span.start
  | none => size

/-- The nodes in front of the first heading. -/
def beforeHeading (nodes : List Node) : List Node :=
  nodes.takeWhile fun node => !node.isHeading

/-- The chapters of a story, in order; what stands in front of the first heading is in none. -/
def chapters (size : Nat) : List Node → List Chapter
  | [] => []
  | node :: rest =>
    if node.isHeading then
      ⟨node :: beforeHeading rest, ⟨node.span.start, nextHeading size rest⟩⟩ :: chapters size rest
    else chapters size rest

/-- A section is what a chapter alone is read as, but that it ends where the chapter does. -/
structure Chapter.Reads (source : String) (chapter : Chapter) (part : Section) : Prop where
  span : part.span = chapter.span
  alone : sections source (Node.eventsAll chapter.nodes) =
    [{ part with span := ⟨chapter.span.start, source.utf8ByteSize⟩ }]

/-! ## Reading nodes -/

/-- The item that a node makes. -/
def itemOf (source : String) (node : Node) : Item :=
  ⟨gatherNode source node, node.span⟩

/-- Take in a node that is no heading. -/
def OpenSection.take (source : String) (opened : OpenSection) (node : Node) : OpenSection :=
  match node with
  | .element (.list none) _ children =>
    if isSettingsName opened.name then opened.add (gatherNode source node)
    else opened.addItems (children.map (itemOf source))
  | _ => opened.add (gatherNode source node)

/-- The section that a heading opens. -/
def openingOf : Node → OpenSection
  | .leaf _ span => ⟨"", span.start, [], []⟩
  | .element _ span children =>
    ⟨Text.normalizeSpaces (headingText (Node.eventsAll children)).1, span.start, [], []⟩

/-- The text of a heading ends where the heading does. -/
theorem headingText_append (level : Nat) (span : Span) {events : List Event}
    (inside : ∀ event ∈ events, ∀ tag, event.kind = .stop tag → tag.isHeading = false)
    (rest : List Event) : headingText (events ++ ⟨.stop (.heading level), span⟩ :: rest) =
      ((headingText events).1, rest) := by
  induction events with
  | nil => simp [headingText]
  | cons event events induction =>
      obtain ⟨here, behind⟩ := List.forall_mem_cons.mp inside
      have tail := induction behind
      rw [List.cons_append, headingText, headingText]
      split
      · rename_i stops
        cases here _ stops
      · rw [tail]
      · rw [tail]
      · rw [tail]
      · rw [tail]
      · exact tail

/-- Every item of a list is gathered alone. -/
theorem readItems_nodes (source : String) {items : List Node} (span : Span)
    (regular : Node.areRegular items = true)
    (listed : items.all Node.isItem = true) (rest : List Event) :
    readItems source (Node.eventsAll items ++ ⟨.stop (.list none), span⟩ :: rest) =
      (items.map (itemOf source), rest) := by
  induction items with
  | nil => simp [readItems]
  | cons item items induction =>
      rw [Node.areRegular_cons_iff] at regular
      rw [List.all_cons, Bool.and_eq_true] at listed
      obtain ⟨item_span, children, rfl⟩ := Node.isItem_iff.mp listed.1
      have tail := induction regular.2 listed.2
      have gathered := gatherBlock_node source regular.1
        (Node.eventsAll items ++ ⟨.stop (.list none), span⟩ :: rest)
      rw [Node.eventsAll_cons, List.append_assoc]
      rw [Node.events, List.cons_append] at gathered ⊢
      rw [readItems]
      simp only [gathered, tail]
      rfl

/-! ## Reading sections -/

section Events

variable {current : Option OpenSection} {event : Event} {rest : List Event}

theorem readSections_of_heading (heading : startsHeading event = true) :
    readSections source current (event :: rest) = closeSection current event.span.start ++
      readSections source
        (some ⟨Text.normalizeSpaces (headingText rest).1, event.span.start, [], []⟩)
        (headingText rest).2 := by
  rw [readSections, if_pos heading]

theorem startsHeading_of_bullets (bullets : startsBullets event = true) :
    startsHeading event = false := by
  obtain ⟨kind, span⟩ := event
  cases kind with
  | start tag => cases tag <;> first | rfl | cases bullets
  | _ => rfl

theorem takesOptions_of_name {opened : OpenSection} (options : isSettingsName opened.name = false) :
    takesOptions (some opened) = true := by
  simp [takesOptions, options]

theorem readSections_of_bullets (bullets : startsBullets event = true)
    (takes : takesOptions current = true) :
    readSections source current (event :: rest) = readSections source
      (current.map fun opened => opened.addItems (readItems source rest).1)
      (readItems source rest).2 := by
  rw [readSections, if_neg (by simp [startsHeading_of_bullets bullets]),
    if_pos (by simp [bullets, takes])]

theorem readSections_of_block (no_heading : startsHeading event = false)
    (no_bullets : (startsBullets event && takesOptions current) = false) :
    readSections source current (event :: rest) = readSections source
      (current.map fun opened => opened.add (gatherBlock source (event :: rest)).1)
      (gatherBlock source (event :: rest)).2 := by
  rw [readSections, if_neg (by simp [no_heading]), if_neg (by simp [no_bullets])]

end Events

/-- A heading ends the section at hand and opens one. -/
theorem readSections_heading {heading : Node} (regular : heading.isRegular = true)
    (opens : heading.isHeading = true) (current : Option OpenSection) (rest : List Event) :
    readSections source current (heading.events ++ rest) =
      closeSection current heading.span.start ++
        readSections source (some (openingOf heading)) rest := by
  obtain ⟨level, span, children, rfl⟩ := Node.isHeading_iff.mp opens
  rw [Node.isRegular_element_iff] at regular
  have name := headingText_append level span (Node.stop_not_mem regular.2 regular.1) rest
  rw [Node.events, List.cons_append, List.append_assoc, List.singleton_append,
    readSections_of_heading rfl, name]
  rfl

/-- A node that starts neither a heading nor a list of options is gathered as a block. -/
theorem readSections_block {node : Node} {event : Event} {tail : List Event}
    {current : Option OpenSection} (regular : node.isRegular = true)
    (starts : node.events = event :: tail) (no_heading : startsHeading event = false)
    (no_options : (startsBullets event && takesOptions current) = false) (rest : List Event) :
    readSections source current (node.events ++ rest) =
      readSections source (current.map fun opened => opened.add (gatherNode source node)) rest := by
  have gathered := gatherBlock_node source regular rest
  rw [starts, List.cons_append] at gathered ⊢
  rw [readSections_of_block no_heading no_options, gathered]

/-- The items of a bullet list become options, except among settings. -/
theorem readSections_list {span : Span} {items : List Node} {opened : OpenSection}
    (regular : (Node.element (.list none) span items).isRegular = true)
    (options : isSettingsName opened.name = false) (rest : List Event) :
    readSections source (some opened) ((Node.element (.list none) span items).events ++ rest) =
      readSections source (some (opened.addItems (items.map (itemOf source)))) rest := by
  rw [Node.isRegular_element_iff] at regular
  have read := readItems_nodes source span regular.2 regular.1 rest
  rw [Node.events, List.cons_append, List.append_assoc, List.singleton_append,
    readSections_of_bullets rfl (takesOptions_of_name options), read]
  rfl

/-- Any other node than a heading is taken in, if a section is at hand. -/
theorem readSections_other {node : Node} (regular : node.isRegular = true)
    (other : node.isHeading = false) (current : Option OpenSection) (rest : List Event) :
    readSections source current (node.events ++ rest) =
      readSections source (current.map fun opened => opened.take source node) rest := by
  cases node with
  | leaf kind span =>
      apply readSections_block regular rfl
      · cases kind <;> first | rfl | cases regular
      · cases kind <;> first | rfl | cases regular
  | element tag span children =>
      cases tag with
      | heading level => cases other
      | list first =>
          cases first with
          | some number => exact readSections_block regular rfl rfl rfl rest
          | none =>
              cases current with
              | none => exact readSections_block regular rfl rfl rfl rest
              | some opened =>
                  rw [Option.map_some, OpenSection.take]
                  cases settings : isSettingsName opened.name with
                  | false => exact readSections_list regular settings rest
                  | true =>
                      apply readSections_block regular rfl rfl
                      rw [takesOptions, Option.any_some, settings]
                      rfl
      | _ => exact readSections_block regular rfl rfl rfl rest

/-! ## Reading chapters -/

section Chapters

variable {nodes : List Node}

/-- Take in the nodes up to the next heading. -/
def OpenSection.takeAll (source : String) (opened : OpenSection) (nodes : List Node) :
    OpenSection :=
  (beforeHeading nodes).foldl (take source) opened

/-- The section at hand takes in what stands in front of the first heading and ends there; the
others follow from the heading on. -/
theorem readSections_nodes (regular : Node.areRegular nodes = true) (opened : OpenSection) :
    readSections source (some opened) (Node.eventsAll nodes) =
      (opened.takeAll source nodes).close (nextHeading source.utf8ByteSize nodes) ::
        sections source (Node.eventsAll nodes) := by
  induction nodes generalizing opened with
  | nil =>
      simp [readSections, sections, closeSection, OpenSection.takeAll, beforeHeading, nextHeading]
  | cons node rest induction =>
      rw [Node.areRegular_cons_iff] at regular
      rw [Node.eventsAll_cons, sections]
      cases heads : node.isHeading with
      | true =>
          rw [readSections_heading regular.1 heads, readSections_heading regular.1 heads]
          simp [closeSection, OpenSection.takeAll, beforeHeading, nextHeading, heads]
      | false =>
          rw [readSections_other regular.1 heads, readSections_other regular.1 heads,
            Option.map_some, Option.map_none, induction regular.2]
          simp [sections, OpenSection.takeAll, beforeHeading, nextHeading, heads]

/-- A heading opens a section, which takes in what stands in front of the next heading. -/
theorem sections_heading {heading : Node} (regular : Node.areRegular (heading :: nodes) = true)
    (heads : heading.isHeading = true) : sections source (Node.eventsAll (heading :: nodes)) =
      ((openingOf heading).takeAll source nodes).close (nextHeading source.utf8ByteSize nodes) ::
        sections source (Node.eventsAll nodes) := by
  rw [Node.areRegular_cons_iff] at regular
  rw [sections, Node.eventsAll_cons, readSections_heading regular.1 heads,
    readSections_nodes regular.2]
  rfl

/-- A node in front of the first heading is in no section. -/
theorem sections_other {node : Node} (regular : Node.areRegular (node :: nodes) = true)
    (other : node.isHeading = false) :
    sections source (Node.eventsAll (node :: nodes)) = sections source (Node.eventsAll nodes) := by
  rw [Node.areRegular_cons_iff] at regular
  rw [sections, Node.eventsAll_cons, readSections_other regular.1 other]
  rfl

theorem beforeHeading_idem (nodes : List Node) :
    beforeHeading (beforeHeading nodes) = beforeHeading nodes :=
  List.takeWhile_idem

theorem OpenSection.add_start (opened : OpenSection) (gathered : Gathered) :
    (opened.add gathered).start = opened.start := by
  rw [add]
  split <;> rfl

theorem OpenSection.take_start (opened : OpenSection) (node : Node) :
    (opened.take source node).start = opened.start := by
  unfold take
  split
  · split
    · exact add_start _ _
    · rfl
  · exact add_start _ _

theorem OpenSection.takeAll_start (opened : OpenSection) (nodes : List Node) :
    (opened.takeAll source nodes).start = opened.start := by
  rw [takeAll]
  induction beforeHeading nodes generalizing opened with
  | nil => rfl
  | cons node rest induction => rw [List.foldl_cons, induction, take_start]

theorem OpenSection.takeAll_beforeHeading (opened : OpenSection) (nodes : List Node) :
    opened.takeAll source (beforeHeading nodes) = opened.takeAll source nodes := by
  rw [takeAll, beforeHeading_idem, takeAll]

theorem openingOf_start (node : Node) : (openingOf node).start = node.span.start := by
  cases node <;> rfl

theorem not_heading_of_mem {node : Node} (member : node ∈ beforeHeading nodes) :
    node.isHeading = false := by
  simpa using List.mem_takeWhile_imp member

theorem nextHeading_beforeHeading (size : Nat) (nodes : List Node) :
    nextHeading size (beforeHeading nodes) = size := by
  have absent : (beforeHeading nodes).find? Node.isHeading = none := by
    rw [List.find?_eq_none]
    intro node member heads
    rw [not_heading_of_mem member] at heads
    cases heads
  rw [nextHeading, absent]

/-- What stands in front of the first heading contributes nothing. -/
theorem sections_dropWhile (regular : Node.areRegular nodes = true) :
    sections source (Node.eventsAll (nodes.dropWhile fun node => !node.isHeading)) =
      sections source (Node.eventsAll nodes) := by
  induction nodes with
  | nil => rfl
  | cons node rest induction =>
      rw [List.dropWhile_cons]
      cases heads : node.isHeading with
      | true => rfl
      | false =>
          rw [sections_other regular heads]
          exact induction (Node.areRegular_cons_iff.mp regular).2

/-- Without a heading there is no section. -/
theorem sections_plain (source : String) (regular : Node.areRegular nodes = true)
    (plain : ∀ node ∈ nodes, node.isHeading = false) :
    sections source (Node.eventsAll nodes) = [] := by
  have skipped : nodes.dropWhile (fun node => !node.isHeading) = [] := by
    simpa using plain
  rw [← sections_dropWhile regular, skipped]
  simp [sections, readSections, closeSection]

/-- Every section is what the chapter at its place is read as. -/
theorem sections_read (regular : Node.areRegular nodes = true) :
    List.Forall₂ (Chapter.Reads source) (chapters source.utf8ByteSize nodes)
      (sections source (Node.eventsAll nodes)) := by
  induction nodes with
  | nil =>
      rw [sections_plain source regular nofun]
      exact .nil
  | cons node rest induction =>
      have behind := (Node.areRegular_cons_iff.mp regular).2
      rw [chapters]
      cases heads : node.isHeading with
      | false =>
          rw [sections_other regular heads]
          exact induction behind
      | true =>
          have alone : Node.areRegular (node :: beforeHeading rest) = true := by
            rw [Node.areRegular_iff] at regular ⊢
            intro other member
            rcases List.mem_cons.mp member with rfl | among
            · exact regular other List.mem_cons_self
            · exact regular other (List.mem_cons_of_mem _ (List.takeWhile_subset _ among))
          have nothing : sections source (Node.eventsAll (beforeHeading rest)) = [] := by
            apply sections_plain source (Node.areRegular_cons_iff.mp alone).2
            intro other member
            exact not_heading_of_mem member
          have start : ((openingOf node).takeAll source rest).start = node.span.start := by
            rw [OpenSection.takeAll_start, openingOf_start]
          rw [if_pos rfl, sections_heading regular heads]
          refine List.Forall₂.cons ⟨?_, ?_⟩ (induction behind)
          · rw [OpenSection.close, start]
          · rw [sections_heading alone heads, nothing, nextHeading_beforeHeading,
              OpenSection.takeAll_beforeHeading, OpenSection.close, start]
            rfl

end Chapters

end Gamebook.Story
