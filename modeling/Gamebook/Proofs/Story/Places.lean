import Gamebook.Proofs.Story.Chapters

/-!
# Places in a story

What is read of a well-nested text stands where it stands in the text: the sections lie one behind
the other, and the contents, options, preconditions and effects of a section in the section.
-/

namespace Gamebook.Story

open Markdown (Node)
open Text (Span)

variable {source : String}

/-! ## Where sections stand -/

/-- What is in an open section stands in a part of the source. -/
structure OpenSection.StandsIn (opened : OpenSection) (source : String) (part : Span) : Prop where
  body : ∀ content ∈ opened.body, content.StandsIn source part
  items : ∀ item ∈ opened.items, item.span.LiesIn part ∧ item.gathered.StandsIn source part

/-- What is in a section stands in the bytes of the section. -/
structure Section.Stands (part : Section) (source : String) : Prop where
  body : ∀ content ∈ part.body, content.StandsIn source part.span
  items : ∀ item ∈ part.items, item.span.LiesIn part.span ∧
    item.gathered.StandsIn source part.span

section Stands

variable {opened : OpenSection} {node : Node} {nodes : List Node} {low cursor stop high : Nat}

theorem OpenSection.StandsIn.mono (stands : opened.StandsIn source ⟨low, cursor⟩)
    (behind : cursor ≤ stop) : opened.StandsIn source ⟨low, stop⟩ where
  body content member := (stands.body content member).mono (Nat.le_refl low) behind
  items item member :=
    ⟨(stands.items item member).1.mono (Nat.le_refl low) behind,
      (stands.items item member).2.mono behind⟩

theorem OpenSection.StandsIn.add {part : Span} {gathered : Gathered}
    (stands : opened.StandsIn source part) (next : gathered.StandsIn source part) :
    (opened.add gathered).StandsIn source part := by
  rw [OpenSection.add]
  split
  · refine ⟨List.forall_mem_append.mpr ⟨stands.body, ?_⟩, stands.items⟩
    intro content member
    exact next content (List.mem_reverse.mp member)
  · rename_i item rest contents
    obtain ⟨⟨span, earlier⟩, others⟩ := List.forall_mem_cons.mp (contents ▸ stands.items)
    refine ⟨stands.body, List.forall_mem_cons.mpr ⟨⟨span, ?_⟩, others⟩⟩
    exact List.forall_mem_append.mpr ⟨next, earlier⟩

/-- What is taken in with a node stands in front of the end of the node. -/
theorem OpenSection.StandsIn.take (stands : opened.StandsIn source ⟨low, cursor⟩)
    (regular : node.isRegular = true) (fit : node.fits cursor high = true) (ahead : low ≤ cursor) :
    (opened.take source node).StandsIn source ⟨low, node.span.stop⟩ := by
  obtain ⟨first, ordered, -⟩ := Node.span_liesIn fit
  have kept := stands.mono (Nat.le_trans first ordered)
  have here (inner : Node) (regular : inner.isRegular = true)
      (fit : inner.fits node.span.start node.span.stop = true) :
      (gatherNode source inner).StandsIn source ⟨low, node.span.stop⟩ := by
    intro content member
    obtain ⟨starts, -, stops⟩ := Node.span_liesIn fit
    exact (gatherNode_stands regular fit content member).mono
      (Nat.le_trans ahead (Nat.le_trans first starts)) stops
  have gathered := kept.add (here node regular (Node.fits_self fit))
  unfold OpenSection.take
  split
  · rename_i span items
    split
    · exact gathered
    · rw [Node.isRegular_element_iff, Node.areRegular_iff] at regular
      rw [Node.fits_element_iff] at fit
      refine ⟨kept.body, List.forall_mem_append.mpr ⟨?_, kept.items⟩⟩
      intro item member
      obtain ⟨inner, among, rfl⟩ := List.mem_map.mp (List.mem_reverse.mp member)
      have inside := Node.fits_of_mem fit.2 among
      refine ⟨?_, here inner (regular.2 inner among) inside⟩
      exact (Node.span_liesIn inside).mono (Nat.le_trans ahead first) (Nat.le_refl _)
  · exact gathered

theorem nextHeading_liesIn (fit : Node.allFit low high nodes = true) :
    low ≤ nextHeading high nodes ∧ nextHeading high nodes ≤ high := by
  induction nodes generalizing low with
  | nil => exact ⟨of_decide_eq_true fit, Nat.le_refl high⟩
  | cons node rest induction =>
      rw [Node.allFit_cons_iff] at fit
      obtain ⟨before, ordered, behind⟩ := Node.span_liesIn fit.1
      rw [nextHeading, List.find?_cons]
      cases node.isHeading with
      | true => exact ⟨before, Nat.le_trans ordered behind⟩
      | false =>
          obtain ⟨first, last⟩ := induction fit.2
          exact ⟨Nat.le_trans before (Nat.le_trans ordered first), last⟩

/-- What a section takes in stands in front of the next heading. -/
theorem OpenSection.StandsIn.takeAll (stands : opened.StandsIn source ⟨low, cursor⟩)
    (regular : Node.areRegular nodes = true) (fit : Node.allFit cursor high nodes = true)
    (ahead : low ≤ cursor) :
    (opened.takeAll source nodes).StandsIn source ⟨low, nextHeading high nodes⟩ := by
  induction nodes generalizing opened cursor with
  | nil => exact stands.mono (of_decide_eq_true fit)
  | cons node rest induction =>
      obtain ⟨here, behind⟩ := Node.areRegular_cons_iff.mp regular
      rw [Node.allFit_cons_iff] at fit
      obtain ⟨before, ordered, -⟩ := Node.span_liesIn fit.1
      rw [OpenSection.takeAll, beforeHeading, List.takeWhile_cons, nextHeading, List.find?_cons]
      cases node.isHeading with
      | true => exact stands.mono before
      | false =>
          apply induction (stands.take here fit.1 ahead) behind fit.2
          exact Nat.le_trans ahead (Nat.le_trans before ordered)

theorem OpenSection.StandsIn.close (stands : opened.StandsIn source ⟨opened.start, stop⟩) :
    (opened.close stop).Stands source where
  body := stands.body
  items item member := stands.items item (List.mem_reverse.mp member)

/-- Sections lie one behind the other, the first one not in front of the first heading, and what is
in them stands in them. -/
theorem sections_stand (regular : Node.areRegular nodes = true)
    (fit : Node.allFit low source.utf8ByteSize nodes = true) :
    (sections source (Node.eventsAll nodes)).Pairwise
        (fun first second => first.span.stop ≤ second.span.start) ∧
      ∀ part ∈ sections source (Node.eventsAll nodes),
        part.span.LiesIn ⟨nextHeading source.utf8ByteSize nodes, source.utf8ByteSize⟩ ∧
          part.Stands source := by
  induction nodes generalizing low with
  | nil =>
      rw [sections_plain source regular (List.forall_mem_nil _)]
      exact ⟨.nil, List.forall_mem_nil _⟩
  | cons node rest induction =>
      have behind := (Node.areRegular_cons_iff.mp regular).2
      rw [Node.allFit_cons_iff] at fit
      obtain ⟨ordered, others⟩ := induction behind fit.2
      rw [nextHeading, List.find?_cons]
      cases heads : node.isHeading with
      | false =>
          rw [sections_other regular heads]
          exact ⟨ordered, others⟩
      | true =>
          let opened := (openingOf node).takeAll source rest
          have start : opened.start = node.span.start := by
            rw [OpenSection.takeAll_start, openingOf_start]
          have empty : (openingOf node).StandsIn source ⟨node.span.start, node.span.stop⟩ := by
            cases node <;> exact ⟨List.forall_mem_nil _, List.forall_mem_nil _⟩
          have own := (Node.span_liesIn fit.1).2.1
          obtain ⟨after, inside⟩ := nextHeading_liesIn fit.2
          have stands : opened.StandsIn source
              ⟨opened.start, nextHeading source.utf8ByteSize rest⟩ := by
            rw [start]
            exact empty.takeAll behind fit.2 own
          have first : (opened.close (nextHeading source.utf8ByteSize rest)).span.LiesIn
              ⟨node.span.start, source.utf8ByteSize⟩ := by
            rw [OpenSection.close, start]
            exact ⟨Nat.le_refl _, Nat.le_trans own after, inside⟩
          rw [sections_heading regular heads]
          refine ⟨List.pairwise_cons.mpr ⟨fun part member => ?_, ordered⟩,
            List.forall_mem_cons.mpr ⟨⟨first, stands.close⟩, fun part member => ?_⟩⟩
          · exact (others part member).1.1
          · obtain ⟨lies, part_stands⟩ := others part member
            exact ⟨lies.mono (Nat.le_trans own after) (Nat.le_refl _), part_stands⟩

end Stands

/-! ## States -/

/-- What is in a state stands in the bytes of the state. -/
structure State.Stands (state : State) (source : String) : Prop where
  body : ∀ content ∈ state.body, content.StandsIn source state.span
  choices : ∀ choice ∈ state.choices, choice.span.LiesIn state.span
  preconditions : ∀ choice ∈ state.choices, ∀ content ∈ choice.preconditions,
    content.StandsIn source state.span
  effects : ∀ choice ∈ state.choices, ∀ content ∈ choice.effects,
    content.StandsIn source state.span

theorem Item.mem_of_precondition {item : Item} {content : Content}
    (member : content ∈ item.choice.preconditions) : content ∈ item.gathered.contents := by
  have among := List.mem_of_mem_filter member
  exact List.mem_reverse.mp (List.takeWhile_subset _ among)

theorem Item.mem_of_effect {item : Item} {content : Content}
    (member : content ∈ item.choice.effects) : content ∈ item.gathered.contents := by
  have among := List.mem_of_mem_filter member
  exact List.mem_reverse.mp (List.dropWhile_subset _ (List.mem_of_mem_drop among))

theorem Section.Stands.state {part : Section} (stands : part.Stands source) :
    part.state.Stands source where
  body := stands.body
  choices := by
    intro choice member
    obtain ⟨item, among, rfl⟩ := List.mem_map.mp member
    exact (stands.items item among).1
  preconditions := by
    intro choice member content inside
    obtain ⟨item, among, rfl⟩ := List.mem_map.mp member
    exact (stands.items item among).2 content (Item.mem_of_precondition inside)
  effects := by
    intro choice member content inside
    obtain ⟨item, among, rfl⟩ := List.mem_map.mp member
    exact (stands.items item among).2 content (Item.mem_of_effect inside)

/-! ## Documents -/

/-- The bytes of a state, of what is in its body, and of its options and what is in them. -/
def State.spans (state : State) : List Span :=
  state.span :: (state.body.map Content.span ++ state.choices.flatMap fun choice =>
    choice.span :: (choice.preconditions ++ choice.effects).map Content.span)

/-- The bytes of all that a document tells. -/
def Document.spans (document : Document) : List Span :=
  document.states.flatMap State.spans

/-- The bytes of a source. -/
def whole (source : String) : Span :=
  ⟨0, source.utf8ByteSize⟩

/-- What stands in a state of a source stands in the source. -/
theorem State.Stands.liesIn {state : State} (stands : state.Stands source)
    (inside : state.span.LiesIn (whole source)) :
    ∀ span ∈ state.spans, span.LiesIn (whole source) := by
  have widen {span : Span} (lies : span.LiesIn state.span) : span.LiesIn (whole source) :=
    lies.mono inside.1 inside.2.2
  refine List.forall_mem_cons.mpr ⟨inside, fun span member => ?_⟩
  rcases List.mem_append.mp member with body | options
  · obtain ⟨content, among, rfl⟩ := List.mem_map.mp body
    exact widen (stands.body content among).span
  · obtain ⟨choice, among, told⟩ := List.mem_flatMap.mp options
    rcases List.mem_cons.mp told with rfl | told
    · exact widen (stands.choices choice among)
    · obtain ⟨content, held, rfl⟩ := List.mem_map.mp told
      rcases List.mem_append.mp held with guard | effect
      · exact widen (stands.preconditions choice among content guard).span
      · exact widen (stands.effects choice among content effect).span

/-- A document that is read has the states of the sections that hold no settings. -/
theorem Document.states_ofSections {parts : List Section} {document : Document}
    (read : Document.ofSections parts = .ok document) :
    document.states = (parts.filter fun part => !part.isSettings).map Section.state := by
  simp only [Document.ofSections] at read
  split at read
  · cases read
    rfl
  · cases read

theorem mem_partitionOutcomes_iff {ε α : Type} {outcomes : List (Except ε α)} {error : ε} :
    error ∈ (partitionOutcomes outcomes).1 ↔ .error error ∈ outcomes := by
  induction outcomes with
  | nil => simp [partitionOutcomes]
  | cons outcome rest induction =>
      cases outcome with
      | error other => simp [partitionOutcomes, induction]
      | ok value => simp [partitionOutcomes, induction]

theorem span_of_readEntry {entry : String × Span} {error : EntryError}
    (failed : readEntry entry = .error error) : error.span = entry.2 := by
  rw [readEntry] at failed
  split at failed
  · cases failed
  · cases failed
    rfl
  · cases failed
    rfl

theorem span_of_entry {content : Content} {entry : String × Span}
    (found : entry? content = some entry) : entry.2 = content.span := by
  cases content with
  | text run => cases found
  | code code span =>
      cases found
      rfl
  | fence language code span =>
      change (if (Content.fence language code span).isComment then none else some (code, span)) =
        some entry at found
      split at found
      · cases found
      · cases found
        rfl

/-- An entry of the settings that cannot be read stands in a section. -/
theorem Document.span_of_entryError {parts : List Section} {errors : List EntryError}
    (failed : Document.ofSections parts = .error errors) : ∀ error ∈ errors,
      ∃ part ∈ parts, ∃ content ∈ part.body, content.span = error.span := by
  simp only [Document.ofSections] at failed
  split at failed
  · cases failed
  · cases failed
    intro error member
    obtain ⟨entry, among, unread⟩ := List.mem_map.mp (mem_partitionOutcomes_iff.mp member)
    obtain ⟨part, settings, found⟩ := List.mem_flatMap.mp among
    obtain ⟨content, inside, found⟩ := List.mem_filterMap.mp found
    refine ⟨part, List.mem_of_mem_filter settings, content, inside, ?_⟩
    rw [span_of_readEntry unread, span_of_entry found]

section Read

variable {nodes : List Node} {document : Document}

/-- The states of a document lie one behind the other in the source, and what is in them in them. -/
theorem Document.states_stand (regular : Node.areRegular nodes = true)
    (fit : Node.allFit 0 source.utf8ByteSize nodes = true)
    (read : Document.ofEvents source (Node.eventsAll nodes) = .ok document) :
    document.states.Pairwise (fun first second => first.span.stop ≤ second.span.start) ∧
      ∀ state ∈ document.states, state.span.LiesIn (whole source) ∧ state.Stands source := by
  obtain ⟨ordered, stand⟩ := sections_stand regular fit
  rw [Document.states_ofSections read]
  constructor
  · apply List.Pairwise.map Section.state (fun first second before => before)
    exact ordered.filter _
  · intro state member
    obtain ⟨part, among, rfl⟩ := List.mem_map.mp member
    obtain ⟨lies, stands⟩ := stand part (List.mem_of_mem_filter among)
    exact ⟨lies.mono (Nat.zero_le _) (Nat.le_refl _), stands.state⟩

theorem Document.spans_lie (regular : Node.areRegular nodes = true)
    (fit : Node.allFit 0 source.utf8ByteSize nodes = true)
    (read : Document.ofEvents source (Node.eventsAll nodes) = .ok document) :
    ∀ span ∈ document.spans, span.LiesIn (whole source) := by
  intro span member
  obtain ⟨state, among, told⟩ := List.mem_flatMap.mp member
  obtain ⟨inside, stands⟩ := (Document.states_stand regular fit read).2 state among
  exact stands.liesIn inside span told

theorem Document.entryErrors_lie {errors : List EntryError}
    (regular : Node.areRegular nodes = true)
    (fit : Node.allFit 0 source.utf8ByteSize nodes = true)
    (failed : Document.ofEvents source (Node.eventsAll nodes) = .error errors) :
    ∀ error ∈ errors, error.span.LiesIn (whole source) := by
  intro error member
  obtain ⟨part, among, content, inside, same⟩ := Document.span_of_entryError failed error member
  obtain ⟨lies, stands⟩ := (sections_stand regular fit).2 part among
  rw [← same]
  exact (stands.body content inside).span.mono (Nat.le_trans (Nat.zero_le _) lies.1) lies.2.2

end Read

end Gamebook.Story
