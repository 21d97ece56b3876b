import Gamebook.Proofs.Story.Trees
import Gamebook.Story.Gathering

/-!
# What is gathered from a node

Gathering stops just behind the node at the front of the events, whatever follows it.  What has been
gathered then stands on bytes of the node, in the order of the text, and is as it is in the source.
-/

namespace Gamebook.Story

open Markdown (Event EventKind Node Tag)
open Text (Span)

variable {source : String}

/-! ## Contents and their places -/

/-- A content stands in a part of the source: its bytes are among those of the part, and a run of
text keeps what the source has there. -/
structure Content.StandsIn (content : Content) (source : String) (part : Span) : Prop where
  span : content.span.LiesIn part
  raw : ∀ run, content = .text run → run.raw = run.span.slice source

/-- All that has been gathered stands in a part of the source. -/
def Gathered.StandsIn (gathered : Gathered) (source : String) (part : Span) : Prop :=
  ∀ content ∈ gathered.contents, content.StandsIn source part

theorem Content.StandsIn.mono {content : Content} {low start stop high : Nat}
    (stands : content.StandsIn source ⟨start, stop⟩) (before : low ≤ start) (behind : stop ≤ high) :
    content.StandsIn source ⟨low, high⟩ :=
  ⟨stands.span.mono before behind, stands.raw⟩

namespace Gathered.StandsIn

variable {gathered : Gathered} {low cursor stop : Nat}

theorem mono (stands : gathered.StandsIn source ⟨low, cursor⟩) (behind : cursor ≤ stop) :
    gathered.StandsIn source ⟨low, stop⟩ :=
  fun content member => (stands content member).mono (Nat.le_refl low) behind

theorem push (stands : gathered.StandsIn source ⟨low, cursor⟩) {content : Content}
    (next : content.StandsIn source ⟨cursor, stop⟩) (ahead : low ≤ cursor) :
    (gathered.push content).StandsIn source ⟨low, stop⟩ := by
  intro other member
  rcases List.mem_cons.mp member with rfl | earlier
  · exact next.mono ahead (Nat.le_refl stop)
  · exact stands.mono next.span.start_le_stop other earlier

/-- Text that is added stands alone, or makes the last run longer. -/
theorem pushText (stands : gathered.StandsIn source ⟨low, cursor⟩) {text : String} {style : Style}
    {span : Span} (next : span.LiesIn ⟨cursor, stop⟩) (ahead : low ≤ cursor) :
    (gathered.pushText source text style span).StandsIn source ⟨low, stop⟩ := by
  have behind := next.start_le_stop
  have fresh (run : TextRun) (same : run.span = span) (raw : run.raw = run.span.slice source) :
      ∀ content ∈ Content.text run :: gathered.contents, content.StandsIn source ⟨low, stop⟩ := by
    refine List.forall_mem_cons.mpr ⟨⟨?_, ?_⟩, stands.mono behind⟩
    · rw [Content.span, same]
      exact next.mono ahead (Nat.le_refl stop)
    · rintro _ ⟨⟩
      exact raw
  rw [Gathered.pushText]
  split
  · rename_i run rest contents
    split
    · have earlier : ∀ content ∈ Content.text run :: rest,
          content.StandsIn source ⟨low, cursor⟩ := contents ▸ stands
      obtain ⟨⟨started, grown, ended⟩, -⟩ := earlier _ List.mem_cons_self
      obtain ⟨first, ordered, last⟩ := next
      refine List.forall_mem_cons.mpr ⟨⟨⟨started, ?_, last⟩, ?_⟩, fun content member => ?_⟩
      · calc
          run.span.start ≤ cursor := Nat.le_trans grown ended
          _ ≤ span.stop := Nat.le_trans first ordered
      · rintro _ ⟨⟩
        rfl
      · exact (earlier content (List.mem_cons_of_mem _ member)).mono (Nat.le_refl low) behind
    · exact fresh _ rfl rfl
  · exact fresh _ rfl rfl

theorem endParagraph {part : Span} (stands : gathered.StandsIn source part) (count : Nat) :
    (gathered.endParagraph count).StandsIn source part := by
  rw [Gathered.endParagraph]
  split
  · exact stands
  · split
    · rename_i run rest contents
      have earlier : ∀ content ∈ Content.text run :: rest, content.StandsIn source part :=
        contents ▸ stands
      obtain ⟨⟨span, raw⟩, others⟩ := List.forall_mem_cons.mp earlier
      refine List.forall_mem_cons.mpr ⟨⟨span, ?_⟩, others⟩
      rintro _ ⟨⟩
      exact raw run rfl
    · exact stands

end Gathered.StandsIn

/-! ## Events of a block -/

namespace Gathering

variable {state : Gathering} {events : List Event}

/-- The state behind some events. -/
def after (source : String) (state : Gathering) (events : List Event) : Gathering :=
  events.foldl (step source) state

/-- The block is not complete after any of some events. -/
def StaysOpen (source : String) : Gathering → List Event → Prop
  | _, [] => True
  | state, event :: rest =>
    (state.step source event).isComplete = false ∧ StaysOpen source (state.step source event) rest

@[simp]
theorem after_nil : state.after source [] = state := rfl

@[simp]
theorem after_cons (event : Event) :
    state.after source (event :: events) = (state.step source event).after source events := rfl

@[simp]
theorem after_append (later : List Event) : state.after source (events ++ later) =
    (state.after source events).after source later :=
  List.foldl_append

theorem staysOpen_append_iff {later : List Event} : StaysOpen source state (events ++ later) ↔
    StaysOpen source state events ∧ StaysOpen source (state.after source events) later := by
  induction events generalizing state with
  | nil => simp [StaysOpen]
  | cons event rest induction => simp [StaysOpen, induction, and_assoc]

/-- Gathering goes on behind events after which the block is not complete. -/
theorem run_append (opens : StaysOpen source state events) (later : List Event) :
    state.run source (events ++ later) = (state.after source events).run source later := by
  induction events generalizing state with
  | nil => rfl
  | cons event rest induction =>
      rw [List.cons_append, run, opens.1]
      exact induction opens.2

/-! ### Code blocks -/

/-- The text that an event adds to a code block. -/
def text? (event : Event) : Option String :=
  match event.kind with
  | .text text => some text
  | _ => none

/-- The text of the events inside a code block. -/
def textOf (events : List Event) : String :=
  String.join (events.filterMap text?)

theorem textOf_append (events later : List Event) :
    textOf (events ++ later) = textOf events ++ textOf later := by
  rw [textOf, List.filterMap_append, String.join_append]
  rfl

/-- Inside a code block only its text is gathered. -/
theorem after_inside_fence (source : String) {fence : OpenFence}
    (opened : state.fence = some fence)
    (inside : ∀ event ∈ events, ∀ tag, event.kind = .stop tag → tag.isCodeBlock = false) :
    StaysOpen source state events ∧ state.after source events =
      { state with fence := some { fence with text := fence.text ++ textOf events } } := by
  induction events generalizing state fence with
  | nil =>
      refine ⟨trivial, ?_⟩
      simp [textOf, ← opened]
  | cons event rest induction =>
      obtain ⟨here, behind⟩ := List.forall_mem_cons.mp inside
      have stepped : state.step source event =
          { state with fence := some { fence with text := fence.text ++ textOf [event] } } := by
        rw [step, opened]
        dsimp only
        split
        · rename_i info stops
          cases here _ stops
        · rename_i text is_text
          simp [textOf, text?, is_text]
        · rename_i other
          have silent : text? event = none := by
            rw [text?]
            split
            · rename_i text is_text
              exact absurd is_text (other text)
            · rfl
          simp [textOf, silent, ← opened]
      have still_opened : (state.step source event).fence =
          some { fence with text := fence.text ++ textOf [event] } := by
        rw [stepped]
      obtain ⟨opens, reached⟩ := induction still_opened behind
      refine ⟨⟨?_, opens⟩, ?_⟩
      · simp [stepped, isComplete]
      · have grown : textOf (event :: rest) = textOf [event] ++ textOf rest :=
          textOf_append [event] rest
        rw [after_cons, reached, stepped, grown, ← String.append_assoc]

/-! ### Leaves and elements -/

/-- A leaf opens and closes nothing. -/
theorem step_leaf (source : String) {kind : EventKind} (span : Span) (closed : state.fence = none)
    (leaf : kind.isLeaf = true) :
    (state.step source ⟨kind, span⟩).depth = state.depth ∧
      (state.step source ⟨kind, span⟩).fence = none := by
  rw [step, closed]
  cases kind with
  | start | stop => cases leaf
  | _ => exact ⟨rfl, rfl⟩

/-- The start of any other element than a code block opens the element. -/
theorem step_start (source : String) {tag : Tag} (span : Span) (closed : state.fence = none)
    (plain : tag.isCodeBlock = false) :
    (state.step source ⟨.start tag, span⟩).depth = state.depth + 1 ∧
      (state.step source ⟨.start tag, span⟩).fence = none ∧
      (state.step source ⟨.start tag, span⟩).gathered.contents = state.gathered.contents := by
  rw [step, closed]
  cases tag <;> simp_all [enter, Gathered.endRun, Markdown.Tag.isCodeBlock]

/-- The end of an element closes it. -/
theorem step_stop (source : String) (tag : Tag) (span : Span) (closed : state.fence = none) :
    (state.step source ⟨.stop tag, span⟩).depth = state.depth - 1 ∧
      (state.step source ⟨.stop tag, span⟩).fence = none := by
  rw [step, closed]
  dsimp only [leave]
  split
  case h_3 | h_4 => split <;> exact ⟨rfl, closed⟩
  all_goals exact ⟨rfl, closed⟩

/-- The language of a code block, from its info text. -/
def languageOf (info : Option String) : Option String :=
  info.bind fun text => (Text.words text).head?

/-- A code block becomes one content. -/
theorem after_fence (source : String) (info : Option String) (span : Span)
    (closed : state.fence = none)
    (inside : ∀ event ∈ events, ∀ tag, event.kind = .stop tag → tag.isCodeBlock = false) :
    StaysOpen source state (⟨.start (.codeBlock info), span⟩ :: events) ∧
      (state.after source (⟨.start (.codeBlock info), span⟩ :: events)).step source
          ⟨.stop (.codeBlock info), span⟩ =
        { state with
          gathered := state.gathered.push (.fence (languageOf info) (textOf events) span) } := by
  have opened : state.step source ⟨.start (.codeBlock info), span⟩ =
      { state with fence := some ⟨languageOf info, "", span⟩ } := by
    rw [step, closed]
    rfl
  have fenced : (state.step source ⟨.start (.codeBlock info), span⟩).fence =
      some ⟨languageOf info, "", span⟩ := by
    rw [opened]
  obtain ⟨opens, reached⟩ := after_inside_fence source fenced inside
  refine ⟨⟨?_, opens⟩, ?_⟩
  · rw [opened]
    simp [isComplete]
  · rw [after_cons, reached, opened]
    simp [step, OpenFence.content, ← closed]

/-! ### Whole nodes -/

/-- Outside a code block, some events open nothing that they do not close, and do not complete a
block that is open in front of them. -/
def Passes (source : String) (events : List Event) : Prop :=
  ∀ state : Gathering, state.fence = none →
    (state.after source events).depth = state.depth ∧ (state.after source events).fence = none ∧
      (state.depth ≠ 0 → StaysOpen source state events)

theorem Passes.append {first second : List Event} (passes : Passes source first)
    (later : Passes source second) : Passes source (first ++ second) := by
  intro state closed
  obtain ⟨depth, closed_between, opens⟩ := passes state closed
  obtain ⟨later_depth, later_closed, later_opens⟩ := later _ closed_between
  rw [after_append, later_depth, depth]
  refine ⟨rfl, later_closed, fun inside => ?_⟩
  rw [staysOpen_append_iff]
  exact ⟨opens inside, later_opens (depth ▸ inside)⟩

theorem Passes.leaf {kind : EventKind} (span : Span) (leaf : kind.isLeaf = true) :
    Passes source [⟨kind, span⟩] := by
  intro state closed
  obtain ⟨depth, still_closed⟩ := step_leaf source span closed leaf
  refine ⟨depth, still_closed, fun inside => ⟨?_, trivial⟩⟩
  simp [isComplete, depth, inside]

theorem after_element {tag : Tag} {span : Span} {children : List Node} :
    state.after source (Node.element tag span children).events =
      (state.after source (⟨.start tag, span⟩ :: Node.eventsAll children)).step source
        ⟨.stop tag, span⟩ := by
  rw [Node.events, ← List.cons_append, after_append]
  rfl

section Element

variable {tag : Tag} {span : Span} {children : List Node}

/-- An element is open until it ends, and is closed then. -/
theorem element_passes (regular : (Node.element tag span children).isRegular = true)
    (inside : Passes source (Node.eventsAll children)) (closed : state.fence = none) :
    StaysOpen source state (⟨.start tag, span⟩ :: Node.eventsAll children) ∧
      (state.after source (Node.element tag span children).events).depth = state.depth ∧
      (state.after source (Node.element tag span children).events).fence = none := by
  rw [Node.isRegular_element_iff] at regular
  rw [after_element]
  cases fenced : tag.isCodeBlock with
  | true =>
      obtain ⟨info, rfl⟩ := Tag.isCodeBlock_iff.mp fenced
      obtain ⟨opens, reached⟩ :=
        after_fence source info span closed (Node.stop_not_mem regular.2 regular.1)
      exact ⟨opens, by rw [reached], by rw [reached, closed]⟩
  | false =>
      -- Inside the element the depth is not zero, wherever the element stands.
      obtain ⟨depth, closed_inside, -⟩ := step_start source span closed fenced
      obtain ⟨inner_depth, inner_closed, opens⟩ := inside _ closed_inside
      obtain ⟨outer_depth, outer_closed⟩ := step_stop source tag span inner_closed
      refine ⟨⟨?_, opens ?_⟩, ?_, outer_closed⟩
      · simp [isComplete, depth]
      · rw [depth]
        exact Nat.succ_ne_zero _
      · rw [after_cons, outer_depth, inner_depth, depth]
        exact Nat.add_sub_cancel _ _

theorem Passes.element (regular : (Node.element tag span children).isRegular = true)
    (inside : Passes source (Node.eventsAll children)) :
    Passes source (Node.element tag span children).events := by
  intro state closed
  obtain ⟨opens, depth, still_closed⟩ := element_passes regular inside closed
  refine ⟨depth, still_closed, fun deep => ?_⟩
  rw [after_element] at depth
  rw [Node.events, ← List.cons_append, staysOpen_append_iff]
  refine ⟨opens, ?_, trivial⟩
  simp only [isComplete, depth, deep, decide_false, Bool.false_and]

end Element

/-- Regular nodes close all that they open. -/
theorem forest_passes (source : String) {nodes : List Node}
    (regular : Node.areRegular nodes = true) : Passes source (Node.eventsAll nodes) := by
  induction nodes using Node.forest_induction with
  | nil => exact fun state closed => ⟨rfl, closed, fun _ => trivial⟩
  | leaf kind span rest behind =>
      rw [Node.areRegular_cons_iff] at regular
      apply Passes.append
      · exact Passes.leaf span regular.1
      · exact behind regular.2
  | element tag span children rest inside behind =>
      rw [Node.areRegular_cons_iff] at regular
      apply Passes.append
      · apply Passes.element regular.1
        exact inside (Node.isRegular_element_iff.mp regular.1).2
      · exact behind regular.2

/-! ## Where the contents stand -/

section Stands

variable {low cursor high : Nat}

/-- A leaf adds what stands on its bytes. -/
theorem step_leaf_stands {kind : EventKind} {span : Span} (closed : state.fence = none)
    (leaf : kind.isLeaf = true) (stands : state.gathered.StandsIn source ⟨low, cursor⟩)
    (next : span.LiesIn ⟨cursor, high⟩) (ahead : low ≤ cursor) :
    (state.step source ⟨kind, span⟩).gathered.StandsIn source ⟨low, span.stop⟩ := by
  have here : span.LiesIn ⟨cursor, span.stop⟩ := ⟨next.1, next.2.1, Nat.le_refl _⟩
  rw [step, closed]
  cases kind with
  | start | stop => cases leaf
  | text | softBreak | hardBreak => exact stands.pushText here ahead
  | code => exact stands.push ⟨here, nofun⟩ ahead
  | html | thematicBreak => exact stands.mono here.start_le_stop

theorem step_stop_stands {tag : Tag} {span part : Span} (closed : state.fence = none)
    (stands : state.gathered.StandsIn source part) :
    (state.step source ⟨.stop tag, span⟩).gathered.StandsIn source part := by
  have ended : state.gathered.endRun.StandsIn source part := stands
  rw [step, closed]
  dsimp only [leave]
  split
  case h_3 | h_4 =>
    split
    · exact ended
    · exact ended.endParagraph _
  all_goals exact ended

/-- What is gathered from an element stands on its bytes if so does what is inside it. -/
theorem element_stands {tag : Tag} {span : Span} {children : List Node}
    (regular : (Node.element tag span children).isRegular = true) (closed : state.fence = none)
    (inside : ∀ {state : Gathering}, state.fence = none →
      state.gathered.StandsIn source ⟨low, span.start⟩ →
        (state.after source (Node.eventsAll children)).gathered.StandsIn source ⟨low, span.stop⟩)
    (stands : state.gathered.StandsIn source ⟨low, cursor⟩)
    (next : span.LiesIn ⟨cursor, high⟩) (ahead : low ≤ cursor) :
    (state.after source (Node.element tag span children).events).gathered.StandsIn source
      ⟨low, span.stop⟩ := by
  obtain ⟨may_hold, held⟩ := Node.isRegular_element_iff.mp regular
  rw [after_element]
  cases fenced : tag.isCodeBlock with
  | true =>
      obtain ⟨info, rfl⟩ := Tag.isCodeBlock_iff.mp fenced
      obtain ⟨-, reached⟩ :=
        after_fence source info span closed (Node.stop_not_mem held may_hold)
      rw [reached]
      have here : span.LiesIn ⟨cursor, span.stop⟩ := ⟨next.1, next.2.1, Nat.le_refl _⟩
      exact stands.push ⟨here, nofun⟩ ahead
  | false =>
      obtain ⟨-, closed_inside, same⟩ := step_start source span closed fenced
      have entered : (state.step source ⟨.start tag, span⟩).gathered.StandsIn source
          ⟨low, span.start⟩ := by
        rw [Gathered.StandsIn, same]
        exact stands.mono next.1
      obtain ⟨-, still_closed, -⟩ := forest_passes source held _ closed_inside
      exact step_stop_stands still_closed (inside closed_inside entered)

/-- What is gathered from nodes stands on the bytes that they take. -/
theorem forest_stands {nodes : List Node} (regular : Node.areRegular nodes = true)
    (fit : Node.allFit cursor high nodes = true) (closed : state.fence = none)
    (stands : state.gathered.StandsIn source ⟨low, cursor⟩) (ahead : low ≤ cursor) :
    (state.after source (Node.eventsAll nodes)).gathered.StandsIn source ⟨low, high⟩ := by
  induction nodes using Node.forest_induction generalizing cursor high state with
  | nil => exact stands.mono (of_decide_eq_true fit)
  | leaf kind span rest behind =>
      rw [Node.areRegular_cons_iff] at regular
      obtain ⟨here, fit⟩ := Node.allFit_cons_iff.mp fit
      have next := Node.span_liesIn here
      apply behind regular.2 fit (step_leaf source span closed regular.1).2
      · exact step_leaf_stands closed regular.1 stands next ahead
      · exact Nat.le_trans ahead (Nat.le_trans next.1 next.2.1)
  | element tag span children rest inside behind =>
      rw [Node.areRegular_cons_iff] at regular
      obtain ⟨here, fit⟩ := Node.allFit_cons_iff.mp fit
      obtain ⟨next, fit_inside⟩ := Node.fits_element_iff.mp here
      have held := (Node.isRegular_element_iff.mp regular.1).2
      have reached : low ≤ span.start := Nat.le_trans ahead next.1
      rw [Node.eventsAll_cons, after_append]
      apply behind regular.2 fit
      · exact (element_passes regular.1 (forest_passes source held) closed).2.2
      · apply element_stands regular.1 closed _ stands next ahead
        intro inner closed_inside entered
        exact inside held fit_inside closed_inside entered reached
      · exact Nat.le_trans reached next.2.1

end Stands

end Gathering

/-! ## Blocks -/

/-- What is gathered from a node alone. -/
def gatherNode (source : String) (node : Node) : Gathered :=
  (Gathering.start.after source node.events).gathered

/-- Gathering stops behind the first node, whatever follows it. -/
theorem Gathering.run_node {state : Gathering} (closed : state.fence = none)
    (outside : state.depth = 0) {node : Node} (regular : node.isRegular = true)
    (rest : List Event) : state.run source (node.events ++ rest) =
      ((state.after source node.events).gathered, rest) := by
  cases node with
  | leaf kind span =>
      obtain ⟨depth, still_closed⟩ := step_leaf source span closed regular
      have complete : (state.step source ⟨kind, span⟩).isComplete = true := by
        simp [isComplete, depth, outside, still_closed]
      rw [Node.events, List.singleton_append, run, complete]
      rfl
  | element tag span children =>
      have passes := forest_passes source (Node.isRegular_element_iff.mp regular).2
      obtain ⟨opens, depth, still_closed⟩ := element_passes regular passes closed
      have complete : (state.after source (Node.element tag span children).events).isComplete =
          true := by
        simp [isComplete, depth, outside, still_closed]
      rw [after_element] at complete
      rw [after_element, Node.events, ← List.cons_append, List.append_assoc, run_append opens,
        List.singleton_append, run, complete]
      rfl

/-- The block at the front of the events is the first node, whatever follows it. -/
theorem gatherBlock_node (source : String) {node : Node} (regular : node.isRegular = true)
    (rest : List Event) :
    gatherBlock source (node.events ++ rest) = (gatherNode source node, rest) :=
  Gathering.run_node rfl rfl regular rest

/-- What is gathered from a node stands on its bytes. -/
theorem gatherNode_stands {node : Node} {low high : Nat} (regular : node.isRegular = true)
    (fit : node.fits low high = true) :
    (gatherNode source node).StandsIn source ⟨node.span.start, node.span.stop⟩ := by
  have regular_alone : Node.areRegular [node] = true := by
    simp [Node.areRegular, regular]
  have fit_alone : Node.allFit node.span.start node.span.stop [node] = true := by
    simp [Node.allFit, Node.fits_self fit]
  have nothing : Gathering.start.gathered.StandsIn source ⟨node.span.start, node.span.start⟩ :=
    List.forall_mem_nil _
  have stands := Gathering.forest_stands regular_alone fit_alone rfl nothing (Nat.le_refl _)
  rwa [Node.eventsAll_cons, Node.eventsAll_nil, List.append_nil] at stands

end Gamebook.Story
