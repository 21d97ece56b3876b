import Gamebook.Proofs.Story.Gathering
import Mathlib.Data.List.SplitBy

/-!
# What gathering keeps

The content of a block is told by its tree.  Texts and line breaks that stand next to each other are
one run, in the style of the innermost element around them that has one; every other leaf or element
gives its own contents.  A paragraph or an item marks the last of its contents, if that is text.
-/

namespace Gamebook.Story

open Markdown (Event EventKind Node Tag)
open Text (Span)

/-! ## The contents of a tree -/

/-- A text or a line break. -/
structure Piece where
  /-- The text; line breaks are line feeds. -/
  text : String
  /-- The bytes of the source it stands on. -/
  span : Span

/-- What a node gives. -/
inductive Part
  /-- A piece of the run that the pieces next to it are in, too. -/
  | piece (piece : Piece)
  /-- Contents of its own, and destinations of links. -/
  | whole (contents : List Content) (links : List String)

namespace Part

/-- The piece of a run. -/
def piece? : Part → Option Piece
  | piece text => some text
  | whole _ _ => none

/-- The contents of its own. -/
def contents : Part → List Content
  | piece _ => []
  | whole contents _ => contents

/-- The destinations of links. -/
def links : Part → List String
  | piece _ => []
  | whole _ links => links

/-- Whether parts that stand next to each other are in one run. -/
def joins : Part → Part → Bool
  | piece _, piece _ => true
  | _, _ => false

end Part

/-- The run of text that pieces make. -/
def runOf (source : String) (style : Style) (first : Piece) (rest : List Piece) : TextRun :=
  let span : Span := ⟨first.span.start, (rest.getLast?.getD first).span.stop⟩
  { text := String.join ((first :: rest).map Piece.text), raw := span.slice source, style
    endsParagraph := false, span }

/-- The contents of pieces of one run, or of another part. -/
def groupContents (source : String) (style : Style) (group : List Part) : List Content :=
  match group.filterMap Part.piece? with
  | first :: rest => [.text (runOf source style first rest)]
  | [] => group.flatMap Part.contents

/-- The contents of parts in a row. -/
def assemble (source : String) (style : Style) (parts : List Part) : List Content :=
  (parts.splitBy Part.joins).flatMap (groupContents source style)

/-- Mark a run of text as the end of its paragraph. -/
def Content.endParagraph : Content → Content
  | text run => text { run with endsParagraph := true }
  | other => other

/-- The contents of an element, from those of what is inside it. -/
def enclose (tag : Tag) (contents : List Content) : List Content :=
  match tag with
  | .paragraph | .item => contents.dropLast ++ contents.getLast?.toList.map Content.endParagraph
  | _ => contents

/-- The style of what is inside an element. -/
def styleInside (style : Style) : Tag → Style
  | .emphasis => .emphasis
  | .strong => .strong
  | _ => style

/-- The destination of a link. -/
def destinations : Tag → List String
  | .link destination => [destination]
  | _ => []

mutual

/-- What a node gives in a style. -/
def partOf (source : String) (style : Style) : Node → Part
  | .leaf (.text text) span => .piece ⟨text, span⟩
  | .leaf .softBreak span | .leaf .hardBreak span => .piece ⟨"\n", span⟩
  | .leaf (.code code) span => .whole [.code code span] []
  | .leaf _ _ => .whole [] []
  | .element (.codeBlock info) span children =>
    let code := Gathering.textOf (Node.eventsAll children)
    .whole [.fence (Gathering.languageOf info) code span] []
  | .element tag _ children =>
    let parts := partsOf source (styleInside style tag) children
    .whole (enclose tag (assemble source (styleInside style tag) parts))
      (destinations tag ++ parts.flatMap Part.links)

/-- What nodes give in a style, one after the other. -/
def partsOf (source : String) (style : Style) : List Node → List Part
  | [] => []
  | node :: rest => partOf source style node :: partsOf source style rest

end

/-! ## Taking in parts -/

variable {source : String} {style : Style} {gathered : Gathered}

/-- Take in what a node gives. -/
def Gathered.take (source : String) (style : Style) (gathered : Gathered) : Part → Gathered
  | .piece piece => gathered.pushText source piece.text style piece.span
  | .whole contents links =>
    ⟨contents.reverse ++ gathered.contents, links.reverse ++ gathered.links, false⟩

theorem Gathered.pushText_fresh (sealed : gathered.growing = false) (piece : Piece) :
    gathered.pushText source piece.text style piece.span =
      ⟨.text (runOf source style piece []) :: gathered.contents, gathered.links, true⟩ := by
  rw [pushText]
  split
  · simp [sealed, runOf, String.join_cons, String.join_nil]
  · simp [runOf, String.join_cons, String.join_nil]

/-- A piece makes the run in front of it longer. -/
theorem Gathered.pushText_grow (first piece : Piece) (rest : List Piece) (contents : List Content)
    (links : List String) :
    Gathered.pushText source ⟨.text (runOf source style first rest) :: contents, links, true⟩
        piece.text style piece.span =
      ⟨.text (runOf source style first (rest ++ [piece])) :: contents, links, true⟩ := by
  simp [pushText, runOf, String.join_cons, String.join_append, String.append_assoc]

/-- Pieces next to each other become one run. -/
theorem foldl_pieces (sealed : gathered.growing = false) (first : Piece) (rest : List Piece) :
    ((first :: rest).map Part.piece).foldl (Gathered.take source style) gathered =
      ⟨.text (runOf source style first rest) :: gathered.contents, gathered.links, true⟩ := by
  induction rest using List.reverseRecOn with
  | nil => exact Gathered.pushText_fresh sealed first
  | append_singleton rest piece induction =>
      rw [← List.cons_append, List.map_append, List.foldl_append, induction]
      exact Gathered.pushText_grow first piece rest _ _

/-- Parts in one group are pieces of one run, or there is only one of them. -/
theorem group_cases {group : List Part} (nonempty : group ≠ [])
    (chain : group.IsChain fun first second => Part.joins first second = true) :
    (∃ first rest, group = (first :: rest).map Part.piece) ∨
      ∃ contents links, group = [.whole contents links] := by
  induction group with
  | nil => exact absurd rfl nonempty
  | cons part rest induction =>
      cases part with
      | whole contents links =>
          refine Or.inr ⟨contents, links, ?_⟩
          cases rest with
          | nil => rfl
          | cons next rest => cases (List.isChain_cons_cons.mp chain).1
      | piece first =>
          refine Or.inl ⟨first, ?_⟩
          cases rest with
          | nil => exact ⟨[], rfl⟩
          | cons next rest =>
              obtain ⟨joined, chain⟩ := List.isChain_cons_cons.mp chain
              rcases induction (List.cons_ne_nil next rest) chain with
                ⟨second, others, same⟩ | ⟨contents, links, same⟩
              · exact ⟨second :: others, by rw [same]; rfl⟩
              · cases same
                cases joined

theorem groupContents_pieces (first : Piece) (rest : List Piece) :
    groupContents source style ((first :: rest).map Part.piece) =
      [.text (runOf source style first rest)] := by
  have pieces : ((first :: rest).map Part.piece).filterMap Part.piece? = first :: rest := by
    rw [List.filterMap_map]
    exact List.filterMap_some
  rw [groupContents, pieces]

theorem groupContents_whole (contents : List Content) (links : List String) :
    groupContents source style [.whole contents links] = contents :=
  List.append_nil contents

/-- Parts are taken in group by group, if a run that may still grow is not followed by pieces. -/
theorem foldl_groups {groups : List (List Part)} (nonempty : [] ∉ groups)
    (chained : ∀ group ∈ groups, group.IsChain fun first second => Part.joins first second = true)
    (apart : groups.IsChain fun first second =>
      ∃ ends starts, Part.joins (first.getLast ends) (second.head starts) = false)
    (fresh : gathered.growing = false ∨
      ∀ group ∈ groups.head?, ∃ contents links, group = [.whole contents links]) :
    (groups.flatten.foldl (Gathered.take source style) gathered).contents =
      (groups.flatMap (groupContents source style)).reverse ++ gathered.contents := by
  induction groups generalizing gathered with
  | nil => rfl
  | cons group groups induction =>
      obtain ⟨first_ne, others_ne⟩ := not_or.mp (mt List.mem_cons.mpr nonempty)
      obtain ⟨chain, others_chained⟩ := List.forall_mem_cons.mp chained
      obtain ⟨next, others_apart⟩ := List.isChain_cons.mp apart
      rw [List.flatten_cons, List.foldl_append, List.flatMap_cons, List.reverse_append,
        List.append_assoc]
      rcases group_cases (Ne.symm first_ne) chain with
        ⟨first, rest, rfl⟩ | ⟨contents, links, rfl⟩
      · have sealed : gathered.growing = false := by
          rcases fresh with sealed | whole
          · exact sealed
          · obtain ⟨contents, links, same⟩ := whole _ rfl
            cases same
        rw [foldl_pieces sealed, induction others_ne others_chained others_apart,
          groupContents_pieces]
        · rfl
        -- The run may grow now, but what follows is no piece: it would be in the same group.
        · refine Or.inr fun group member => ?_
          obtain ⟨ends, starts, parted⟩ := next group member
          have among : group ∈ groups := List.mem_of_mem_head? member
          rcases group_cases starts (others_chained group among) with ⟨second, others, rfl⟩ | whole
          · rw [List.getLast_map] at parted
            cases parted
          · exact whole
      · rw [List.foldl_cons, List.foldl_nil, Gathered.take, groupContents_whole,
          induction others_ne others_chained others_apart]
        exact Or.inl rfl

theorem Gathered.pushText_links (text : String) (span : Span) :
    (gathered.pushText source text style span).links = gathered.links := by
  rw [pushText]
  split
  · split <;> rfl
  · rfl

theorem foldl_take_contents (sealed : gathered.growing = false) (parts : List Part) :
    (parts.foldl (Gathered.take source style) gathered).contents =
      (assemble source style parts).reverse ++ gathered.contents := by
  have groups :
      ((parts.splitBy Part.joins).flatten.foldl (Gathered.take source style) gathered).contents =
        (assemble source style parts).reverse ++ gathered.contents :=
    foldl_groups (List.nil_notMem_splitBy Part.joins parts)
      (fun _ => List.isChain_of_mem_splitBy) (List.isChain_getLast_head_splitBy Part.joins parts)
      (Or.inl sealed)
  rwa [List.flatten_splitBy] at groups

theorem foldl_take_links (parts : List Part) :
    (parts.foldl (Gathered.take source style) gathered).links =
      (parts.flatMap Part.links).reverse ++ gathered.links := by
  induction parts generalizing gathered with
  | nil => rfl
  | cons part parts induction =>
      have taken : (gathered.take source style part).links =
          part.links.reverse ++ gathered.links := by
        cases part with
        | whole => rfl
        | piece piece => exact Gathered.pushText_links piece.text piece.span
      rw [List.foldl_cons, induction, taken, List.flatMap_cons, List.reverse_append,
        List.append_assoc]

/-- What has been taken in: the contents and links of the parts, the last one first. -/
theorem foldl_take (source : String) (style : Style) (sealed : gathered.growing = false)
    (parts : List Part) : ∃ growing, parts.foldl (Gathered.take source style) gathered =
      ⟨(assemble source style parts).reverse ++ gathered.contents,
        (parts.flatMap Part.links).reverse ++ gathered.links, growing⟩ :=
  ⟨_, by rw [← foldl_take_contents sealed, ← foldl_take_links]⟩

/-! ## Gathering from a tree -/

namespace Gathering

variable {state : Gathering}

/-- Take in parts in the style at hand. -/
def takeAll (source : String) (state : Gathering) (parts : List Part) : Gathering :=
  { state with gathered := parts.foldl (Gathered.take source state.style) state.gathered }

theorem takeAll_fence (closed : state.fence = none) (parts : List Part) :
    (state.takeAll source parts).fence = none := closed

/-- A leaf is taken in as what it gives. -/
theorem step_leaf_take {kind : EventKind} (span : Span) (closed : state.fence = none)
    (leaf : kind.isLeaf = true) : state.step source ⟨kind, span⟩ =
      state.takeAll source [partOf source state.style (.leaf kind span)] := by
  rw [step, takeAll, closed]
  cases kind with
  | start | stop => cases leaf
  | _ => rfl

/-- Inside an element the run in front of it does not grow; what is inside has the style of the
element, if it has one. -/
theorem step_start_eq (source : String) {tag : Tag} (span : Span) (closed : state.fence = none)
    (plain : tag.isCodeBlock = false) :
    (state.step source ⟨.start tag, span⟩).gathered =
        ⟨state.gathered.contents, (destinations tag).reverse ++ state.gathered.links, false⟩ ∧
      (state.step source ⟨.start tag, span⟩).style = styleInside state.style tag := by
  rw [step, closed]
  cases tag with
  | codeBlock => cases plain
  | _ => exact ⟨rfl, rfl⟩

/-- The last content inside a paragraph is marked, if there is one. -/
theorem endParagraph_eq (contents before : List Content) (links : List String) :
    Gathered.endParagraph ⟨contents.reverse ++ before, links, false⟩ before.length =
      ⟨(enclose .paragraph contents).reverse ++ before, links, false⟩ := by
  rcases List.eq_nil_or_concat' contents with rfl | ⟨front, last, rfl⟩
  · simp [Gathered.endParagraph, enclose]
  · have longer : ¬((front ++ [last]).reverse ++ before).length ≤ before.length := by
      simp only [List.length_append, List.length_reverse, List.length_singleton]
      omega
    rw [Gathered.endParagraph, if_neg longer]
    cases last <;> simp [enclose, Content.endParagraph]

/-- Behind an element only what has been gathered is another than in front of it. -/
theorem step_stop_eq {tag : Tag} (span : Span) (closed : state.fence = none)
    (plain : tag.isCodeBlock = false) (contents : List Content) (links : List String)
    (growing : Bool) :
    { state.step source ⟨.start tag, span⟩ with
        gathered := ⟨contents.reverse ++ state.gathered.contents, links, growing⟩ }.step source
          ⟨.stop tag, span⟩ =
      { state with gathered :=
        ⟨(enclose tag contents).reverse ++ state.gathered.contents, links, false⟩ } := by
  rw [step, closed]
  cases tag with
  | codeBlock => cases plain
  | paragraph | item =>
      simp only [enter, step, closed, leave, Gathered.endRun, endParagraph_eq]
      rfl
  | _ => simp [enter, step, closed, leave, Gathered.endRun, enclose]

/-- An element is taken in as what it gives, if so is what is inside it. -/
theorem after_element_take {tag : Tag} {span : Span} {children : List Node}
    (regular : (Node.element tag span children).isRegular = true) (closed : state.fence = none)
    (inside : ∀ {state : Gathering}, state.fence = none →
      state.after source (Node.eventsAll children) =
        state.takeAll source (partsOf source state.style children)) :
    state.after source (Node.element tag span children).events =
      state.takeAll source [partOf source state.style (.element tag span children)] := by
  obtain ⟨may_hold, held⟩ := Node.isRegular_element_iff.mp regular
  rw [after_element]
  cases fenced : tag.isCodeBlock with
  | true =>
      obtain ⟨info, rfl⟩ := Tag.isCodeBlock_iff.mp fenced
      exact (after_fence source info span closed (Node.stop_not_mem held may_hold)).2
  | false =>
      obtain ⟨-, closed_inside, -⟩ := step_start source span closed fenced
      obtain ⟨entered, style⟩ := step_start_eq source span closed fenced
      -- The run in front of the element is sealed, so what is inside is assembled by itself.
      have sealed : (state.step source ⟨.start tag, span⟩).gathered.growing = false := by
        rw [entered]
      obtain ⟨growing, taken⟩ := foldl_take source (styleInside state.style tag) sealed
        (partsOf source (styleInside state.style tag) children)
      rw [after_cons, inside closed_inside, takeAll, style, taken, entered,
        step_stop_eq span closed fenced, takeAll]
      cases tag with
      | codeBlock => cases fenced
      | _ => simp [partOf, Gathered.take]

/-- What nodes give is taken in, one after the other. -/
theorem after_nodes (source : String) {nodes : List Node} (regular : Node.areRegular nodes = true)
    (closed : state.fence = none) : state.after source (Node.eventsAll nodes) =
      state.takeAll source (partsOf source state.style nodes) := by
  induction nodes using Node.forest_induction generalizing state with
  | nil => rfl
  | leaf kind span rest behind =>
      rw [Node.areRegular_cons_iff] at regular
      rw [Node.eventsAll_leaf, after_cons, step_leaf_take span closed regular.1,
        behind regular.2 (takeAll_fence closed _)]
      rfl
  | element tag span children rest inside behind =>
      rw [Node.areRegular_cons_iff] at regular
      have held := (Node.isRegular_element_iff.mp regular.1).2
      have taken := after_element_take regular.1 closed (inside held)
      rw [Node.eventsAll_cons, after_append, taken, behind regular.2 (takeAll_fence closed _)]
      rfl

end Gathering

/-! ## Blocks -/

/-- The contents of a block, in order. -/
def blockContents (source : String) (node : Node) : List Content :=
  assemble source .plain [partOf source .plain node]

/-- The destinations of the links in a block, in order. -/
def blockLinks (source : String) (node : Node) : List String :=
  (partOf source .plain node).links

/-- Gathering consumes the block that stands first, whatever follows it, and puts the contents and
links of its tree behind those gathered before. -/
theorem run_block (source : String) {node : Node} (regular : node.isRegular = true)
    {before : Gathered} (sealed : before.growing = false) (rest : List Event) :
    ∃ gathered,
      Gathering.run source { Gathering.start with gathered := before } (node.events ++ rest) =
        (gathered, rest) ∧
      gathered.contents.reverse = before.contents.reverse ++ blockContents source node ∧
      gathered.links.reverse = before.links.reverse ++ blockLinks source node := by
  have closed : { Gathering.start with gathered := before }.fence = none := rfl
  have alone : Node.areRegular [node] = true := by simp [Node.areRegular, regular]
  have taken := Gathering.after_nodes source alone closed
  rw [Node.eventsAll_cons, Node.eventsAll_nil, List.append_nil] at taken
  obtain ⟨growing, same⟩ := foldl_take source .plain sealed [partOf source .plain node]
  have gathered : (Gathering.after source { Gathering.start with gathered := before }
      node.events).gathered = ⟨(blockContents source node).reverse ++ before.contents,
        (blockLinks source node ++ []).reverse ++ before.links, growing⟩ := by
    rw [taken]
    exact same
  refine ⟨_, Gathering.run_node closed rfl regular rest, ?_⟩
  rw [gathered]
  simp

/-- Flattening a block loses nothing.  What is gathered are exactly the contents and links of its
tree, in order, and what follows the block is left.  If something has been gathered before, they are
put behind it. -/
theorem flattening_loses_nothing (source : String) {node : Node} (regular : node.isRegular = true)
    (rest : List Event) :
    (∃ gathered, gatherBlock source (node.events ++ rest) = (gathered, rest) ∧
      gathered.contents.reverse = blockContents source node ∧
      gathered.links.reverse = blockLinks source node) ∧
    ∀ before : Gathered, before.growing = false → ∃ gathered,
      Gathering.run source { Gathering.start with gathered := before } (node.events ++ rest) =
        (gathered, rest) ∧
      gathered.contents.reverse = before.contents.reverse ++ blockContents source node ∧
      gathered.links.reverse = before.links.reverse ++ blockLinks source node :=
  ⟨run_block source regular rfl rest, fun _ sealed => run_block source regular sealed rest⟩

/-- A paragraph with emphasis, code, a link, a line break and a text of two pieces. -/
def mixedParagraph : Node :=
  .element .paragraph ⟨0, 18⟩
    [.leaf (.text "a") ⟨0, 1⟩, .leaf .softBreak ⟨1, 2⟩,
      .element .emphasis ⟨2, 5⟩ [.leaf (.text "b") ⟨3, 4⟩], .leaf (.code "c") ⟨5, 8⟩,
      .element (.link "#d") ⟨8, 15⟩ [.leaf (.text "e") ⟨9, 10⟩],
      .leaf (.text "f") ⟨15, 16⟩, .leaf (.text "*") ⟨17, 18⟩]

/-- The source of the paragraph. -/
def mixedSource : String := "a\n*b*\x60c\x60[e](#d)f\\*"

theorem flattening_loses_nothing_mixed :
    (∃ gathered, gatherBlock mixedSource (mixedParagraph.events ++ []) = (gathered, []) ∧
      gathered.contents.reverse =
        [.text ⟨"a\n", "a\n", .plain, false, ⟨0, 2⟩⟩, .text ⟨"b", "b", .emphasis, false, ⟨3, 4⟩⟩,
          .code "c" ⟨5, 8⟩, .text ⟨"e", "e", .plain, false, ⟨9, 10⟩⟩,
          .text ⟨"f*", "f\\*", .plain, true, ⟨15, 18⟩⟩] ∧
      gathered.links.reverse = ["#d"]) ∧
    ∃ gathered, Gathering.run mixedSource { Gathering.start with gathered := ⟨[], ["#a"], false⟩ }
        (mixedParagraph.events ++ []) = (gathered, []) ∧ gathered.links.reverse = ["#a", "#d"] := by
  have regular : mixedParagraph.isRegular = true := by decide +kernel
  obtain ⟨⟨gathered, run, contents, links⟩, behind⟩ :=
    flattening_loses_nothing mixedSource regular []
  constructor
  · refine ⟨gathered, run, ?_, ?_⟩
    · rw [contents]
      decide +kernel
    · rw [links]
      decide +kernel
  · obtain ⟨gathered, run, -, links⟩ := behind ⟨[], ["#a"], false⟩ rfl
    refine ⟨gathered, run, ?_⟩
    rw [links]
    decide +kernel

end Gamebook.Story
