import Gamebook.Proofs.Story.Flattening
import Gamebook.Proofs.Story.Joining

/-!
# What chapters are made of

A chapter is a heading and the blocks behind it.  The contents of all blocks of a chapter of settings
are its body.  In any other chapter the items of the bullet lists are options, and what stands behind
an option, up to the next one, is told with it.
-/

namespace Gamebook.Story

open Markdown (Event Node)
open Text (Span)

variable {source : String}

/-! ## Chapters and sections -/

namespace Chapter

/-- The section that the heading of a chapter opens. -/
def opening (chapter : Chapter) : OpenSection :=
  match chapter.nodes with
  | heading :: _ => openingOf heading
  | [] => ⟨"", chapter.span.start, [], []⟩

/-- The blocks behind the heading. -/
def blocks (chapter : Chapter) : List Node :=
  chapter.nodes.tail

/-- The name of a chapter is the text of its heading. -/
def name (chapter : Chapter) : String :=
  chapter.opening.name

/-- Whether a chapter holds settings. -/
def isSettings (chapter : Chapter) : Bool :=
  isSettingsName chapter.name

/-- The section that a chapter is read as. -/
def part (source : String) (chapter : Chapter) : Section :=
  (chapter.blocks.foldl (OpenSection.take source) chapter.opening).close chapter.span.stop

end Chapter

/-- Every chapter is read as a section, and nothing else is. -/
theorem sections_eq {nodes : List Node} (regular : Node.areRegular nodes = true) :
    sections source (Node.eventsAll nodes) =
      (chapters source.utf8ByteSize nodes).map (Chapter.part source) := by
  induction nodes with
  | nil => exact sections_plain source regular nofun
  | cons node rest induction =>
      have behind := (Node.areRegular_cons_iff.mp regular).2
      rw [chapters]
      cases heads : node.isHeading with
      | false =>
          rw [sections_other regular heads]
          exact induction behind
      | true =>
          rw [sections_heading regular heads, induction behind]
          rfl

theorem blocks_regular {nodes : List Node} (regular : Node.areRegular nodes = true) {size : Nat}
    {chapter : Chapter} (member : chapter ∈ chapters size nodes) :
    Node.areRegular chapter.blocks = true := by
  induction nodes with
  | nil => cases member
  | cons node rest induction =>
      have behind := (Node.areRegular_cons_iff.mp regular).2
      rw [chapters] at member
      split at member
      · rcases List.mem_cons.mp member with rfl | later
        · rw [Node.areRegular_iff] at behind ⊢
          intro other among
          exact behind other (List.takeWhile_subset _ among)
        · exact induction behind later
      · exact induction behind member

theorem Chapter.opening_empty (chapter : Chapter) :
    chapter.opening.body = [] ∧ chapter.opening.items = [] := by
  rw [opening]
  split
  · rename_i heading rest nodes
    cases heading <;> exact ⟨rfl, rfl⟩
  · exact ⟨rfl, rfl⟩

section Taking

variable {opened : OpenSection} {node : Node} {nodes : List Node}

theorem OpenSection.take_name (opened : OpenSection) (node : Node) :
    (opened.take source node).name = opened.name := by
  unfold take
  split
  · split
    · exact add_name _ _
    · rfl
  · exact add_name _ _

theorem OpenSection.foldl_take_name (opened : OpenSection) (nodes : List Node) :
    (nodes.foldl (take source) opened).name = opened.name := by
  induction nodes generalizing opened with
  | nil => rfl
  | cons node rest induction => rw [List.foldl_cons, induction, take_name]

theorem Chapter.part_name (chapter : Chapter) : (chapter.part source).name = chapter.name :=
  OpenSection.foldl_take_name _ _

theorem Chapter.part_isSettings (source : String) :
    Section.isSettings ∘ Chapter.part source = Chapter.isSettings := by
  funext chapter
  rw [Function.comp_apply, Section.isSettings, part_name, isSettings]

/-- What is gathered from a node are the contents and links of its tree. -/
theorem gatherNode_reverse (regular : node.isRegular = true) :
    (gatherNode source node).contents.reverse = blockContents source node ∧
      (gatherNode source node).links.reverse = blockLinks source node := by
  have sealed : Gathered.empty.growing = false := rfl
  obtain ⟨gathered, run, contents, links⟩ := run_block source regular sealed []
  cases (gatherBlock_node source regular []).symm.trans run
  exact ⟨contents, links⟩

/-! ## Settings -/

theorem OpenSection.take_settings (settings : isSettingsName opened.name = true) (node : Node) :
    opened.take source node = opened.add (gatherNode source node) := by
  unfold take
  split
  · rw [if_pos settings]
  · rfl

/-- A section of settings has no items: all contents go to its body. -/
theorem OpenSection.foldl_take_settings (settings : isSettingsName opened.name = true)
    (empty : opened.items = []) (regular : Node.areRegular nodes = true) :
    nodes.foldl (take source) opened =
      { opened with body := opened.body ++ nodes.flatMap (blockContents source) } := by
  induction nodes generalizing opened with
  | nil => simp
  | cons node rest induction =>
      rw [Node.areRegular_cons_iff] at regular
      have taken : opened.take source node =
          { opened with body := opened.body ++ blockContents source node } := by
        rw [take_settings settings, add, empty, (gatherNode_reverse regular.1).1]
      have named : isSettingsName (opened.take source node).name = true := by
        rwa [take_name]
      have still_empty : (opened.take source node).items = [] := by
        rw [taken, empty]
      rw [List.foldl_cons, induction named still_empty regular.2, taken, List.flatMap_cons,
        List.append_assoc]

/-! ## Options -/

/-- The items of a bullet list. -/
def bullets? : Node → Option (List Node)
  | .element (.list none) _ items => some items
  | _ => none

/-- The items of the bullet lists among some nodes. -/
def bulletItems (nodes : List Node) : List Node :=
  nodes.flatMap fun node => (bullets? node).getD []

/-- The blocks in front of the next bullet list with an item. -/
def blocksBehind : List Node → List Node
  | [] => []
  | node :: rest =>
    match bullets? node with
    | none => node :: blocksBehind rest
    | some items => if items.isEmpty then blocksBehind rest else []

/-- The items of a bullet list, the last one with some blocks behind it. -/
def listOptions (items behind : List Node) : List (Node × List Node) :=
  items.dropLast.map (fun item => (item, [])) ++
    items.getLast?.toList.map fun item => (item, behind)

/-- The items of the bullet lists among some nodes, each with the blocks behind it up to the next
item. -/
def optionsOf : List Node → List (Node × List Node)
  | [] => []
  | node :: rest => listOptions ((bullets? node).getD []) (blocksBehind rest) ++ optionsOf rest

/-- An item with the blocks behind it. -/
def optionItem (source : String) (option : Node × List Node) : Item :=
  (itemOf source option.1).behind (option.2.map (gatherNode source))

theorem OpenSection.take_of_bullets {items : List Node} (bullets : bullets? node = some items)
    (options : isSettingsName opened.name = false) :
    opened.take source node = opened.addItems (items.map (itemOf source)) := by
  unfold bullets? at bullets
  split at bullets
  · cases bullets
    rw [take, if_neg (by rw [options]; exact Bool.false_ne_true)]
  · cases bullets

theorem OpenSection.take_of_block (block : bullets? node = none) :
    opened.take source node = opened.add (gatherNode source node) := by
  unfold bullets? at block
  split at block
  · cases block
  · rename_i other
    unfold take
    split
    · exact absurd rfl (other _ _)
    · rfl

theorem listOptions_concat (items : List Node) (last : Node) (behind : List Node) :
    listOptions (items ++ [last]) behind = items.map (fun item => (item, [])) ++ [(last, behind)] := by
  simp [listOptions]

/-- Items come behind those that are there; the last one takes what is behind the list. -/
theorem OpenSection.foldl_take_behind {item : Item} {others : List Item}
    (options : isSettingsName opened.name = false) (items : opened.items = item :: others) :
    (nodes.foldl (take source) opened).items.reverse =
      others.reverse ++ item.behind ((blocksBehind nodes).map (gatherNode source)) ::
        (optionsOf nodes).map (optionItem source) := by
  induction nodes generalizing opened item others with
  | nil => simp [items, blocksBehind, optionsOf, Item.behind]
  | cons node rest induction =>
      have named : isSettingsName (opened.take source node).name = false := by
        rwa [take_name]
      rw [List.foldl_cons, blocksBehind, optionsOf]
      cases bullets : bullets? node with
      | none =>
          have added : (opened.take source node).items =
              { item with gathered := item.gathered.append (gatherNode source node) } ::
                others := by
            rw [take_of_block bullets, add, items]
          rw [induction named added]
          rfl
      | some listed =>
          have added : (opened.take source node).items =
              (listed.map (itemOf source)).reverse ++ item :: others := by
            rw [take_of_bullets bullets options, addItems, items]
          rcases List.eq_nil_or_concat' listed with rfl | ⟨front, last, rfl⟩
          · rw [induction named added]
            rfl
          · rw [List.map_append, List.reverse_append] at added
            rw [induction named added]
            simp [listOptions_concat, optionItem, Item.behind]

/-- The items of the bullet lists become options. -/
theorem OpenSection.foldl_take_items (options : isSettingsName opened.name = false)
    (empty : opened.items = []) : (nodes.foldl (take source) opened).items.reverse =
      (optionsOf nodes).map (optionItem source) := by
  induction nodes generalizing opened with
  | nil => simp [empty, optionsOf]
  | cons node rest induction =>
      have named : isSettingsName (opened.take source node).name = false := by
        rwa [take_name]
      rw [List.foldl_cons, optionsOf]
      cases bullets : bullets? node with
      | none =>
          have still_empty : (opened.take source node).items = [] := by
            rw [take_of_block bullets, add, empty]
          exact induction named still_empty
      | some listed =>
          have added : (opened.take source node).items = (listed.map (itemOf source)).reverse := by
            rw [take_of_bullets bullets options, addItems, empty, List.append_nil]
          rcases List.eq_nil_or_concat' listed with rfl | ⟨front, last, rfl⟩
          · exact induction named added
          · rw [List.map_append, List.reverse_append] at added
            rw [foldl_take_behind named added]
            simp [listOptions_concat, optionItem, Item.behind]

end Taking

end Gamebook.Story
