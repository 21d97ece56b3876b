import Gamebook.Proofs.Story.Parts
import Gamebook.Proofs.Story.Places

/-!
# Options of a story

The options of a state are the items of its bullet lists, one for one and in order.  The contents of
an option are split at its title, the first text that is not blank.  Code in front of the title is
directives or a precondition, and what is behind it are effects.  Nothing is lost, but blank text.
-/

namespace Gamebook.Story

open Markdown (Node)
open Text (Span)

variable {source : String}

/-! ## Splitting contents -/

namespace Content

/-- Whether a content is a run of text. -/
def isText : Content → Bool
  | .text _ => true
  | _ => false

/-- Whether a content is inline code that starts with an at sign. -/
def isDirective : Content → Bool
  | .code source _ => source.toList.head? = some '@'
  | _ => false

/-- The words of inline code. -/
def words : Content → List String
  | .code source _ => Text.words source
  | _ => []

end Content

/-- What stands in front of the title of an option has no other text than blank one, and gives the
directives and the preconditions in order. -/
structure Guards (front : List Content) (choice : Choice) : Prop where
  plain : ∀ content ∈ front, content.isText = true → content.isBlankText = true
  directives : choice.directives = (front.filter Content.isDirective).flatMap Content.words
  preconditions : choice.preconditions =
    front.filter fun content => !content.isText && !content.isDirective

/-- Contents are split at the first text that is not blank: it is the title, and what is behind it
are the effects, but for blank text.  Without such a text there is no title and no effect. -/
inductive Splits (contents : List Content) (choice : Choice) : Prop
  | titled {front back : List Content} {run : TextRun}
      (parts : contents = front ++ .text run :: back) (guards : Guards front choice)
      (shown : Text.isBlankText run.text = false) (text : choice.text = some (Text.trim run.text))
      (effects : choice.effects = back.filter fun content => !content.isBlankText)
  | untitled (guards : Guards contents choice) (text : choice.text = none)
      (effects : choice.effects = [])

/-- Every content but blank text goes to exactly one place: it says directives, or it is a
precondition, the title or an effect. -/
def Placed (contents : List Content) (choice : Choice) : Prop :=
  ∃ (directing : List Content) (title : Option TextRun),
    (contents.filter fun content => !content.isBlankText).Perm
      (directing ++ choice.preconditions ++ title.toList.map .text ++ choice.effects) ∧
    (∀ content ∈ directing, content.words ≠ []) ∧
    choice.directives = directing.flatMap Content.words ∧
    choice.text = title.map fun run => Text.trim run.text

section Splitting

variable {contents front : List Content} {choice : Choice}

theorem isPrecondition_eq (content : Content) :
    isPrecondition content = (!content.isText && !content.isDirective) := by
  cases content <;> simp [isPrecondition, Content.isText, Content.isDirective]

theorem directives_eq (contents : List Content) : contents.flatMap directivesOf =
    (contents.filter Content.isDirective).flatMap Content.words := by
  induction contents with
  | nil => rfl
  | cons content rest induction =>
      rw [List.flatMap_cons, induction, List.filter_cons]
      cases content with
      | code code span =>
          by_cases marked : code.toList.head? = some '@' <;>
            simp [directivesOf, Content.isDirective, Content.words, marked]
      | text | fence => rfl

theorem blank_of_not_title {content : Content} (plain : isTitle content = false)
    (text : content.isText = true) : content.isBlankText = true := by
  cases content with
  | text run => simpa [isTitle, Content.isBlankText] using plain
  | code | fence => cases text

/-- The contents of an item are split. -/
theorem Item.splits (item : Item) : Splits item.gathered.contents.reverse item.choice := by
  obtain ⟨front, titled, split, plain, title⟩ := exists_split item.gathered.contents.reverse
  have made := choice_of_split plain title split
  have guards : Guards front item.choice :=
    { plain := fun content member => blank_of_not_title (plain content member)
      directives := by rw [made, directives_eq]
      preconditions := by
        rw [made]
        exact List.filter_congr fun content _ => isPrecondition_eq content }
  cases titled with
  | nil =>
      rw [List.append_nil] at split
      rw [← split] at guards
      exact .untitled guards (by rw [made]; rfl) (by rw [made]; rfl)
  | cons content back =>
      have is_title := title content rfl
      cases content with
      | text run =>
          refine .titled split guards ?_ (by rw [made]; rfl) (by rw [made]; rfl)
          simpa [isTitle] using is_title
      | code | fence => cases is_title

/-- A text that starts with a character that is not blank has a word. -/
theorem words_ne_nil {text : String} {c : Char} (starts : text.toList.head? = some c)
    (shown : Text.isBlank c = false) : Text.words text ≠ [] := by
  obtain ⟨rest, same⟩ := List.head?_eq_some_iff.mp starts
  rw [Text.words, same, Ne, List.map_eq_nil_iff]
  cases rest with
  | nil => simp [Text.splitRuns, shown]
  | cons next rest =>
      rw [Text.splitRuns, if_neg (by rw [shown]; exact Bool.false_ne_true)]
      split
      · exact List.cons_ne_nil _ _
      · split <;> exact List.cons_ne_nil _ _

theorem Content.words_ne_nil {content : Content} (directive : content.isDirective = true) :
    content.words ≠ [] := by
  cases content with
  | code code span =>
      have starts : code.toList.head? = some '@' := of_decide_eq_true directive
      exact Story.words_ne_nil starts (by decide)
  | text | fence => cases directive

/-- What is in front of the title and not blank says directives or is a precondition. -/
theorem Guards.perm (guards : Guards front choice) :
    (front.filter fun content => !content.isBlankText).Perm
      (front.filter Content.isDirective ++ choice.preconditions) := by
  have shown : (front.filter fun content => !content.isBlankText) =
      front.filter fun content => !content.isText := by
    apply List.filter_congr
    intro content member
    cases text : content.isText with
    | true => rw [guards.plain content member text]
    | false => cases content <;> first | rfl | cases text
  have directing : (front.filter fun content => !content.isText).filter Content.isDirective =
      front.filter Content.isDirective := by
    rw [List.filter_filter]
    apply List.filter_congr
    intro content _
    cases content <;> simp [Content.isDirective, Content.isText]
  have others : ((front.filter fun content => !content.isText).filter
      fun content => !content.isDirective) = choice.preconditions := by
    rw [List.filter_filter, guards.preconditions]
    exact List.filter_congr fun content _ => Bool.and_comm _ _
  rw [shown, ← directing, ← others]
  exact (List.filter_append_perm _ _).symm

theorem Splits.placed (splits : Splits contents choice) : Placed contents choice := by
  have marked (front : List Content) :
      ∀ content ∈ front.filter Content.isDirective, content.words ≠ [] := by
    intro content member
    exact Content.words_ne_nil (List.mem_filter.mp member).2
  cases splits with
  | @titled front back run parts guards shown text effects =>
      refine ⟨front.filter Content.isDirective, some run, ?_, marked front, guards.directives, text⟩
      have title : ((Content.text run :: back).filter fun content => !content.isBlankText) =
          .text run :: choice.effects := by
        rw [effects, List.filter_cons_of_pos]
        rw [Content.isBlankText, shown]
        rfl
      rw [parts, List.filter_append, title]
      simpa using guards.perm.append_right _
  | untitled guards text effects =>
      refine ⟨contents.filter Content.isDirective, none, ?_, marked contents, guards.directives,
        text⟩
      simpa [effects] using guards.perm

end Splitting

/-! ## Options and items -/

/-- The contents of an item and of the blocks behind it. -/
def optionContents (source : String) (option : Node × List Node) : List Content :=
  blockContents source option.1 ++ option.2.flatMap (blockContents source)

/-- The destinations of the links in an item and in the blocks behind it. -/
def optionLinks (source : String) (option : Node × List Node) : List String :=
  blockLinks source option.1 ++ option.2.flatMap (blockLinks source)

/-- An option is made of an item and the blocks behind it. -/
structure MakesOption (source : String) (option : Node × List Node) (choice : Choice) : Prop where
  span : choice.span = option.1.span
  link : choice.link = (optionLinks source option).head?
  splits : Splits (optionContents source option) choice
  placed : Placed (optionContents source option) choice

/-- A state has the options of a chapter. -/
structure Chapter.Offers (source : String) (chapter : Chapter) (state : State) : Prop where
  name : state.name = chapter.name
  /-- There is one option for each item, in order. -/
  items : List.Forall₂ (fun item choice => choice.span = item.span) (bulletItems chapter.blocks)
    state.choices
  options : List.Forall₂ (MakesOption source) (optionsOf chapter.blocks) state.choices

section Making

variable {nodes : List Node} {option : Node × List Node}

theorem listOptions_items (items behind : List Node) :
    (listOptions items behind).map Prod.fst = items := by
  rcases List.eq_nil_or_concat' items with rfl | ⟨front, last, rfl⟩
  · rfl
  · simp [listOptions_concat, Function.comp_def]

theorem optionsOf_items (nodes : List Node) :
    (optionsOf nodes).map Prod.fst = bulletItems nodes := by
  induction nodes with
  | nil => rfl
  | cons node rest induction =>
      rw [optionsOf, List.map_append, listOptions_items, induction, bulletItems, bulletItems,
        List.flatMap_cons]

theorem blocksBehind_subset (nodes : List Node) : blocksBehind nodes ⊆ nodes := by
  induction nodes with
  | nil => exact List.Subset.refl _
  | cons node rest induction =>
      rw [blocksBehind]
      split
      · exact List.cons_subset_cons node induction
      · split
        · exact List.Subset.trans induction (List.subset_cons_self node rest)
        · exact List.nil_subset _

theorem listOptions_behind {items behind : List Node} (member : option ∈ listOptions items behind) :
    option.2 ⊆ behind := by
  rcases List.mem_append.mp member with front | last
  · obtain ⟨item, -, rfl⟩ := List.mem_map.mp front
    exact List.nil_subset behind
  · obtain ⟨item, -, rfl⟩ := List.mem_map.mp last
    exact List.Subset.refl behind

theorem optionsOf_behind (member : option ∈ optionsOf nodes) : option.2 ⊆ nodes := by
  induction nodes with
  | nil => cases member
  | cons node rest induction =>
      apply List.Subset.trans _ (List.subset_cons_self node rest)
      rcases List.mem_append.mp member with here | later
      · exact List.Subset.trans (listOptions_behind here) (blocksBehind_subset rest)
      · exact induction later

theorem bulletItems_regular (regular : Node.areRegular nodes = true) {item : Node}
    (member : item ∈ bulletItems nodes) : item.isRegular = true := by
  obtain ⟨node, among, inside⟩ := List.mem_flatMap.mp member
  have held := Node.areRegular_iff.mp regular node among
  unfold bullets? at inside
  split at inside
  · exact Node.areRegular_iff.mp (Node.isRegular_element_iff.mp held).2 item inside
  · cases inside

theorem optionItem_reverse (source : String) (item : option.1.isRegular = true)
    (behind : ∀ node ∈ option.2, node.isRegular = true) :
    (optionItem source option).gathered.contents.reverse = optionContents source option ∧
      (optionItem source option).gathered.links.reverse = optionLinks source option := by
  obtain ⟨contents, links⟩ :=
    (itemOf source option.1).behind_reverse (option.2.map (gatherNode source))
  rw [optionItem, contents, links, contentsOf, linksOf, List.flatMap_map, List.flatMap_map,
    List.flatMap_congr fun node member => (gatherNode_reverse (behind node member)).1,
    List.flatMap_congr fun node member => (gatherNode_reverse (behind node member)).2,
    itemOf, (gatherNode_reverse item).1, (gatherNode_reverse item).2]
  exact ⟨rfl, rfl⟩

theorem makesOption (regular : Node.areRegular nodes = true) (member : option ∈ optionsOf nodes) :
    MakesOption source option (optionItem source option).choice := by
  have item : option.1 ∈ bulletItems nodes := by
    rw [← optionsOf_items]
    exact List.mem_map_of_mem member
  have behind : ∀ node ∈ option.2, node.isRegular = true := fun node among =>
    Node.areRegular_iff.mp regular node (optionsOf_behind member among)
  obtain ⟨contents, links⟩ :=
    optionItem_reverse source (bulletItems_regular regular item) behind
  have splits := (optionItem source option).splits
  rw [contents] at splits
  exact { span := rfl, link := by rw [← links]; rfl, splits, placed := splits.placed }

end Making

section Offering

variable {nodes : List Node} {document : Document}

theorem Chapter.offers {chapter : Chapter} (regular : Node.areRegular chapter.blocks = true)
    (options : chapter.isSettings = false) : chapter.Offers source (chapter.part source).state := by
  have items : (chapter.part source).items =
      (optionsOf chapter.blocks).map (optionItem source) :=
    OpenSection.foldl_take_items options chapter.opening_empty.2
  have choices : (chapter.part source).state.choices =
      (optionsOf chapter.blocks).map fun option => (optionItem source option).choice := by
    rw [Section.state, items, List.map_map]
    rfl
  refine { name := chapter.part_name, items := ?_, options := ?_ }
  · rw [choices, ← optionsOf_items, List.forall₂_map_left_iff, List.forall₂_map_right_iff]
    exact List.forall₂_same.mpr fun option _ => rfl
  · rw [choices, List.forall₂_map_right_iff]
    exact List.forall₂_same.mpr fun option member => makesOption regular member

/-- The options of a state are the items of the bullet lists of its chapter, one for one and in
order.  The contents of an option are those of its item and of the blocks behind it, up to the next
item.  They are split at the first text that is not blank: it is the title, inline code in front of
it that starts with an at sign gives directives, other code in front of it preconditions, and what
is behind it effects.  So every content but blank text goes to exactly one place.  The link of an
option is the first one among its contents. -/
theorem options_split_items (regular : Node.areRegular nodes = true)
    (read : Document.ofEvents source (Node.eventsAll nodes) = .ok document) :
    List.Forall₂ (Chapter.Offers source)
      ((chapters source.utf8ByteSize nodes).filter fun chapter => !chapter.isSettings)
      document.states := by
  have settings : (fun part : Section => !part.isSettings) ∘ Chapter.part source =
      fun chapter => !chapter.isSettings := by
    rw [← Chapter.part_isSettings source]
    rfl
  rw [Document.states_ofSections read, sections_eq regular, List.filter_map, settings,
    List.map_map, List.forall₂_map_right_iff]
  refine List.forall₂_same.mpr fun chapter member => ?_
  obtain ⟨among, options⟩ := List.mem_filter.mp member
  exact Chapter.offers (blocks_regular regular among) (by simpa using options)

/-- A story with two lists and an ordered one between them: an option with a directive, a
precondition, a link and an effect, one that has its title behind it, and one that is a title. -/
def marketStory : String :=
  "# A\n\n- \x60@once\x60 \x601\x60 [Go](#B) \x602\x60\n- \x603\x60\n\n1. So\n\n* Stay\n"

/-- The nodes of this story. -/
def marketNodes : List Node :=
  [.element (.heading 1) ⟨0, 4⟩ [.leaf (.text "A") ⟨2, 3⟩],
    .element (.list none) ⟨5, 39⟩
      [.element .item ⟨5, 32⟩
        [.leaf (.code "@once") ⟨7, 14⟩, .leaf (.text " ") ⟨14, 15⟩, .leaf (.code "1") ⟨15, 18⟩,
          .leaf (.text " ") ⟨18, 19⟩, .element (.link "#B") ⟨19, 27⟩ [.leaf (.text "Go") ⟨20, 22⟩],
          .leaf (.text " ") ⟨27, 28⟩, .leaf (.code "2") ⟨28, 31⟩],
        .element .item ⟨32, 39⟩ [.leaf (.code "3") ⟨34, 37⟩]],
    .element (.list (some 1)) ⟨39, 46⟩ [.element .item ⟨39, 46⟩ [.leaf (.text "So") ⟨42, 44⟩]],
    .element (.list none) ⟨46, 53⟩ [.element .item ⟨46, 53⟩ [.leaf (.text "Stay") ⟨48, 52⟩]]]

theorem options_split_items_market :
    ∃ document, Document.ofEvents marketStory (Node.eventsAll marketNodes) = .ok document ∧
      document.states.map State.choices =
        [[⟨some "Go", some "#B", ["@once"], [.code "1" ⟨15, 18⟩], [.code "2" ⟨28, 31⟩], ⟨5, 32⟩⟩,
          ⟨some "So", none, [], [.code "3" ⟨34, 37⟩], [], ⟨32, 39⟩⟩,
          ⟨some "Stay", none, [], [], [], ⟨46, 53⟩⟩]] ∧
      List.Forall₂ (Chapter.Offers marketStory)
        ((chapters marketStory.utf8ByteSize marketNodes).filter fun chapter => !chapter.isSettings)
        document.states := by
  have regular : Node.areRegular marketNodes = true := by decide
  have told : (Document.ofEvents marketStory (Node.eventsAll marketNodes)).toOption.map
      (fun document => document.states.map State.choices) = some
        [[⟨some "Go", some "#B", ["@once"], [.code "1" ⟨15, 18⟩], [.code "2" ⟨28, 31⟩], ⟨5, 32⟩⟩,
          ⟨some "So", none, [], [.code "3" ⟨34, 37⟩], [], ⟨32, 39⟩⟩,
          ⟨some "Stay", none, [], [], [], ⟨46, 53⟩⟩]] := by
    decide +kernel
  cases read : Document.ofEvents marketStory (Node.eventsAll marketNodes) with
  | error errors =>
      rw [read] at told
      cases told
  | ok document =>
      rw [read] at told
      exact ⟨document, rfl, Option.some.inj told, options_split_items regular read⟩

end Offering

end Gamebook.Story
