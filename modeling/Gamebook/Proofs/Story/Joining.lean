import Gamebook.Proofs.Lists
import Gamebook.Proofs.Story.Chapters

/-!
# Content behind options

What follows the options of a section, up to the next option or the end of the section, belongs to
the last one.  It is effects if the option has a title.  An option without a title goes on in it:
its first text becomes the title, and the code in front of that text preconditions and directives.
-/

namespace Gamebook.Story

open Markdown (Event)
open Text (Span)

variable {source : String}

/-! ## What follows an option -/

/-- The blocks at the front of some events, up to a section or an option, and the events behind
them. -/
inductive Follows (source : String) : List Event → List Gathered → List Event → Prop
  | nil (events : List Event) : Follows source events [] events
  | block {event : Event} {rest last : List Event} {blocks : List Gathered}
      (no_heading : startsHeading event = false) (no_bullets : startsBullets event = false)
      (follows : Follows source (gatherBlock source (event :: rest)).2 blocks last) :
      Follows source (event :: rest) ((gatherBlock source (event :: rest)).1 :: blocks) last
  /-- A list without items starts no option. -/
  | empty {event : Event} {rest last : List Event} {blocks : List Gathered}
      (bullets : startsBullets event = true) (empty : (readItems source rest).1 = [])
      (follows : Follows source (readItems source rest).2 blocks last) :
      Follows source (event :: rest) blocks last

/-- What follows an option ends in front of some events: no event is left, or a section or an option
starts. -/
inductive Ends (source : String) : List Event → Prop
  | nil : Ends source []
  | heading {event : Event} {rest : List Event} (heading : startsHeading event = true) :
      Ends source (event :: rest)
  | bullets {event : Event} {rest : List Event} (bullets : startsBullets event = true)
      (listed : (readItems source rest).1 ≠ []) : Ends source (event :: rest)

/-- What follows an option ends somewhere. -/
theorem exists_follows (source : String) (events : List Event) :
    ∃ blocks rest, Follows source events blocks rest ∧ Ends source rest := by
  cases events with
  | nil => exact ⟨[], [], .nil [], .nil⟩
  | cons event rest =>
      cases heading : startsHeading event with
      | true => exact ⟨[], _, .nil _, .heading heading⟩
      | false =>
          cases bullets : startsBullets event with
          | false =>
              have shorter := gatherBlock_length source event rest
              obtain ⟨blocks, last, follows, ends⟩ :=
                exists_follows source (gatherBlock source (event :: rest)).2
              exact ⟨_, last, .block heading bullets follows, ends⟩
          | true =>
              by_cases listed : (readItems source rest).1 = []
              · have shorter := readItems_length source rest
                obtain ⟨blocks, last, follows, ends⟩ :=
                  exists_follows source (readItems source rest).2
                exact ⟨blocks, last, .empty bullets listed follows, ends⟩
              · exact ⟨[], _, .nil _, .bullets bullets listed⟩
termination_by events.length
decreasing_by all_goals simp only [List.length_cons]; omega

/-- An open section with items that were read before its own ones. -/
def OpenSection.withEarlier (opened : OpenSection) (old : List Item) : OpenSection :=
  { opened with items := opened.items ++ old }

section Reading

variable {opened : OpenSection} {item : Item} {others : List Item} {events rest : List Event}
  {blocks : List Gathered}

theorem OpenSection.add_name (opened : OpenSection) (gathered : Gathered) :
    (opened.add gathered).name = opened.name := by
  rw [add]
  split <;> rfl

/-- Blocks are added one after the other. -/
theorem Follows.readSections (follows : Follows source events blocks rest)
    (options : isSettingsName opened.name = false) :
    readSections source (some opened) events =
      readSections source (some (blocks.foldl OpenSection.add opened)) rest := by
  induction follows generalizing opened with
  | nil => rfl
  | block no_heading no_bullets _ induction =>
      rw [readSections_of_block no_heading (by rw [no_bullets]; rfl)]
      exact induction (by rwa [OpenSection.add_name])
  | empty bullets empty _ induction =>
      rw [readSections_of_bullets bullets (takesOptions_of_name options), empty]
      exact induction options

theorem OpenSection.withEarlier_add (nonempty : opened.items ≠ []) (old : List Item)
    (gathered : Gathered) :
    (opened.withEarlier old).add gathered = (opened.add gathered).withEarlier old := by
  obtain ⟨name, start, body, items⟩ := opened
  cases items with
  | nil => exact absurd rfl nonempty
  | cons => rfl

theorem OpenSection.add_items_ne_nil (nonempty : opened.items ≠ []) (gathered : Gathered) :
    (opened.add gathered).items ≠ [] ∧ (opened.add gathered).body = opened.body := by
  obtain ⟨name, start, body, items⟩ := opened
  cases items with
  | nil => exact absurd rfl nonempty
  | cons => exact ⟨List.cons_ne_nil _ _, rfl⟩

theorem OpenSection.withEarlier_addItems (old items : List Item) :
    (opened.withEarlier old).addItems items = (opened.addItems items).withEarlier old := by
  simp only [withEarlier, addItems, List.append_assoc]

/-- Items that were read before do not change if the section has others, or if what follows the last
of them ends; they do not matter for what is read besides, and the body does not change either. -/
theorem readSections_withEarlier (opened : OpenSection) (events : List Event)
    (options : isSettingsName opened.name = false)
    (settled : opened.items ≠ [] ∨ Ends source events) :
    ∃ (part : Section) (tail : List Section), part.body = opened.body ∧ ∀ old,
      readSections source (some (opened.withEarlier old)) events =
        { part with items := old.reverse ++ part.items } :: tail := by
  match events, settled with
  | [], _ =>
      refine ⟨opened.close source.utf8ByteSize, [], rfl, fun old => ?_⟩
      simp [readSections, closeSection, OpenSection.close, OpenSection.withEarlier]
  | event :: rest, settled =>
      cases heading : startsHeading event with
      | true =>
          refine ⟨opened.close event.span.start, readSections source
            (some ⟨Text.normalizeSpaces (headingText rest).1, event.span.start, [], []⟩)
            (headingText rest).2, rfl, fun old => ?_⟩
          rw [readSections_of_heading heading]
          simp only [closeSection, OpenSection.close, OpenSection.withEarlier, Option.map_some,
            Option.toList_some, List.singleton_append, List.reverse_append]
      | false =>
          cases bullets : startsBullets event with
          | true =>
              have shorter := readItems_length source rest
              have nonempty : (opened.addItems (readItems source rest).1).items ≠ [] := by
                -- A list without items is no end, but then there are items before it.
                rcases settled with nonempty | ends
                · simp [OpenSection.addItems, nonempty]
                · cases ends with
                  | heading starts => cases starts.symm.trans heading
                  | bullets _ listed => simp [OpenSection.addItems, listed]
              obtain ⟨part, tail, body, read⟩ :=
                readSections_withEarlier (opened.addItems (readItems source rest).1)
                  (readItems source rest).2 options (Or.inl nonempty)
              refine ⟨part, tail, body, fun old => ?_⟩
              have takes : takesOptions (some (opened.withEarlier old)) = true :=
                takesOptions_of_name options
              rw [readSections_of_bullets bullets takes, Option.map_some,
                OpenSection.withEarlier_addItems, read]
          | false =>
              have nonempty : opened.items ≠ [] := by
                rcases settled with nonempty | ends
                · exact nonempty
                · cases ends with
                  | heading starts => cases starts.symm.trans heading
                  | bullets starts => cases starts.symm.trans bullets
              have shorter := gatherBlock_length source event rest
              obtain ⟨still_nonempty, same⟩ := OpenSection.add_items_ne_nil nonempty
                (gatherBlock source (event :: rest)).1
              obtain ⟨part, tail, body, read⟩ :=
                readSections_withEarlier (opened.add (gatherBlock source (event :: rest)).1)
                  (gatherBlock source (event :: rest)).2 (by rwa [OpenSection.add_name])
                  (Or.inl still_nonempty)
              refine ⟨part, tail, body.trans same, fun old => ?_⟩
              rw [readSections_of_block heading (by rw [bullets]; rfl), Option.map_some,
                OpenSection.withEarlier_add nonempty, read]
termination_by events.length
decreasing_by all_goals simp only [List.length_cons]; omega

end Reading

/-! ## Options that go on -/

/-- The contents of blocks in a row. -/
def contentsOf (blocks : List Gathered) : List Content :=
  blocks.flatMap fun block => block.contents.reverse

/-- The destinations of the links of blocks in a row. -/
def linksOf (blocks : List Gathered) : List String :=
  blocks.flatMap fun block => block.links.reverse

/-- Blocks in a row as an item of their own. -/
def itemOfBlocks (blocks : List Gathered) (span : Span) : Item :=
  ⟨⟨(contentsOf blocks).reverse, (linksOf blocks).reverse, false⟩, span⟩

section Choice

variable {item : Item} {front titled : List Content}

/-- An item with blocks behind it. -/
def Item.behind (item : Item) (blocks : List Gathered) : Item :=
  { item with gathered := blocks.foldl Gathered.append item.gathered }

theorem Item.behind_reverse (item : Item) (blocks : List Gathered) :
    (item.behind blocks).gathered.contents.reverse =
        item.gathered.contents.reverse ++ contentsOf blocks ∧
      (item.behind blocks).gathered.links.reverse =
        item.gathered.links.reverse ++ linksOf blocks := by
  induction blocks generalizing item with
  | nil => simp [behind, contentsOf, linksOf]
  | cons block blocks induction =>
      obtain ⟨contents, links⟩ := induction { item with gathered := item.gathered.append block }
      simp only [behind, List.foldl_cons] at contents links ⊢
      rw [contents, links]
      simp [Gathered.append, contentsOf, linksOf]

/-- What an item makes of the contents up to the title and of those from the title on. -/
theorem Item.choice_of_split (plain : ∀ content ∈ front, isTitle content = false)
    (title : ∀ content ∈ titled.head?, isTitle content = true)
    (split : item.gathered.contents.reverse = front ++ titled) :
    item.choice =
      { text := titleOf titled, link := item.gathered.links.reverse.head?
        directives := front.flatMap directivesOf, preconditions := front.filter isPrecondition
        effects := (titled.drop 1).filter fun content => !content.isBlankText
        span := item.span } := by
  have others : ∀ content ∈ front, (!isTitle content) = true := by simpa using plain
  have ends : titled.takeWhile (fun content => !isTitle content) = [] ∧
      titled.dropWhile (fun content => !isTitle content) = titled := by
    cases titled with
    | nil => exact ⟨rfl, rfl⟩
    | cons content rest => simp [title content rfl]
  simp only [Item.choice, split]
  rw [List.takeWhile_append_of_pos others, List.dropWhile_append_of_pos others, ends.1, ends.2,
    List.append_nil]

/-- The contents of an item are those up to the title and those from the title on. -/
theorem Item.exists_split (contents : List Content) :
    ∃ front titled, contents = front ++ titled ∧ (∀ content ∈ front, isTitle content = false) ∧
      ∀ content ∈ titled.head?, isTitle content = true := by
  obtain ⟨front, titled, split, plain, title⟩ :=
    exists_front (fun content => isTitle content = false) contents
  exact ⟨front, titled, split, plain, by simpa using title⟩

theorem titleOf_eq_none_iff (title : ∀ content ∈ titled.head?, isTitle content = true) :
    titleOf titled = none ↔ titled = [] := by
  cases titled with
  | nil => simp [titleOf]
  | cons content rest =>
      have first := title content rfl
      cases content with
      | text run => simp [titleOf]
      | code | fence => cases first

theorem titleOf_append (nonempty : titled ≠ []) (later : List Content) :
    titleOf (titled ++ later) = titleOf titled := by
  cases titled with
  | nil => exact absurd rfl nonempty
  | cons content rest => cases content <;> rfl

/-- What stands behind an option with a title are effects; its first link is that of the option if
the option has none. -/
theorem Item.choice_behind_title (titled : item.choice.text ≠ none) (blocks : List Gathered) :
    (item.behind blocks).choice =
      { item.choice with
        link := item.choice.link.or (linksOf blocks).head?
        effects := item.choice.effects ++
          (contentsOf blocks).filter fun content => !content.isBlankText } := by
  obtain ⟨contents, links⟩ := item.behind_reverse blocks
  obtain ⟨front, back, split, plain, title⟩ := exists_split item.gathered.contents.reverse
  have own := choice_of_split plain title split
  rw [own, Ne, titleOf_eq_none_iff title] at titled
  have effects : (back ++ contentsOf blocks).drop 1 = back.drop 1 ++ contentsOf blocks :=
    List.drop_append_of_le_length (List.length_pos_iff.mpr titled)
  have title_behind : ∀ content ∈ (back ++ contentsOf blocks).head?, isTitle content = true := by
    rwa [List.head?_append_of_ne_nil _ titled]
  rw [split, List.append_assoc] at contents
  rw [choice_of_split plain title_behind contents, own, links, List.head?_append,
    titleOf_append titled, effects, List.filter_append]
  rfl

/-- An option without a title goes on in what stands behind it. -/
theorem Item.choice_behind_no_title (untitled : item.choice.text = none) (blocks : List Gathered) :
    (item.behind blocks).choice =
      { (itemOfBlocks blocks item.span).choice with
        link := item.choice.link.or (linksOf blocks).head?
        directives := item.choice.directives ++ (itemOfBlocks blocks item.span).choice.directives
        preconditions :=
          item.choice.preconditions ++ (itemOfBlocks blocks item.span).choice.preconditions } := by
  obtain ⟨contents, links⟩ := item.behind_reverse blocks
  obtain ⟨front, back, split, plain, title⟩ := exists_split item.gathered.contents.reverse
  have own := choice_of_split plain title split
  rw [own, titleOf_eq_none_iff title] at untitled
  subst untitled
  obtain ⟨later, titled, split_behind, plain_behind, title_behind⟩ :=
    exists_split (contentsOf blocks)
  have more : (itemOfBlocks blocks item.span).gathered.contents.reverse = later ++ titled := by
    rw [← split_behind]
    exact List.reverse_reverse _
  rw [split, List.append_nil, split_behind, ← List.append_assoc] at contents
  have plain_all := List.forall_mem_append.mpr ⟨plain, plain_behind⟩
  rw [choice_of_split plain_all title_behind contents, own, links, List.head?_append,
    choice_of_split plain_behind title_behind more, List.flatMap_append, List.filter_append]
  rfl

end Choice

/-! ## The last option of a section -/

section Joining

variable {opened : OpenSection} {item : Item} {others : List Item} {events rest : List Event}
  {blocks : List Gathered}

/-- Blocks behind an item are added to the item. -/
theorem addAll_items (items : opened.items = item :: others) (blocks : List Gathered) :
    blocks.foldl OpenSection.add opened =
      { opened with items := item.behind blocks :: others } := by
  induction blocks generalizing opened item with
  | nil =>
      have same : item.behind [] = item := rfl
      rw [List.foldl_nil, same, ← items]
  | cons block blocks induction =>
      have added : opened.add block = { opened with
          items := { item with gathered := item.gathered.append block } :: others } := by
        rw [OpenSection.add, items]
      rw [List.foldl_cons, added, induction rfl]
      rfl

/-- What becomes of the content between the last option read of a state and the next option, section
or end of the story.  A reading that leaves the content out gives the same sections, but for the
option.  With it the title, the directives and the preconditions of the option stay as they are and
the effects go on in the content, if the option has a title; if it has none, the content goes on
like the option itself. -/
theorem content_joins_last_option (options : isSettingsName opened.name = false)
    (last : opened.items = item :: others) (follows : Follows source events blocks rest)
    (ends : Ends source rest) :
    ∃ (part changed : Section) (tail : List Section) (more : List Choice) (joined : Choice),
      readSections source (some opened) rest = part :: tail ∧
      readSections source (some opened) events = changed :: tail ∧
      part.state.body = opened.body ∧
      part.state.choices = others.reverse.map Item.choice ++ item.choice :: more ∧
      changed.state =
        { part.state with choices := others.reverse.map Item.choice ++ joined :: more } ∧
      (item.choice.text ≠ none → joined =
        { item.choice with
          link := item.choice.link.or (linksOf blocks).head?
          effects := item.choice.effects ++
            (contentsOf blocks).filter fun content => !content.isBlankText }) ∧
      (item.choice.text = none → joined =
        { (itemOfBlocks blocks item.span).choice with
          link := item.choice.link.or (linksOf blocks).head?
          directives := item.choice.directives ++ (itemOfBlocks blocks item.span).choice.directives
          preconditions := item.choice.preconditions ++
            (itemOfBlocks blocks item.span).choice.preconditions }) := by
  obtain ⟨part, tail, body, read⟩ :=
    readSections_withEarlier { opened with items := [] } rest options (Or.inr ends)
  have before : readSections source (some opened) rest =
      { part with items := others.reverse ++ item :: part.items } :: tail := by
    have same : OpenSection.withEarlier { opened with items := [] } (item :: others) = opened := by
      rw [OpenSection.withEarlier, List.nil_append, ← last]
    rw [← same, read, List.reverse_cons, List.append_assoc, List.singleton_append]
  have behind : readSections source (some opened) events =
      { part with items := others.reverse ++ item.behind blocks :: part.items } :: tail := by
    rw [follows.readSections options, addAll_items last]
    have same := read (item.behind blocks :: others)
    rwa [List.reverse_cons, List.append_assoc] at same
  refine ⟨_, _, tail, part.items.map Item.choice, (item.behind blocks).choice, before, behind, body,
    ?_, ?_, fun titled => item.choice_behind_title titled blocks,
    fun untitled => item.choice_behind_no_title untitled blocks⟩
  · simp only [Section.state, List.map_append, List.map_cons]
  · simp only [Section.state, List.map_append, List.map_cons]

/-- A story in which a paragraph follows an option. -/
def walkStory : String := "# A\n\n- Go\n\nYou walk away.\n"

/-- The paragraph. -/
def walkEvents : List Event :=
  [⟨.start .paragraph, ⟨11, 26⟩⟩, ⟨.text "You walk away.", ⟨11, 25⟩⟩, ⟨.stop .paragraph, ⟨11, 26⟩⟩]

/-- The section in front of the paragraph. -/
def walkSection : OpenSection :=
  ⟨"A", 0, [], [⟨⟨[.text ⟨"Go", "Go", .plain, true, ⟨7, 9⟩⟩], [], false⟩, ⟨5, 11⟩⟩]⟩

theorem content_joins_last_option_walk :
    ∃ changed tail more,
      readSections walkStory (some walkSection) walkEvents = changed :: tail ∧
      changed.state.choices = ⟨some "Go", none, [], [],
        [.text ⟨"You walk away.", "You walk away.", .plain, true, ⟨11, 25⟩⟩], ⟨5, 11⟩⟩ :: more := by
  have options : isSettingsName walkSection.name = false := by decide +kernel
  have follows : Follows walkStory walkEvents [(gatherBlock walkStory walkEvents).1] [] :=
    .block rfl rfl (.nil [])
  obtain ⟨part, changed, tail, more, joined, -, read, -, -, changes, effects, -⟩ :=
    content_joins_last_option options rfl follows .nil
  refine ⟨changed, tail, more, read, ?_⟩
  have choice : joined = ⟨some "Go", none, [], [],
      [.text ⟨"You walk away.", "You walk away.", .plain, true, ⟨11, 25⟩⟩], ⟨5, 11⟩⟩ := by
    rw [effects (by decide +kernel)]
    decide +kernel
  rw [changes, choice]
  rfl

/-- Content behind an option without a title is not among its effects: its text becomes the
title. -/
theorem content_becomes_title :
    (Document.read "# A\n\n- \x601\x60\n").toOption.map Document.states =
      some [⟨"A", [], [⟨none, none, [], [.code "1" ⟨7, 10⟩], [], ⟨5, 11⟩⟩], ⟨0, 11⟩⟩] ∧
    (Document.read "# A\n\n- \x601\x60\n\nYou walk away.\n").toOption.map Document.states =
      some [⟨"A", [],
        [⟨some "You walk away.", none, [], [.code "1" ⟨7, 10⟩], [], ⟨5, 12⟩⟩], ⟨0, 27⟩⟩] := by
  constructor
  · decide +kernel
  · decide +kernel

end Joining

end Gamebook.Story
