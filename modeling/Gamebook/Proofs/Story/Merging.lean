import Gamebook.Json.Printer
import Gamebook.Proofs.Story.Parts
import Gamebook.Proofs.Story.Places
import Gamebook.Proofs.Tables

/-!
# Settings of a story

The entries of the settings are the inline code and the code blocks in the chapters of settings, but
for remarks.  A story whose entries are all JSON objects has these merged, and of the entries with a
key the last one counts.  Otherwise there is one error for each entry that is no object, in order.
-/

namespace Gamebook

namespace Story

open Markdown (Event EventKind Node Tag)
open Text (Span)

variable {source : String}

/-! ## Entries -/

mutual

/-- The inline code and the code blocks at or inside a node, in order; remarks do not count. -/
def entriesAt : Node → List (String × Span)
  | .leaf (.code code) span => [(code, span)]
  | .leaf _ _ => []
  | .element (.codeBlock info) span children =>
    if Gathering.languageOf info = some "comment" then []
    else [(Gathering.textOf (Node.eventsAll children), span)]
  | .element _ _ children => entriesIn children

/-- The inline code and the code blocks at or inside some nodes, in order. -/
def entriesIn : List Node → List (String × Span)
  | [] => []
  | node :: rest => entriesAt node ++ entriesIn rest

end

/-- The entries of the settings of a story: those in its chapters of settings, in order. -/
def settingsEntries (size : Nat) (nodes : List Node) : List (String × Span) :=
  ((chapters size nodes).filter Chapter.isSettings).flatMap fun chapter => entriesIn chapter.blocks

/-- Whether a text is a JSON object. -/
def isObject (text : String) : Bool :=
  match Json.read text with
  | some (.object _) => true
  | _ => false

/-- What is wrong with an entry that is no JSON object. -/
inductive Unreadable : String × Span → EntryError → Prop
  | other {text : String} {span : Span} {json : Json} (read : Json.read text = some json)
      (other : ∀ members, json ≠ .object members) : Unreadable (text, span) ⟨.notAnObject, span⟩
  | text {text : String} {span : Span} (unread : Json.read text = none) :
      Unreadable (text, span) ⟨.invalidJson, span⟩

/-- An entry is an object that has a value under a key. -/
def Binds (entry : String × Span) (key : String) (value : Json) : Prop :=
  ∃ members, Json.read entry.1 = some (.object members) ∧
    (Json.toTable members).get? key = some value

/-- The last of some entries with a key has a value under it. -/
def BindsLast (entries : List (String × Span)) (key : String) (value : Json) : Prop :=
  ∃ before entry after, entries = before ++ entry :: after ∧ Binds entry key value ∧
    ∀ later ∈ after, ∀ other, ¬Binds later key other

section Contents

variable {style : Style}

/-- A run of text holds no entry, so the entries are those of the parts. -/
theorem entries_assemble (parts : List Part) :
    (assemble source style parts).filterMap entry? =
      (parts.flatMap Part.contents).filterMap entry? := by
  have each : ∀ group ∈ parts.splitBy Part.joins,
      (groupContents source style group).filterMap entry? =
        (group.flatMap Part.contents).filterMap entry? := by
    intro group member
    have nonempty : group ≠ [] := by
      rintro rfl
      exact List.nil_notMem_splitBy Part.joins parts member
    rcases group_cases nonempty (List.isChain_of_mem_splitBy member) with
      ⟨first, rest, rfl⟩ | ⟨contents, links, rfl⟩
    · have silent : ((first :: rest).map Part.piece).flatMap Part.contents = [] := by
        rw [List.flatMap_map, List.flatMap_eq_nil_iff]
        exact fun _ _ => rfl
      rw [groupContents_pieces, silent]
      rfl
    · rw [groupContents_whole, List.flatMap_cons, List.flatMap_nil, List.append_nil]
      rfl
  calc
    (assemble source style parts).filterMap entry? = (parts.splitBy Part.joins).flatMap
        fun group => (group.flatMap Part.contents).filterMap entry? := by
      rw [assemble, List.filterMap_flatMap, List.flatMap_congr each]
    _ = ((parts.splitBy Part.joins).flatten.flatMap Part.contents).filterMap entry? := by
      rw [List.flatten_eq_flatMap, List.flatMap_assoc, List.filterMap_flatMap]
      rfl
    _ = (parts.flatMap Part.contents).filterMap entry? := by rw [List.flatten_splitBy]

theorem entries_enclose (tag : Tag) (contents : List Content) :
    (enclose tag contents).filterMap entry? = contents.filterMap entry? := by
  have same (content : Content) : entry? content.endParagraph = entry? content := by
    cases content <;> rfl
  rcases List.eq_nil_or_concat' contents with rfl | ⟨front, last, rfl⟩
  · cases tag <;> rfl
  · cases tag <;> simp [enclose, List.filterMap_cons, same]

theorem entry?_fence (language : Option String) (code : String) (span : Span) :
    entry? (.fence language code span) =
      if language = some "comment" then none else some (code, span) := by
  by_cases remark : language = some "comment"
  · rw [if_pos remark, remark]
    rfl
  · have kept : (Content.fence language code span).isComment = false := by
      unfold Content.isComment
      split
      · rename_i same
        cases same
        exact absurd rfl remark
      · rfl
    rw [if_neg remark, entry?, kept]
    rfl

/-- The entries among what an element gives are those in it, if so is what is inside it. -/
theorem entries_element {tag : Tag} {span : Span} {children : List Node}
    (inside : ∀ {style : Style},
      ((partsOf source style children).flatMap Part.contents).filterMap entry? =
        entriesIn children) :
    (partOf source style (.element tag span children)).contents.filterMap entry? =
      entriesAt (.element tag span children) := by
  have held (style : Style) : (enclose tag (assemble source style
      (partsOf source style children))).filterMap entry? = entriesIn children := by
    rw [entries_enclose, entries_assemble, inside]
  cases tag with
  | codeBlock info =>
      by_cases remark : Gathering.languageOf info = some "comment" <;>
        simp [partOf, entriesAt, Part.contents, entry?_fence, remark]
  | _ => exact held _

/-- The entries among what nodes give are those at or inside the nodes. -/
theorem entries_parts (nodes : List Node) :
    ((partsOf source style nodes).flatMap Part.contents).filterMap entry? = entriesIn nodes := by
  induction nodes using Node.forest_induction generalizing style with
  | nil => rfl
  | leaf kind span rest behind =>
      rw [partsOf, List.flatMap_cons, List.filterMap_append, behind, entriesIn]
      cases kind <;> rfl
  | element tag span children rest inside behind =>
      rw [partsOf, List.flatMap_cons, List.filterMap_append, behind, entriesIn,
        entries_element inside]

theorem entries_block (node : Node) :
    (blockContents source node).filterMap entry? = entriesAt node := by
  have parts : ((partsOf source .plain [node]).flatMap Part.contents).filterMap entry? =
      entriesIn [node] := entries_parts [node]
  rw [blockContents, entries_assemble]
  simpa [partsOf, entriesIn] using parts

end Contents

/-! ## Reading entries -/

section Reading

variable {entry : String × Span} {entries : List (String × Span)} {error : EntryError}
  {errors : List EntryError} {key : String} {value : Json}

theorem readEntry_of_object (object : isObject entry.1 = true) :
    ∃ members, Json.read entry.1 = some (.object members) ∧
      readEntry entry = .ok (Json.toTable members) := by
  unfold isObject at object
  split at object
  · rename_i members read
    exact ⟨members, read, by rw [readEntry, read]⟩
  · cases object

theorem readEntry_of_other (other : isObject entry.1 = false) :
    ∃ error, readEntry entry = .error error := by
  cases outcome : readEntry entry with
  | error error => exact ⟨error, rfl⟩
  | ok table =>
      rw [readEntry] at outcome
      split at outcome
      · rename_i members read
        rw [isObject, read] at other
        cases other
      all_goals cases outcome

theorem unreadable_iff : Unreadable entry error ↔ readEntry entry = .error error := by
  constructor
  · rintro (⟨read, other⟩ | unread)
    · rw [readEntry, read]
      dsimp only
      split
      · rename_i members same
        cases same
        exact absurd rfl (other members)
      · rfl
      · rename_i same
        cases same
    · rw [readEntry, unread]
  · obtain ⟨text, span⟩ := entry
    intro fails
    rw [readEntry] at fails
    split at fails
    · cases fails
    · rename_i json other read
      cases fails
      exact .other read other
    · rename_i unread
      cases fails
      exact .text unread

/-- There is one error for each entry that is no object. -/
theorem unreadables_iff :
    List.Forall₂ Unreadable (entries.filter fun entry => !isObject entry.1) errors ↔
      errors = (partitionOutcomes (entries.map readEntry)).1 := by
  induction entries generalizing errors with
  | nil => exact List.forall₂_nil_left_iff
  | cons entry rest induction =>
      rw [List.map_cons]
      cases object : isObject entry.1 with
      | true =>
          obtain ⟨members, -, read⟩ := readEntry_of_object object
          rw [List.filter_cons_of_neg (by simp [object]), induction, read]
          rfl
      | false =>
          obtain ⟨error, fails⟩ := readEntry_of_other object
          rw [List.filter_cons_of_pos (by simp [object]), fails, List.forall₂_cons_left_iff]
          constructor
          · rintro ⟨found, others, first, behind, rfl⟩
            cases fails.symm.trans (unreadable_iff.mp first)
            rw [induction.mp behind]
            rfl
          · rintro rfl
            exact ⟨error, _, unreadable_iff.mpr fails, induction.mpr rfl, rfl⟩

/-- Without an error every entry is read as a table. -/
theorem tables_of_readable (readable : (partitionOutcomes (entries.map readEntry)).1 = []) :
    List.Forall₂ (fun entry table => readEntry entry = .ok table) entries
      (partitionOutcomes (entries.map readEntry)).2 := by
  induction entries with
  | nil => exact .nil
  | cons entry rest induction =>
      rw [List.map_cons] at readable ⊢
      cases outcome : readEntry entry with
      | error error =>
          rw [outcome] at readable
          cases readable
      | ok table =>
          rw [outcome] at readable
          exact .cons outcome (induction readable)

/-- An entry that is read as a table has the values of the table. -/
theorem binds_iff {table : Table Json} (read : readEntry entry = .ok table) :
    Binds entry key value ↔ table.get? key = some value := by
  rw [readEntry] at read
  split at read
  · rename_i members object
    cases read
    constructor
    · rintro ⟨others, same, holds⟩
      cases object.symm.trans same
      exact holds
    · exact fun holds => ⟨members, object, holds⟩
  all_goals cases read

theorem bindsLast_cons_iff : BindsLast (entry :: entries) key value ↔
    BindsLast entries key value ∨
      Binds entry key value ∧ ∀ later ∈ entries, ∀ other, ¬Binds later key other := by
  constructor
  · rintro ⟨before, bound, after, split, holds, none⟩
    cases before with
    | nil =>
        obtain ⟨rfl, rfl⟩ := List.cons.inj split
        exact Or.inr ⟨holds, none⟩
    | cons first before =>
        obtain ⟨rfl, rfl⟩ := List.cons.inj split
        exact Or.inl ⟨before, bound, after, rfl, holds, none⟩
  · rintro (⟨before, bound, after, rfl, holds, none⟩ | ⟨holds, none⟩)
    · exact ⟨entry :: before, bound, after, rfl, holds, none⟩
    · exact ⟨[], entry, entries, rfl, holds, none⟩

/-- Merging entries into a table, the last one with a key counts; without one the table does. -/
theorem get?_merged {tables : List (Table Json)}
    (read : List.Forall₂ (fun entry table => readEntry entry = .ok table) entries tables)
    (start : Table Json) :
    (tables.foldl (fun merged table => merged.insertAll table.entries) start).get? key =
        some value ↔
      BindsLast entries key value ∨
        (∀ later ∈ entries, ∀ other, ¬Binds later key other) ∧ start.get? key = some value := by
  induction read generalizing start with
  | nil => simp [BindsLast]
  | @cons entry table entries tables first _ induction =>
      have binds (value : Json) : Binds entry key value ↔ _ := binds_iff first
      rw [List.foldl_cons, induction, Table.get?_insertAll table.increasing, ← Table.get?,
        bindsLast_cons_iff, List.forall_mem_cons]
      simp only [binds]
      cases table.get? key with
      | some bound => simp [and_comm, or_comm]
      | none => simp

end Reading

/-! ## The settings of a document -/

section Settings

variable {nodes : List Node} {entries : List (String × Span)}

theorem entries_blocks (nodes : List Node) :
    (nodes.flatMap (blockContents source)).filterMap entry? = entriesIn nodes := by
  induction nodes with
  | nil => rfl
  | cons node rest induction =>
      rw [List.flatMap_cons, List.filterMap_append, entries_block, induction, entriesIn]

theorem Chapter.entries_part {chapter : Chapter} (regular : Node.areRegular chapter.blocks = true)
    (settings : chapter.isSettings = true) :
    (chapter.part source).body.filterMap entry? = entriesIn chapter.blocks := by
  have body : (chapter.part source).body = chapter.blocks.flatMap (blockContents source) := by
    obtain ⟨no_body, no_items⟩ := chapter.opening_empty
    rw [part, OpenSection.foldl_take_settings settings no_items regular, OpenSection.close, no_body,
      List.nil_append]
  rw [body, entries_blocks]

/-- The entries of the sections of settings are those of the chapters. -/
theorem entries_sections (regular : Node.areRegular nodes = true) :
    ((sections source (Node.eventsAll nodes)).filter Section.isSettings).flatMap
        (fun part => part.body.filterMap entry?) =
      settingsEntries source.utf8ByteSize nodes := by
  rw [sections_eq regular, List.filter_map, Chapter.part_isSettings, List.flatMap_map,
    settingsEntries]
  refine List.flatMap_congr fun chapter member => ?_
  obtain ⟨among, holds⟩ := List.mem_filter.mp member
  exact Chapter.entries_part (blocks_regular regular among) holds

/-- A document has the merged tables of its entries, if all of them are read; else all errors are
told. -/
theorem Document.ofSections_cases {parts : List Section}
    (found : ((parts.filter Section.isSettings).flatMap fun part => part.body.filterMap entry?) =
      entries) :
    ((partitionOutcomes (entries.map readEntry)).1 = [] ∧ ∃ document,
      Document.ofSections parts = .ok document ∧ document.settings =
        (partitionOutcomes (entries.map readEntry)).2.foldl
          (fun merged table => merged.insertAll table.entries) Table.empty) ∨
    (partitionOutcomes (entries.map readEntry)).1 ≠ [] ∧
      Document.ofSections parts = .error (partitionOutcomes (entries.map readEntry)).1 := by
  simp only [ofSections, found]
  cases errors : (partitionOutcomes (entries.map readEntry)).1 with
  | nil => exact Or.inl ⟨rfl, _, rfl, rfl⟩
  | cons error rest => exact Or.inr ⟨List.cons_ne_nil _ _, rfl⟩

/-- The entries of the settings are the inline code and the code blocks in the chapters of settings,
but for remarks.  Either all of them are JSON objects: then there is a document, and its settings
have under each key the value of the last entry with the key.  Or there is one error for each entry
that is no object, in order, and no document. -/
theorem objects_merged_or_reported (regular : Node.areRegular nodes = true) :
    (∀ errors, Document.ofEvents source (Node.eventsAll nodes) = .error errors ↔
      errors ≠ [] ∧ List.Forall₂ Unreadable
        ((settingsEntries source.utf8ByteSize nodes).filter fun entry => !isObject entry.1)
        errors) ∧
    ((∃ document, Document.ofEvents source (Node.eventsAll nodes) = .ok document) ↔
      ∀ entry ∈ settingsEntries source.utf8ByteSize nodes, isObject entry.1 = true) ∧
    ∀ document, Document.ofEvents source (Node.eventsAll nodes) = .ok document →
      ∀ key value, document.settings.get? key = some value ↔
        BindsLast (settingsEntries source.utf8ByteSize nodes) key value := by
  have readable_iff : (partitionOutcomes ((settingsEntries source.utf8ByteSize nodes).map
      readEntry)).1 = [] ↔ ∀ entry ∈ settingsEntries source.utf8ByteSize nodes,
        isObject entry.1 = true := by
    rw [eq_comm, ← unreadables_iff, List.forall₂_nil_right_iff, List.filter_eq_nil_iff]
    simp
  simp only [unreadables_iff, ← readable_iff]
  rcases Document.ofSections_cases (entries_sections regular) with
    ⟨readable, document, made, settings⟩ | ⟨unreadable, failed⟩
  · refine ⟨fun errors => ?_, ?_, ?_⟩
    · rw [Document.ofEvents, made, readable]
      exact ⟨nofun, fun ⟨nonempty, empty⟩ => absurd empty nonempty⟩
    · exact ⟨fun _ => readable, fun _ => ⟨document, made⟩⟩
    · intro other read key value
      cases made.symm.trans read
      rw [settings, get?_merged (tables_of_readable readable), Table.get?_empty]
      simp
  · refine ⟨fun errors => ?_, ?_, ?_⟩
    · rw [Document.ofEvents, failed]
      constructor
      · rintro ⟨⟩
        exact ⟨unreadable, rfl⟩
      · rintro ⟨-, rfl⟩
        rfl
    · constructor
      · rintro ⟨document, read⟩
        cases failed.symm.trans read
      · exact fun readable => absurd readable unreadable
    · intro document read
      cases failed.symm.trans read

/-- A story with settings in a list at its start and in a code block at its end, with a remark. -/
def ledgerStory : String :=
  "# QUESTMARK-OPTIONS-HEADER\n\n- \x60\x7b\"y\": \x7b\"a\": 1\x7d\x7d\x60\n\n# A\n\n\x60no\x60\n\n" ++
    "# QUESTMARK-OPTIONS-HEADER\n\n~~~\n\x7b\"y\": \x7b\x7d\x7d\n~~~\n\n~~~comment\nno\n~~~\n"

/-- The nodes of this story. -/
def ledgerNodes : List Node :=
  [.element (.heading 1) ⟨0, 27⟩ [.leaf (.text "QUESTMARK-OPTIONS-HEADER") ⟨2, 26⟩],
    .element (.list none) ⟨28, 49⟩
      [.element .item ⟨28, 49⟩ [.leaf (.code "\x7b\"y\": \x7b\"a\": 1\x7d\x7d") ⟨30, 47⟩]],
    .element (.heading 1) ⟨49, 53⟩ [.leaf (.text "A") ⟨51, 52⟩],
    .element .paragraph ⟨54, 59⟩ [.leaf (.code "no") ⟨54, 58⟩],
    .element (.heading 1) ⟨60, 87⟩ [.leaf (.text "QUESTMARK-OPTIONS-HEADER") ⟨62, 86⟩],
    .element (.codeBlock (some "")) ⟨88, 105⟩
      [.leaf (.text "\x7b\"y\": \x7b\x7d\x7d\n") ⟨92, 102⟩],
    .element (.codeBlock (some "comment")) ⟨107, 124⟩ [.leaf (.text "no\n") ⟨118, 121⟩]]

/-- A story with an entry that is no object, one that is, and one that is no JSON. -/
def slipStory : String := "# QUESTMARK-OPTIONS-HEADER\n\n\x60[]\x60 \x60\x7b\x7d\x60 \x60\x7b\x60\n"

/-- The nodes of this story. -/
def slipNodes : List Node :=
  [.element (.heading 1) ⟨0, 27⟩ [.leaf (.text "QUESTMARK-OPTIONS-HEADER") ⟨2, 26⟩],
    .element .paragraph ⟨28, 42⟩
      [.leaf (.code "[]") ⟨28, 32⟩, .leaf (.text " ") ⟨32, 33⟩, .leaf (.code "\x7b\x7d") ⟨33, 37⟩,
        .leaf (.text " ") ⟨37, 38⟩, .leaf (.code "\x7b") ⟨38, 41⟩]]

/-- The object under the key is replaced by the last entry, not merged; and both errors are told. -/
theorem objects_merged_or_reported_ledger :
    (∃ document json, Document.ofEvents ledgerStory (Node.eventsAll ledgerNodes) = .ok document ∧
      document.settings.get? "y" = some json ∧ json.compact = "\x7b\x7d" ∧
      BindsLast (settingsEntries ledgerStory.utf8ByteSize ledgerNodes) "y" json) ∧
    ∃ errors, Document.ofEvents slipStory (Node.eventsAll slipNodes) = .error errors ∧
      errors = [⟨.notAnObject, ⟨28, 32⟩⟩, ⟨.invalidJson, ⟨38, 41⟩⟩] ∧
      List.Forall₂ Unreadable ((settingsEntries slipStory.utf8ByteSize slipNodes).filter
        fun entry => !isObject entry.1) errors := by
  constructor
  · have regular : Node.areRegular ledgerNodes = true := by decide
    have told : ((Document.ofEvents ledgerStory (Node.eventsAll ledgerNodes)).toOption.bind
        fun document => (document.settings.get? "y").map Json.compact) = some "\x7b\x7d" := by
      decide +kernel
    cases read : Document.ofEvents ledgerStory (Node.eventsAll ledgerNodes) with
    | error errors =>
        rw [read] at told
        cases told
    | ok document =>
        rw [read] at told
        obtain ⟨json, found, empty⟩ := Option.map_eq_some_iff.mp told
        have merged := (objects_merged_or_reported regular).2.2 document read "y" json
        exact ⟨document, json, rfl, found, empty, merged.mp found⟩
  · have regular : Node.areRegular slipNodes = true := by decide
    let document := Document.ofEvents slipStory (Node.eventsAll slipNodes)
    have told : (tryCatch (document.map fun _ => []) .ok).toOption =
        some [⟨.notAnObject, ⟨28, 32⟩⟩, ⟨.invalidJson, ⟨38, 41⟩⟩] := by
      decide +kernel
    cases read : document with
    | ok document =>
        rw [read] at told
        cases told
    | error errors =>
        rw [read] at told
        have reported := ((objects_merged_or_reported regular).1 errors).mp read
        exact ⟨errors, read, Option.some.inj told, reported.2⟩

end Settings

end Story

end Gamebook
