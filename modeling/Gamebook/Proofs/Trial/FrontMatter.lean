import Gamebook.Proofs.Text.Slice
import Gamebook.Trial.Check
import Mathlib.Data.List.TakeWhile

/-!
# Where a trial file splits

A trial file is cut into lines, each with the line feed that ends it.  It splits exactly if its
first line is a delimiter and some later line is one too.  The settings are then what stands between
the first line and the next delimiter, and the story is what stands behind that delimiter: counted
in bytes, both are slices of the file, and together with the two delimiters they are all of it.
-/

namespace Gamebook

/-! ## Lines -/

namespace Text

/-- A text is cut into lines behind each of its line feeds. -/
inductive Lines : List Char → List (List Char) → Prop
  | nothing : Lines [] []
  /-- The last line may have no line feed; then it has other characters. -/
  | last {line} (nonempty : line ≠ []) (inside : '\n' ∉ line) : Lines line [line]
  | ended {line rest lines} (inside : '\n' ∉ line) (others : Lines rest lines) :
      Lines (line ++ '\n' :: rest) ((line ++ ['\n']) :: lines)

variable {text line rest : List Char} {lines : List (List Char)}

theorem splitLines_cons {c : Char} (inside : c ≠ '\n') :
    splitLines (c :: rest) =
      match splitLines rest with
      | [] => [[c]]
      | line :: lines => (c :: line) :: lines :=
  splitLines.eq_3 c rest inside

theorem lines_splitLines (text : List Char) : Lines text (splitLines text) := by
  induction text with
  | nil => exact .nothing
  | cons c rest induction =>
      by_cases feed : c = '\n'
      · subst feed
        exact @Lines.ended [] _ _ (by simp) induction
      · rw [splitLines_cons feed]
        generalize splitLines rest = lines at induction ⊢
        cases induction with
        | nothing => exact .last (by simp) (by simpa using Ne.symm feed)
        | last nonempty inside => exact .last (by simp) (by simpa [inside] using Ne.symm feed)
        | @ended line _ _ inside others =>
            exact @Lines.ended (c :: line) _ _ (by simpa [inside] using Ne.symm feed) others

theorem splitLines_ended (inside : '\n' ∉ line) (rest : List Char) :
    splitLines (line ++ '\n' :: rest) = (line ++ ['\n']) :: splitLines rest := by
  induction line with
  | nil => rfl
  | cons c line induction =>
      obtain ⟨first, others⟩ := not_or.mp (mt List.mem_cons.mpr inside)
      rw [List.cons_append, splitLines_cons (Ne.symm first), induction others]
      rfl

theorem splitLines_last (nonempty : line ≠ []) (inside : '\n' ∉ line) :
    splitLines line = [line] := by
  induction line with
  | nil => exact absurd rfl nonempty
  | cons c line induction =>
      obtain ⟨first, others⟩ := not_or.mp (mt List.mem_cons.mpr inside)
      rw [splitLines_cons (Ne.symm first)]
      cases line with
      | nil => rfl
      | cons next line => rw [induction (List.cons_ne_nil next line) others]

/-- There is one way to cut a text into lines. -/
theorem lines_iff : Lines text lines ↔ splitLines text = lines := by
  refine ⟨fun cut => ?_, fun same => same ▸ lines_splitLines text⟩
  induction cut with
  | nothing => rfl
  | last nonempty inside => exact splitLines_last nonempty inside
  | ended inside _ induction => rw [splitLines_ended inside, induction]

theorem Lines.flatten (cut : Lines text lines) : lines.flatten = text := by
  induction cut with
  | nothing => rfl
  | last => simp
  | ended _ _ induction => simp [induction]

end Text

namespace Trial

open Text (Lines Span byteLength isBlank lines_iff lines_splitLines selects_of_split)

/-! ## Delimiters -/

/-- A line of three hyphens, with blank characters behind them; its line end is among these. -/
def IsDelimiter (line : List Char) : Prop :=
  ∃ blanks, line = ['-', '-', '-'] ++ blanks ∧ ∀ c ∈ blanks, isBlank c = true

theorem isRule_iff {line : List Char} : isRule line = true ↔ IsDelimiter line := by
  rw [isRule, decide_eq_true_iff, List.reverse_eq_iff]
  constructor
  · intro trimmed
    refine ⟨(line.reverse.takeWhile isBlank).reverse, ?_, fun c member => ?_⟩
    · rw [← List.reverse_inj, List.reverse_append, List.reverse_reverse, ← trimmed,
        List.takeWhile_append_dropWhile]
    · exact List.mem_takeWhile_imp (List.mem_reverse.mp member)
  · rintro ⟨blanks, rfl, blank⟩
    rw [List.reverse_append,
      List.dropWhile_append_of_pos fun c member => blank c (List.mem_reverse.mp member)]
    rfl

section Rules

variable {before after lines : List (List Char)} {closing : List Char}

theorem splitAtRule_eq_some (inside : ∀ line ∈ before, ¬IsDelimiter line)
    (closes : IsDelimiter closing) :
    splitAtRule (before ++ closing :: after) = some (before.flatten, after.flatten) := by
  induction before with
  | nil => rw [List.nil_append, splitAtRule, if_pos (isRule_iff.mpr closes)]; rfl
  | cons line before induction =>
      obtain ⟨first, others⟩ := List.forall_mem_cons.mp inside
      rw [List.cons_append, splitAtRule, if_neg (mt isRule_iff.mp first), induction others]
      rfl

theorem splitAtRule_eq_none (inside : ∀ line ∈ lines, ¬IsDelimiter line) :
    splitAtRule lines = none := by
  induction lines with
  | nil => rfl
  | cons line lines induction =>
      obtain ⟨first, others⟩ := List.forall_mem_cons.mp inside
      rw [splitAtRule, if_neg (mt isRule_iff.mp first), induction others]
      rfl

/-- Among lines with a delimiter one of them is the first. -/
theorem exists_closing (some : ∃ line ∈ lines, IsDelimiter line) :
    ∃ before closing after, lines = before ++ closing :: after ∧ IsDelimiter closing ∧
      ∀ line ∈ before, ¬IsDelimiter line := by
  induction lines with
  | nil => simp at some
  | cons line lines induction =>
      by_cases delimits : IsDelimiter line
      · exact ⟨[], line, lines, rfl, delimits, by simp⟩
      · have later : ∃ line ∈ lines, IsDelimiter line := by simpa [delimits] using some
        obtain ⟨before, closing, after, rfl, closes, inside⟩ := induction later
        exact ⟨line :: before, closing, after, rfl, closes,
          List.forall_mem_cons.mpr ⟨delimits, inside⟩⟩

end Rules

/-! ## Layouts -/

/-- How a text splits: its first line is a delimiter, and so is a later line, the first such one. -/
structure Layout (text : String) where
  /-- The first line. -/
  opening : List Char
  /-- The lines between the delimiters. -/
  before : List (List Char)
  /-- The delimiter behind them. -/
  closing : List Char
  /-- All other lines. -/
  after : List (List Char)
  lines : Lines text.toList (opening :: (before ++ closing :: after))
  opens : IsDelimiter opening
  inside : ∀ line ∈ before, ¬IsDelimiter line
  closes : IsDelimiter closing

namespace Layout

variable {text : String} (layout : Layout text)

/-- The settings. -/
def front : List Char := layout.before.flatten

/-- The story. -/
def story : List Char := layout.after.flatten

/-- The settings go from behind the first line to the second delimiter. -/
def frontSpan : Span :=
  ⟨byteLength layout.opening, byteLength layout.opening + byteLength layout.front⟩

/-- The story goes from behind the second delimiter to the end of the text. -/
def storySpan : Span :=
  ⟨byteLength layout.opening + byteLength layout.front + byteLength layout.closing,
    text.utf8ByteSize⟩

theorem toList_eq :
    text.toList = layout.opening ++ (layout.front ++ (layout.closing ++ layout.story)) := by
  rw [← layout.lines.flatten]
  simp [front, story]

theorem front_selects : layout.frontSpan.Selects text layout.front :=
  selects_of_split layout.toList_eq

theorem story_selects : layout.storySpan.Selects text layout.story := by
  have split : text.toList =
      (layout.opening ++ (layout.front ++ layout.closing)) ++ (layout.story ++ []) := by
    rw [layout.toList_eq]
    simp
  have whole : layout.storySpan =
      ⟨byteLength (layout.opening ++ (layout.front ++ layout.closing)),
        byteLength (layout.opening ++ (layout.front ++ layout.closing)) +
          byteLength layout.story⟩ := by
    rw [storySpan, ← Text.byteLength_toList, layout.toList_eq]
    simp [Nat.add_assoc]
  rw [whole]
  exact selects_of_split split

end Layout

/-- A text has a layout exactly if its first line and a later one are delimiters. -/
theorem nonempty_layout {text : String} :
    Nonempty (Layout text) ↔ ∃ opening others, Lines text.toList (opening :: others) ∧
      IsDelimiter opening ∧ ∃ line ∈ others, IsDelimiter line := by
  constructor
  · rintro ⟨layout⟩
    exact ⟨_, _, layout.lines, layout.opens, layout.closing, by simp, layout.closes⟩
  · rintro ⟨opening, others, cut, opens, later⟩
    obtain ⟨before, closing, after, rfl, closes, inside⟩ := exists_closing later
    exact ⟨opening, before, closing, after, cut, opens, inside, closes⟩

/-! ## Splitting -/

section Split

variable {content text : String} {marks : List Char}

/-- A content is a text with byte order marks in front, as many as there are. -/
structure Marked (content : String) (marks : List Char) (text : String) : Prop where
  whole : content = String.ofList marks ++ text
  marks : ∀ c ∈ marks, c = '\uFEFF'
  first : text.toList.head? ≠ some '\uFEFF'

theorem exists_marked (content : String) : ∃ marks text, Marked content marks text := by
  refine ⟨content.toList.takeWhile (· = '\uFEFF'),
    String.ofList (content.toList.dropWhile (· = '\uFEFF')), ?_, fun c member => ?_, ?_⟩
  · rw [← String.ofList_append, List.takeWhile_append_dropWhile, String.ofList_toList]
  · simpa using List.mem_takeWhile_imp member
  · rw [String.toList_ofList]
    intro starts
    have stops := List.head?_dropWhile_not (· = '\uFEFF') content.toList
    rw [starts] at stops
    simp at stops

theorem Marked.dropWhile (marked : Marked content marks text) :
    content.toList.dropWhile (· = '\uFEFF') = text.toList := by
  rw [marked.whole, String.toList_append, String.toList_ofList,
    List.dropWhile_append_of_pos (by simpa using marked.marks)]
  have first := marked.first
  generalize text.toList = characters at first ⊢
  cases characters with
  | nil => rfl
  | cons c rest => rw [List.dropWhile_cons, if_neg (by simpa using first)]

/-- What comes of splitting a text. -/
inductive Splits (text : String) : Except SplitError Parts → Prop
  | parts (layout : Layout text) :
      Splits text (.ok ⟨layout.frontSpan.slice text, layout.storySpan.slice text⟩)
  /-- No line comes first, or one that is no delimiter. -/
  | missing
      (first : ∀ opening others, Lines text.toList (opening :: others) → ¬IsDelimiter opening) :
      Splits text (.error .missing)
  | unclosed {opening others} (lines : Lines text.toList (opening :: others))
      (opens : IsDelimiter opening) (inside : ∀ line ∈ others, ¬IsDelimiter line) :
      Splits text (.error .unclosed)

theorem Marked.split_layout (marked : Marked content marks text) (layout : Layout text) :
    split content = .ok ⟨layout.frontSpan.slice text, layout.storySpan.slice text⟩ := by
  rw [split, marked.dropWhile, lines_iff.mp layout.lines]
  simp only [isRule_iff.mpr layout.opens, if_true,
    splitAtRule_eq_some layout.inside layout.closes]
  rw [layout.front_selects.slice, layout.story_selects.slice]
  rfl

theorem Marked.splits (marked : Marked content marks text) : Splits text (split content) := by
  by_cases full : Nonempty (Layout text)
  · obtain ⟨layout⟩ := full
    rw [marked.split_layout layout]
    exact .parts layout
  · rw [split, marked.dropWhile]
    have cut := lines_splitLines text.toList
    generalize Text.splitLines text.toList = lines at cut ⊢
    cases lines with
    | nil =>
        refine .missing fun opening others other => ?_
        cases (lines_iff.mp cut).symm.trans (lines_iff.mp other)
    | cons opening others =>
        by_cases opens : IsDelimiter opening
        · have inside : ∀ line ∈ others, ¬IsDelimiter line := fun line member delimits =>
            full (nonempty_layout.mpr ⟨opening, others, cut, opens, line, member, delimits⟩)
          simp only [isRule_iff.mpr opens, if_true, splitAtRule_eq_none inside]
          exact .unclosed cut opens inside
        · simp only [mt isRule_iff.mp opens]
          refine .missing fun first rest other => ?_
          obtain ⟨rfl, rfl⟩ :=
            List.cons.inj ((lines_iff.mp cut).symm.trans (lines_iff.mp other))
          exact opens

theorem Splits.isOk_iff {result : Except SplitError Parts} (splits : Splits text result) :
    (∃ parts, result = .ok parts) ↔ Nonempty (Layout text) := by
  constructor
  · rintro ⟨parts, rfl⟩
    cases splits with
    | parts layout => exact ⟨layout⟩
  · rintro ⟨layout⟩
    cases splits with
    | parts layout => exact ⟨_, rfl⟩
    | missing first => exact absurd layout.opens (first _ _ layout.lines)
    | unclosed lines _ inside =>
        obtain ⟨-, rfl⟩ :=
          List.cons.inj ((lines_iff.mp lines).symm.trans (lines_iff.mp layout.lines))
        exact absurd layout.closes (inside _ (by simp))

end Split

/-! ## Reading -/

/-- The plan in the settings of a trial file and the story behind them, or the message of an
error. -/
def parse (content : String) : Except String (Plan × String) := do
  let parts ← (split content).mapError SplitError.message
  let plan ← (Plan.read parts.frontMatter).mapError PlanError.message
  return (plan, parts.story)

/-- A trial file is checked by parsing it and comparing its story with its plan. -/
theorem checkFile_eq_parse (content : String) :
    checkFile content =
      match parse content with
      | .error message => ⟨none, some message⟩
      | .ok (plan, story) =>
        match check plan story with
        | .ok () => ⟨plan.description, none⟩
        | .error mismatch => ⟨plan.description, some mismatch.message⟩ := by
  rw [checkFile, parse]
  cases split content with
  | error error => rfl
  | ok parts =>
      simp only [Except.mapError, bind, Except.bind]
      cases Plan.read parts.frontMatter with
      | error error => rfl
      | ok plan => rfl

/-- The splitting of a trial file is exact.  Behind its byte order marks, the file splits exactly if
its first line is a delimiter and some later line is one too.  Then it is the first line, the
settings, the first later delimiter and the story, one behind the other; settings and story are the
slices of the file at the bytes where these lines end and begin; and what comes of the file is the
plan that is read from these settings, with this story as it stands.  Every other file is refused:
for want of a delimiter in its first line, or else in a later one. -/
theorem front_matter_splits_exactly (content : String) :
    ∃ marks text, Marked content marks text ∧
      Splits text (split content) ∧
      ((∃ parts, split content = .ok parts) ↔ ∃ opening others,
        Lines text.toList (opening :: others) ∧ IsDelimiter opening ∧
          ∃ line ∈ others, IsDelimiter line) ∧
      (∀ layout : Layout text,
        text.toList = layout.opening ++ (layout.front ++ (layout.closing ++ layout.story)) ∧
        layout.frontSpan.Selects text layout.front ∧
        layout.storySpan.Selects text layout.story ∧
        split content = .ok ⟨layout.frontSpan.slice text, layout.storySpan.slice text⟩ ∧
        parse content =
          ((Plan.read (layout.frontSpan.slice text)).mapError PlanError.message).map fun plan =>
            (plan, layout.storySpan.slice text)) ∧
      (∀ error, split content = .error error → parse content = .error error.message) ∧
      checkFile content =
        match parse content with
        | .error message => ⟨none, some message⟩
        | .ok (plan, story) =>
          match check plan story with
          | .ok () => ⟨plan.description, none⟩
          | .error mismatch => ⟨plan.description, some mismatch.message⟩ := by
  obtain ⟨marks, text, marked⟩ := exists_marked content
  refine ⟨marks, text, marked, marked.splits, ?_, fun layout => ?_, fun error refused => ?_,
    checkFile_eq_parse content⟩
  · exact marked.splits.isOk_iff.trans nonempty_layout
  · have parts := marked.split_layout layout
    refine ⟨layout.toList_eq, layout.front_selects, layout.story_selects, parts, ?_⟩
    rw [parse, parts]
    rfl
  · rw [parse, refused]
    rfl

example : split "\uFEFF---\r\nseed = 1\r\n--- \n# Über" = .ok ⟨"seed = 1\r\n", "# Über"⟩ := by
  decide

end Trial

end Gamebook
