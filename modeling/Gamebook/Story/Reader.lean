import Gamebook.Diagnostic
import Gamebook.Json.Reader
import Gamebook.Markdown.Reader
import Gamebook.Story.Section

/-!
# Reading stories

A story is read from markdown.  Its sections become states, but for those with settings: the code in
them is JSON, and the objects are merged, later ones over earlier ones.  Every entry that is no
object is reported, and then there is no document.
-/

namespace Gamebook.Story

open Text (Span)

/-! ## Options -/

/-- Whether a content is the title of an option if it is the first such. -/
def isTitle : Content → Bool
  | .text run => !Text.isBlankText run.text
  | _ => false

/-- The directives in a content: the words of inline code that starts with an at sign. -/
def directivesOf : Content → List String
  | .code code _ => if code.toList.head? = some '@' then Text.words code else []
  | _ => []

/-- Whether a content in front of the title is a precondition: code without directives. -/
def isPrecondition : Content → Bool
  | .text _ => false
  | .code code _ => code.toList.head? ≠ some '@'
  | .fence _ _ _ => true

/-- The trimmed title that starts a list of contents. -/
def titleOf : List Content → Option String
  | .text run :: _ => some (Text.trim run.text)
  | _ => none

/-- The option that a list item makes.  The first text that is not blank is the title; code in front
of it is a precondition or a directive, and what follows it are the effects. -/
def Item.choice (item : Item) : Choice :=
  let contents := item.gathered.contents.reverse
  let front := contents.takeWhile fun content => !isTitle content
  let titled := contents.dropWhile fun content => !isTitle content
  { text := titleOf titled
    link := item.gathered.links.reverse.head?
    directives := front.flatMap directivesOf
    preconditions := front.filter isPrecondition
    effects := (titled.drop 1).filter fun content => !content.isBlankText
    span := item.span }

/-! ## Settings -/

/-- What is wrong with an entry of the settings. -/
inductive EntryCause
  | notAnObject
  | invalidJson
  deriving DecidableEq, Repr

/-- An entry of the settings that cannot be read. -/
structure EntryError where
  /-- What is wrong. -/
  cause : EntryCause
  /-- The bytes of the entry. -/
  span : Span
  deriving DecidableEq, Repr

namespace EntryError

/-- What is wrong, in words. -/
def headline (error : EntryError) : String :=
  match error.cause with
  | .notAnObject => "options section entries must be JSON objects"
  | .invalidJson => "options section contains invalid JSON"

/-- The message of an error, with its place. -/
def message (error : EntryError) : String :=
  error.headline ++ " (at " ++ toString error.span.start ++ ".." ++ toString error.span.stop ++ ")"

/-- The report of an error. -/
def diagnostic (error : EntryError) : Diagnostic :=
  match error.cause with
  | .notAnObject =>
    { severity := .error, message := error.headline
      labels := [⟨error.span, "expected \x60\x7b ... \x7d\x60"⟩]
      notes := ["each code span or fence here is merged as one JSON object"] }
  | .invalidJson =>
    { severity := .error, message := error.headline, labels := [⟨error.span, ""⟩]
      notes := ["<json error>"] }

end EntryError

/-- The code of a content of a settings section and its place; remarks and text have none. -/
def entry? (content : Content) : Option (String × Span) :=
  match content with
  | .text _ => none
  | .code code span => some (code, span)
  | .fence _ code span => if content.isComment then none else some (code, span)

/-- Read an entry of the settings. -/
def readEntry (entry : String × Span) : Except EntryError (Table Json) :=
  match Json.read entry.1 with
  | some (.object members) => .ok (Json.toTable members)
  | some _ => .error ⟨.notAnObject, entry.2⟩
  | none => .error ⟨.invalidJson, entry.2⟩

/-- The errors and the values of a list of outcomes. -/
def partitionOutcomes {ε α : Type} : List (Except ε α) → List ε × List α
  | [] => ([], [])
  | .error error :: rest =>
    let (errors, values) := partitionOutcomes rest
    (error :: errors, values)
  | .ok value :: rest =>
    let (errors, values) := partitionOutcomes rest
    (errors, value :: values)

/-! ## Documents -/

/-- Whether a section holds settings. -/
def Section.isSettings (part : Section) : Bool :=
  isSettingsName part.name

/-- The state that a section makes. -/
def Section.state (part : Section) : State :=
  { name := part.name, body := part.body, choices := part.items.map Item.choice
    span := part.span }

/-- The document of a list of sections, or all errors in its settings. -/
def Document.ofSections (parts : List Section) : Except (List EntryError) Document :=
  let entries := (parts.filter Section.isSettings).flatMap fun part => part.body.filterMap entry?
  let (errors, tables) := partitionOutcomes (entries.map readEntry)
  if errors.isEmpty then
    .ok
      { settings := tables.foldl (fun merged table => merged.insertAll table.entries) Table.empty
        states := (parts.filter fun part => !part.isSettings).map Section.state }
  else .error errors

/-- The document of a sequence of markdown events. -/
def Document.ofEvents (source : String) (events : List Markdown.Event) :
    Except (List EntryError) Document :=
  Document.ofSections (sections source events)

/-- Read a story. -/
def Document.read (source : String) : Except (List EntryError) Document :=
  Document.ofEvents source (Markdown.events source)

end Gamebook.Story
