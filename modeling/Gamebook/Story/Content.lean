import Gamebook.Text.Blank
import Gamebook.Text.Span

/-!
# Story content

What stands between the headings of a story, flattened to what matters: runs of text in one style,
inline code, and code blocks.
-/

namespace Gamebook.Story

open Text (Span)

/-- The style of a run of text. -/
inductive Style
  | plain
  | emphasis
  | strong
  deriving DecidableEq, Inhabited, Repr

/-- A text with the marks of a style around it. -/
def Style.mark (style : Style) (text : String) : String :=
  match style with
  | plain => text
  | emphasis => "*" ++ text ++ "*"
  | strong => "**" ++ text ++ "**"

/-- A run of text in one style. -/
structure TextRun where
  /-- The text without markup; line breaks are line feeds. -/
  text : String
  /-- The same part of the source, as written. -/
  raw : String
  /-- The style. -/
  style : Style
  /-- Whether the run is the last one of its paragraph or list item. -/
  endsParagraph : Bool
  /-- The bytes of the source it stands on. -/
  span : Span
  deriving DecidableEq, Inhabited, Repr

/-- A part of a story. -/
inductive Content
  | text (run : TextRun)
  /-- Code within a paragraph. -/
  | code (source : String) (span : Span)
  /-- A code block and its language. -/
  | fence (language : Option String) (source : String) (span : Span)
  deriving DecidableEq, Repr

namespace Content

instance : Inhabited Content := ⟨text default⟩

/-- The bytes of the source that the content stands on. -/
def span : Content → Span
  | text run => run.span
  | code _ span => span
  | fence _ _ span => span

/-- Whether the content is text without a character that is not blank. -/
def isBlankText : Content → Bool
  | text run => Text.isBlankText run.text
  | _ => false

/-- Whether the content is a code block that is a remark. -/
def isComment : Content → Bool
  | fence (some "comment") _ _ => true
  | _ => false

/-- The content in the notation of a story. -/
def display : Content → String
  | text run => run.style.mark run.text
  | code source _ => "\x60" ++ source ++ "\x60"
  | fence language source _ =>
    "\x60\x60\x60" ++ language.getD "" ++ "\n" ++ source ++ "\x60\x60\x60"

end Content

end Gamebook.Story
