import Gamebook.Markdown.EntityTable
import Gamebook.Markdown.Source
import Gamebook.Text.Digits
import Gamebook.Text.Punctuation

/-!
# Character references and escapes

A character reference names a character (`&amp;`) or gives its number (`&#38;`, `&#x26;`) and always
ends in a semicolon.  A backslash takes its meaning from any ASCII punctuation character after it.
-/

namespace Gamebook.Markdown

/-- The character with a number; the number zero stands for the replacement character. -/
def numberedChar? (code : Nat) : Option Char :=
  if code = 0 then some '\uFFFD'
  else if h : code.isValidChar then some (Char.ofNatAux code h)
  else none

/-- Read a numeric reference whose digits start at `position`; at most `limit` digits count. -/
def numericReference? (source : Source) (base limit : Nat) (isDigit : Char → Bool)
    (position : Nat) : Option (String × Nat) :=
  let stop := min (source.skipWhile isDigit position) (position + limit)
  if stop = position then none
  else if source.hasAt stop ';' then
    (numberedChar? (Text.valueInBase base (source.slice position stop))).map fun c =>
      (String.singleton c, stop + 1)
  else none

/-- Read the character reference that starts with the ampersand at `position`: the text it stands for
and the position after it. -/
def reference? (source : Source) (position : Nat) : Option (String × Nat) :=
  let first := position + 1
  if source.hasAt first '#' then
    if source.hasAt (first + 1) 'x' || source.hasAt (first + 1) 'X' then
      numericReference? source 16 6 (fun c => (Text.hexValue? c).isSome) (first + 2)
    else numericReference? source 10 7 Char.isDigit (first + 1)
  else
    let stop := source.skipWhile Char.isAlphanum first
    if source.hasAt stop ';' then
      entityTable[source.sliceText first stop]?.map fun characters => (characters, stop + 1)
    else none

/-- Whether the backslash at `position` takes the meaning from the character after it. -/
def isEscape (source : Source) (position : Nat) : Bool :=
  source.hasAt position '\\' && (source.at? (position + 1)).any Text.isAsciiPunctuation

/-- The characters from `position` on with escapes and references replaced; carriage returns are
dropped. -/
def unescapeFrom (source : Source) : Nat → Nat → List Char
  | 0, _ => []
  | fuel + 1, position =>
    match source.at? position with
    | none => []
    | some c =>
      if isEscape source position then
        (source.at? (position + 1)).toList ++ unescapeFrom source fuel (position + 2)
      else if c = '\r' then unescapeFrom source fuel (position + 1)
      else
        match if c = '&' then reference? source position else none with
        | some (characters, next) => characters.toList ++ unescapeFrom source fuel next
        | none => c :: unescapeFrom source fuel (position + 1)

/-- A text with escapes and references replaced. -/
def unescape (text : List Char) : String :=
  let source := Source.ofString (String.ofList text)
  String.ofList (unescapeFrom source source.size 0)

end Gamebook.Markdown
