import Gamebook.Text.Span

/-!
# A text with positions

The markdown reader works on positions, which count characters.  Every look at the text goes
through `Source.at?`, so a reader that is given a shorter view cannot see past its end.  Events are
located by byte spans, which `Source.span` derives from positions.
-/

namespace Gamebook.Markdown

/-- A text whose characters and byte offsets are found by position. -/
structure Source where
  /-- The characters in order. -/
  characters : Array Char
  /-- The byte offset of every position, the end included. -/
  offsets : Array Nat
  /-- The position at which the view ends. -/
  size : Nat

namespace Source

/-- The byte offsets of the positions of a list of characters that starts at byte `offset`. -/
def offsetsFrom (offset : Nat) : List Char → List Nat
  | [] => [offset]
  | c :: rest => offset :: offsetsFrom (offset + c.utf8Size) rest

/-- The whole of a text. -/
def ofString (text : String) : Source :=
  let characters := text.toList
  { characters := characters.toArray
    offsets := (offsetsFrom 0 characters).toArray
    size := characters.length }

/-- The view that ends at `stop`. -/
def upTo (source : Source) (stop : Nat) : Source :=
  { source with size := min source.size stop }

/-- The character at a position; none from the end of the view on. -/
def at? (source : Source) (position : Nat) : Option Char :=
  if position < source.size then source.characters[position]? else none

/-- Whether a given character stands at a position. -/
def hasAt (source : Source) (position : Nat) (c : Char) : Bool :=
  source.at? position = some c

/-- The byte offset of a position. -/
def offset (source : Source) (position : Nat) : Nat :=
  source.offsets[position]?.getD 0

/-- The byte span between two positions. -/
def span (source : Source) (start stop : Nat) : Text.Span :=
  ⟨source.offset start, source.offset stop⟩

/-- The characters between two positions. -/
def slice (source : Source) (start stop : Nat) : List Char :=
  (source.characters.extract start stop).toList

/-- The text between two positions. -/
def sliceText (source : Source) (start stop : Nat) : String :=
  String.ofList (source.slice start stop)

/-! ## Scanning -/

/-- The first position from `position` on whose character fails the test. -/
def skipWhile (source : Source) (test : Char → Bool) (position : Nat) : Nat :=
  if position < source.size then
    match source.at? position with
    | some c => if test c then skipWhile source test (position + 1) else position
    | none => position
  else position
termination_by source.size - position

/-- The first position from `position` on whose character passes the test, or the end. -/
def find (source : Source) (test : Char → Bool) (position : Nat) : Nat :=
  source.skipWhile (fun c => !test c) position

/-- The number of characters in a row, from `position` on, that equal `c`. -/
def runLength (source : Source) (c : Char) (position : Nat) : Nat :=
  source.skipWhile (· = c) position - position

/-- The number of characters in a row, right before `position`, that pass the test. -/
def countBefore (source : Source) (test : Char → Bool) : Nat → Nat
  | 0 => 0
  | position + 1 =>
    match source.at? position with
    | some c => if test c then countBefore source test position + 1 else 0
    | none => 0

/-- Whether the given characters stand at a position. -/
def startsWith (source : Source) (position : Nat) : List Char → Bool
  | [] => true
  | c :: rest => source.hasAt position c && source.startsWith (position + 1) rest

/-- Whether the given lower-case letters stand at a position, in either case. -/
def startsWithLetters (source : Source) (position : Nat) : List Char → Bool
  | [] => true
  | c :: rest =>
    (source.at? position).map Char.toLower = some c &&
      source.startsWithLetters (position + 1) rest

/-! ## Lines -/

/-- White space within a line. -/
def isLineSpace (c : Char) : Bool :=
  c = ' ' || c = '\t' || c = '\x0b' || c = '\x0c'

/-- Whether a character ends a line. -/
def isLineEnd (c : Char) : Bool :=
  c = '\n' || c = '\r'

/-- White space of ASCII, line ends included. -/
def isSpace (c : Char) : Bool :=
  isLineSpace c || isLineEnd c

/-- The position after the line end at `position`; the end of the text also ends a line. -/
def lineEnd? (source : Source) (position : Nat) : Option Nat :=
  match source.at? position with
  | none => some position
  | some '\n' => some (position + 1)
  | some '\r' => some (if source.hasAt (position + 1) '\n' then position + 2 else position + 1)
  | some _ => none

/-- The position after white space within the line. -/
def skipLineSpace (source : Source) (position : Nat) : Nat :=
  source.skipWhile isLineSpace position

/-- The position after the line, if nothing but white space is left of it. -/
def blankLine? (source : Source) (position : Nat) : Option Nat :=
  source.lineEnd? (source.skipLineSpace position)

/-- Whether nothing but white space is left of the line. -/
def isBlankLine (source : Source) (position : Nat) : Bool :=
  (source.blankLine? position).isSome

/-- The position after the next line feed, or the end. -/
def nextLine (source : Source) (position : Nat) : Nat :=
  let found := source.find (· = '\n') position
  if source.hasAt found '\n' then found + 1 else found

end Source

end Gamebook.Markdown
