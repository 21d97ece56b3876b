/-!
# Blank characters, words and lines

A blank character is one with the Unicode property `White_Space`.  Trimming, splitting into words
and normalizing a heading all rest on this one property.
-/

namespace Gamebook.Text

/-- Whether a character is white space. -/
def isBlank (c : Char) : Bool :=
  let code := c.toNat
  (9 ≤ code && code ≤ 13) || code == 0x20 || code == 0x85 || code == 0xA0 || code == 0x1680 ||
    (0x2000 ≤ code && code ≤ 0x200A) || code == 0x2028 || code == 0x2029 || code == 0x202F ||
    code == 0x205F || code == 0x3000

/-- Drop the blank characters at both ends. -/
def trimList (characters : List Char) : List Char :=
  ((characters.dropWhile isBlank).reverse.dropWhile isBlank).reverse

/-- Drop the blank characters at both ends. -/
def trim (text : String) : String :=
  String.ofList (trimList text.toList)

/-- Split into the maximal runs of characters that do not separate. -/
def splitRuns (separates : Char → Bool) : List Char → List (List Char)
  | [] => []
  | c :: rest =>
    if separates c then splitRuns separates rest
    else
      match rest with
      | [] => [[c]]
      | next :: _ =>
        if separates next then [c] :: splitRuns separates rest
        else
          match splitRuns separates rest with
          | [] => [[c]]
          | word :: words => (c :: word) :: words

/-- The words of a text in order: its maximal runs of characters that are not blank. -/
def words (text : String) : List String :=
  (splitRuns isBlank text.toList).map String.ofList

/-- The words of a text with one space between them. -/
def normalizeSpaces (text : String) : String :=
  " ".intercalate (words text)

/-- Whether a text has no character that is not blank. -/
def isBlankText (text : String) : Bool :=
  text.toList.all isBlank

/-- Split after every line feed; the pieces concatenate to the whole. -/
def splitLines : List Char → List (List Char)
  | [] => []
  | '\n' :: rest => ['\n'] :: splitLines rest
  | c :: rest =>
    match splitLines rest with
    | [] => [[c]]
    | line :: lines => (c :: line) :: lines

/-- The lines of a text without their line ends (a line feed, with a carriage return before it). -/
def lines (text : String) : List String :=
  (splitLines text.toList).map fun line =>
    match line.reverse with
    | '\n' :: '\r' :: front => String.ofList front.reverse
    | '\n' :: front => String.ofList front.reverse
    | _ => String.ofList line

/-- Whether `part` stands somewhere in the given characters. -/
def occursIn (part : List Char) : List Char → Bool
  | [] => part.isEmpty
  | c :: rest => part.isPrefixOf (c :: rest) || occursIn part rest

/-- Whether `part` stands somewhere in `whole`. -/
def occurs (part whole : String) : Bool :=
  occursIn part.toList whole.toList

end Gamebook.Text
