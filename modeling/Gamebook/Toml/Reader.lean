import Gamebook.Toml.Node
import Gamebook.Toml.Numeral
import Gamebook.Toml.Quoted

/-!
# Reading TOML

A document is a sequence of lines: headers, which open tables, and keys with their values, which go
into the table opened last.  A text that is not a document has no reading at all.
-/

namespace Gamebook.Toml

/-- The depth to which arrays and tables may be nested, and the number of parts of a dotted key. -/
def maxDepth : Nat := 79

/-! ## Between values -/

/-- Whether a character separates on one line. -/
def isSpace (c : Char) : Bool :=
  c = ' ' || c = '\t'

/-- Skip spaces. -/
def skipSpaces (text : List Char) : List Char :=
  text.dropWhile isSpace

/-- Skip spaces, line ends and comments; `comment` tells whether a comment is open. -/
def skipFiller : (comment : Bool) → List Char → List Char
  | _, [] => []
  | _, '\r' :: '\n' :: rest => skipFiller false rest
  | comment, c :: rest =>
    if c = '\n' then skipFiller false rest
    else if comment then if isPlain c then skipFiller true rest else c :: rest
    else if isSpace c then skipFiller false rest
    else if c = '#' then skipFiller true rest
    else c :: rest

/-- Skip the rest of a line: spaces, a comment and the line end. -/
def skipLineEnd (text : List Char) : Option (List Char) :=
  let text :=
    match skipSpaces text with
    | '#' :: rest => rest.dropWhile isPlain
    | other => other
  match text with
  | [] => some []
  | '\n' :: rest | '\r' :: '\n' :: rest => some rest
  | _ => none

/-! ## Keys -/

/-- Whether a character may stand in a key without quotes. -/
def isBare (c : Char) : Bool :=
  c.isAlphanum || c = '_' || c = '-'

/-- Read one part of a key. -/
def readKeyPart (text : List Char) : Option (String × List Char) :=
  match text with
  | '"' :: rest => (readBasic rest).map fun (part, rest) => (String.ofList part, rest)
  | '\'' :: rest => (readLiteral rest).map fun (part, rest) => (String.ofList part, rest)
  | _ =>
    let part := text.takeWhile isBare
    if part.isEmpty then none else some (String.ofList part, text.dropWhile isBare)

/-- Read a key of at most so many parts. -/
def readKey : (limit : Nat) → List Char → Option (List String × List Char)
  | 0, _ => none
  | limit + 1, text => do
    let (part, rest) ← readKeyPart (skipSpaces text)
    match skipSpaces rest with
    | '.' :: rest =>
      let (parts, rest) ← readKey limit rest
      some (part :: parts, rest)
    | rest => some ([part], rest)

/-! ## Values -/

/-- Read a value that is no array and no table. -/
def readScalar (text : List Char) : Option (Toml × List Char) :=
  match text with
  | '"' :: _ | '\'' :: _ => (readQuoted text).map fun (value, rest) => (string value, rest)
  | 't' :: 'r' :: 'u' :: 'e' :: rest => some (bool true, rest)
  | 'f' :: 'a' :: 'l' :: 's' :: 'e' :: rest => some (bool false, rest)
  | _ =>
    match readDateTime text with
    | some (value, rest) => some (dateTime value, rest)
    | none => readNumeral text

mutual

/-- Read a value; `depth` arrays and tables may still be opened. -/
def readValue (depth : Nat) : Nat → List Char → Option (Toml × List Char)
  | 0, _ => none
  | fuel + 1, text =>
    match text with
    | '[' :: rest =>
      if depth = 0 then none
      else (readItems (depth - 1) fuel rest).map fun (items, rest) => (array items, rest)
    | '\x7b' :: rest =>
      if depth = 0 then none
      else
        match skipSpaces rest with
        | '\x7d' :: rest => some (table [], rest)
        | rest =>
          (readMembers (depth - 1) fuel [] rest).map fun (entries, rest) =>
            (table entries.finish.entries, rest)
    | _ => readScalar text

/-- Read the items of an array and its closing bracket; a comma may follow the last item. -/
def readItems (depth : Nat) : Nat → List Char → Option (List Toml × List Char)
  | 0, _ => none
  | fuel + 1, text =>
    match skipFiller false text with
    | ']' :: rest => some ([], rest)
    | text => do
      let (item, rest) ← readValue depth fuel text
      match skipFiller false rest with
      | ']' :: rest => some ([item], rest)
      | ',' :: rest =>
        let (items, rest) ← readItems depth fuel rest
        some (item :: items, rest)
      | _ => none

/-- Read the members of a table on one line and its closing brace; `entries` have been read. -/
def readMembers (depth : Nat) : Nat → Entries → List Char → Option (Entries × List Char)
  | 0, _, _ => none
  | fuel + 1, entries, text => do
    let (key, rest) ← readKey maxDepth text
    let rest ← expect '=' rest
    let (value, rest) ← readValue depth fuel (skipSpaces rest)
    let entries ← entries.assign value key
    match skipSpaces rest with
    | '\x7d' :: rest => some (entries, rest)
    | ',' :: rest => readMembers depth fuel entries rest
    | _ => none

end

/-! ## Documents -/

/-- A document as far as it has been read. -/
structure Reading where
  /-- The header that was read last. -/
  header : List String
  /-- The table of the whole document. -/
  entries : Entries

/-- Read a line that has something in it. -/
def readLine (reading : Reading) (text : List Char) : Option (Reading × List Char) :=
  match text with
  | '[' :: '[' :: rest => do
    let (header, rest) ← readKey maxDepth rest
    let rest ← expect ']' (← expect ']' rest)
    let rest ← skipLineEnd rest
    some (⟨header, ← reading.entries.openItem header⟩, rest)
  | '[' :: rest => do
    let (header, rest) ← readKey maxDepth rest
    let rest ← skipLineEnd (← expect ']' rest)
    some (⟨header, ← reading.entries.openTable header⟩, rest)
  | _ => do
    let (key, rest) ← readKey maxDepth text
    let rest ← expect '=' rest
    let (value, rest) ← readValue maxDepth (2 * rest.length + 1) (skipSpaces rest)
    let rest ← skipLineEnd rest
    let entries ← reading.entries.modify (Entries.assign value key) reading.header
    some (⟨reading.header, entries⟩, rest)

/-- Read at most `fuel` lines that have something in them. -/
def readLines : Nat → Reading → List Char → Option Entries
  | 0, _, _ => none
  | fuel + 1, reading, text =>
    match skipFiller false text with
    | [] => some reading.entries
    | text => do
      let (reading, rest) ← readLine reading text
      readLines fuel reading rest

/-- Read a document. -/
def read (text : String) : Option (Table Toml) :=
  let characters :=
    match text.toList with
    | '\uFEFF' :: rest => rest
    | other => other
  (readLines (characters.length + 1) ⟨[], []⟩ characters).map Entries.finish

end Gamebook.Toml
