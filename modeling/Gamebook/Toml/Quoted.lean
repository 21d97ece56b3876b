import Gamebook.Text.Digits

/-!
# Quoted TOML texts

A text stands between double quotes, with escapes, or between single quotes, as it is.  Three quotes
on each side make a block, which may run over several lines; a line feed right behind the opening
quotes does not count, and a carriage return before a line feed is dropped.
-/

namespace Gamebook.Toml

/-- Whether a character may stand in a comment, and in a text unless it has a meaning there. -/
def isPlain (c : Char) : Bool :=
  c = '\t' || (0x20 ≤ c.toNat && c.toNat ≠ 0x7F)

/-- What has been read, with a character in front of it. -/
def prepend (c : Char) : List Char × List Char → List Char × List Char
  | (read, rest) => (c :: read, rest)

/-- The character of a one-letter escape. -/
def escaped? : Char → Option Char
  | 'b' => some '\x08'
  | 't' => some '\t'
  | 'n' => some '\n'
  | 'f' => some '\x0c'
  | 'r' => some '\r'
  | '"' => some '"'
  | '\\' => some '\\'
  | _ => none

/-- The character whose number is spelled by hexadecimal digits. -/
def numbered? (digits : List Char) : Option Char :=
  let code := Text.valueInBase 16 digits
  if digits.all fun c => (Text.hexValue? c).isSome then
    if h : code.isValidChar then some (Char.ofNatAux code h) else none
  else none

/-- Read a text up to its closing double quote. -/
def readBasic : List Char → Option (List Char × List Char)
  | [] => none
  | '"' :: rest => some ([], rest)
  | '\\' :: 'u' :: a :: b :: c :: d :: rest => do
    let character ← numbered? [a, b, c, d]
    (readBasic rest).map (prepend character)
  | '\\' :: 'U' :: a :: b :: c :: d :: e :: f :: g :: h :: rest => do
    let character ← numbered? [a, b, c, d, e, f, g, h]
    (readBasic rest).map (prepend character)
  | '\\' :: c :: rest => do
    let character ← escaped? c
    (readBasic rest).map (prepend character)
  | c :: rest => if isPlain c && c ≠ '\\' then (readBasic rest).map (prepend c) else none

/-- Read a text up to its closing single quote. -/
def readLiteral : List Char → Option (List Char × List Char)
  | [] => none
  | '\'' :: rest => some ([], rest)
  | c :: rest => if isPlain c then (readLiteral rest).map (prepend c) else none

/-- Whether nothing but spaces stand before the next line end. -/
def endsLine (text : List Char) : Bool :=
  match text.dropWhile fun c => c = ' ' || c = '\t' with
  | '\n' :: _ | '\r' :: '\n' :: _ => true
  | _ => false

/-- Read a block up to its closing double quotes; up to two quotes right before them belong to the
text.  A backslash at the end of a line takes away the spaces and line ends up to the next other
character, which `skipping` tells. -/
def readBasicBlock : (skipping : Bool) → List Char → Option (List Char × List Char)
  | _, '"' :: '"' :: '"' :: '"' :: '"' :: rest => some (['"', '"'], rest)
  | _, '"' :: '"' :: '"' :: '"' :: rest => some (['"'], rest)
  | _, '"' :: '"' :: '"' :: rest => some ([], rest)
  | _, '\\' :: 'u' :: a :: b :: c :: d :: rest => do
    let character ← numbered? [a, b, c, d]
    (readBasicBlock false rest).map (prepend character)
  | _, '\\' :: 'U' :: a :: b :: c :: d :: e :: f :: g :: h :: rest => do
    let character ← numbered? [a, b, c, d, e, f, g, h]
    (readBasicBlock false rest).map (prepend character)
  | _, '\\' :: c :: rest =>
    match escaped? c with
    | some character => (readBasicBlock false rest).map (prepend character)
    | none => if endsLine (c :: rest) then readBasicBlock true rest else none
  | skipping, '\r' :: '\n' :: rest =>
    if skipping then readBasicBlock true rest else (readBasicBlock false rest).map (prepend '\n')
  | skipping, c :: rest =>
    if skipping && (c = ' ' || c = '\t' || c = '\n') then readBasicBlock true rest
    else if c = '\n' || (isPlain c && c ≠ '\\') then (readBasicBlock false rest).map (prepend c)
    else none
  | _, [] => none

/-- Read a block up to its closing single quotes; up to two quotes right before them belong to the
text. -/
def readLiteralBlock : List Char → Option (List Char × List Char)
  | '\'' :: '\'' :: '\'' :: '\'' :: '\'' :: rest => some (['\'', '\''], rest)
  | '\'' :: '\'' :: '\'' :: '\'' :: rest => some (['\''], rest)
  | '\'' :: '\'' :: '\'' :: rest => some ([], rest)
  | '\r' :: '\n' :: rest => (readLiteralBlock rest).map (prepend '\n')
  | c :: rest => if c = '\n' || isPlain c then (readLiteralBlock rest).map (prepend c) else none
  | [] => none

/-- Drop the line end right behind the opening quotes of a block. -/
def dropLineEnd : List Char → List Char
  | '\n' :: rest | '\r' :: '\n' :: rest => rest
  | text => text

/-- Read a quoted text. -/
def readQuoted (text : List Char) : Option (String × List Char) :=
  let read :=
    match text with
    | '"' :: '"' :: '"' :: rest => readBasicBlock false (dropLineEnd rest)
    | '\'' :: '\'' :: '\'' :: rest => readLiteralBlock (dropLineEnd rest)
    | '"' :: rest => readBasic rest
    | '\'' :: rest => readLiteral rest
    | _ => none
  read.map fun (characters, rest) => (String.ofList characters, rest)

end Gamebook.Toml
