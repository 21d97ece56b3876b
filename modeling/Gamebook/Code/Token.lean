import Gamebook.Text.Blank
import Gamebook.Text.Digits
import Gamebook.Text.Span

/-!
# The tokens of a code fragment

A fragment is cut into words.  A quote opens a text that runs to the next quote, blank characters
included, and the closing quote always ends the word; outside texts a blank character ends it.  Each
word is then a string, an integer, a label declaration or an identifier.
-/

namespace Gamebook.Code

open Text (Span)

/-- A token without its place. -/
inductive TokenKind
  /-- A text between quotes; it has no escapes. -/
  | string (value : String)
  /-- A run of digits. -/
  | int (value : Nat)
  /-- The name of a native, or a brace. -/
  | identifier (name : String)
  /-- A name that stands for the offset of the next instruction. -/
  | label (name : String)
  deriving DecidableEq, Repr

/-- A token and the bytes of the fragment it stands on. -/
structure Token where
  /-- What the token is. -/
  kind : TokenKind
  /-- The bytes it stands on. -/
  span : Span
  deriving DecidableEq, Repr

/-- What is wrong with a fragment. -/
inductive LexCause
  | unterminatedString
  | integerOverflow (text : String)
  | emptyLabel
  | invalidToken (text : String)
  | duplicateLabel (name : String)
  deriving DecidableEq, Repr

/-- What is wrong with a fragment, and where. -/
structure LexError where
  /-- What is wrong. -/
  cause : LexCause
  /-- The bytes of the fragment that are at fault. -/
  span : Span
  deriving DecidableEq, Repr

/-- The message of an error. -/
def LexError.message (error : LexError) : String :=
  match error.cause with
  | .unterminatedString => "unterminated string literal"
  | .integerOverflow text => "integer literal \x60" ++ text ++ "\x60 is out of range"
  | .emptyLabel => "label declaration \x60#\x60 has no name"
  | .invalidToken text => "could not parse token \x60" ++ text ++ "\x60"
  | .duplicateLabel name => "label \x60" ++ name ++ "\x60 is defined more than once"

/-! ## Words -/

/-- Cut the rest of a word off; `quoted` tells whether a text is open.  An open text that does not
end gives none. -/
def cutWord (quoted : Bool) : List Char → Option (List Char × List Char)
  | [] => if quoted then none else some ([], [])
  | c :: rest =>
    if c = '"' then
      if quoted then some ([c], rest)
      else (cutWord true rest).map fun (word, rest) => (c :: word, rest)
    else if !quoted && Text.isBlank c then some ([], c :: rest)
    else (cutWord quoted rest).map fun (word, rest) => (c :: word, rest)

theorem cutWord_append {quoted : Bool} {text word rest : List Char}
    (cut : cutWord quoted text = some (word, rest)) : word ++ rest = text := by
  induction text generalizing quoted word rest with
  | nil =>
      rw [cutWord] at cut
      split at cut <;> simp_all
  | cons c tail ih =>
      rw [cutWord] at cut
      split at cut
      · split at cut
        · simp only [Option.some.injEq, Prod.mk.injEq] at cut
          obtain ⟨rfl, rfl⟩ := cut
          rfl
        · obtain ⟨⟨_, _⟩, inner, equal⟩ := Option.map_eq_some_iff.mp cut
          cases equal
          simp [ih inner]
      · split at cut
        · simp_all
        · obtain ⟨⟨_, _⟩, inner, equal⟩ := Option.map_eq_some_iff.mp cut
          cases equal
          simp [ih inner]

/-- A word and the byte at which it starts. -/
structure Word where
  /-- The characters. -/
  text : List Char
  /-- The offset of the first byte. -/
  start : Nat
  deriving DecidableEq, Repr

/-- The bytes of a word. -/
def Word.span (word : Word) : Span :=
  ⟨word.start, word.start + Text.byteLength word.text⟩

theorem cutWord_length {quoted : Bool} {text word rest : List Char}
    (cut : cutWord quoted text = some (word, rest)) : word.length + rest.length = text.length := by
  rw [← cutWord_append cut, List.length_append]

/-- Cut a text that starts at byte `offset` into words.  A text that does not end is reported with
the bytes from the start of its word. -/
def splitWords (offset : Nat) (text : List Char) : Except LexError (List Word) :=
  match text with
  | [] => .ok []
  | c :: tail =>
    if Text.isBlank c then splitWords (offset + c.utf8Size) tail
    else
      match cut : cutWord false (c :: tail) with
      | none => .error ⟨.unterminatedString, ⟨offset, offset + Text.byteLength (c :: tail)⟩⟩
      | some ([], _) => .ok []
      | some (first :: others, rest) => do
        have : rest.length < tail.length + 1 := by
          have := cutWord_length cut
          simp only [List.length_cons] at this
          omega
        let word := first :: others
        let words ← splitWords (offset + Text.byteLength word) rest
        return ⟨word, offset⟩ :: words
termination_by text.length

/-! ## Tokens -/

/-- The largest integer literal. -/
def maxInt : Nat := UInt64.size - 1

/-- What a word is. -/
def classify (text : List Char) : Except LexCause TokenKind :=
  if 2 ≤ text.length ∧ text.head? = some '"' ∧ text.getLast? = some '"' then
    .ok (.string (String.ofList (text.drop 1).dropLast))
  else if text.any fun c => c = '"' || Text.isBlank c then
    .error (.invalidToken (String.ofList text))
  else if text.all Char.isDigit then
    if Text.digitsValue text ≤ maxInt then .ok (.int (Text.digitsValue text))
    else .error (.integerOverflow (String.ofList text))
  else
    match text with
    | '#' :: [] => .error .emptyLabel
    | '#' :: name => .ok (.label (String.ofList name))
    | _ => .ok (.identifier (String.ofList text))

/-- The token of a word. -/
def Word.token (word : Word) : Except LexError Token :=
  match classify word.text with
  | .ok kind => .ok ⟨kind, word.span⟩
  | .error cause => .error ⟨cause, word.span⟩

/-- The tokens of a fragment. -/
def tokenize (code : String) : Except LexError (List Token) := do
  let words ← splitWords 0 code.toList
  words.mapM Word.token

end Gamebook.Code
