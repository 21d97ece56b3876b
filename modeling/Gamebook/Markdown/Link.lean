import Gamebook.Markdown.Entity
import Gamebook.Text.Blank
import Gamebook.Text.Folding

/-!
# The parts of a link

Readers for link destinations, titles and labels.  A label is compared after its white space is
collapsed and its case folded.
-/

namespace Gamebook.Markdown.Link

/-- Round brackets in a destination may be nested this deep. -/
def maxNesting : Nat := 6

/-- The position of the angle bracket that ends a destination. -/
def bracketedEnd? (source : Source) : Nat → Nat → Option Nat
  | 0, _ => none
  | fuel + 1, position =>
    match source.at? position with
    | none => none
    | some c =>
      if c = '>' then some position
      else if Source.isLineEnd c || c = '<' then none
      else if isEscape source position then bracketedEnd? source fuel (position + 2)
      else bracketedEnd? source fuel (position + 1)

/-- The position at which a destination without angle brackets ends; `depth` round brackets are
open. -/
def bareEnd? (source : Source) : Nat → Nat → Nat → Option Nat
  | 0, _, _ => none
  | fuel + 1, depth, position =>
    let ended := if depth = 0 then some position else none
    match source.at? position with
    | none => ended
    | some c =>
      if c.toNat ≤ 0x20 || c.toNat = 0x7f then ended
      else if c = '(' then
        if maxNesting ≤ depth then none else bareEnd? source fuel (depth + 1) (position + 1)
      else if c = ')' then
        if depth = 0 then some position else bareEnd? source fuel (depth - 1) (position + 1)
      else if isEscape source position then bareEnd? source fuel depth (position + 2)
      else bareEnd? source fuel depth (position + 1)

/-- Read a destination; the position after it is returned too. -/
def destination? (source : Source) (position : Nat) : Option (String × Nat) :=
  if source.hasAt position '<' then
    (bracketedEnd? source (source.size + 1) (position + 1)).map fun stop =>
      (unescape (source.slice (position + 1) stop), stop + 1)
  else
    (bareEnd? source (source.size + 1) 0 position).map fun stop =>
      (unescape (source.slice position stop), min stop source.size)

/-- The mark that closes a title which starts with `c`. -/
def titleClosing? (c : Char) : Option Char :=
  if c = '"' || c = '\'' then some c else if c = '(' then some ')' else none

/-- The position after the closing mark of a title.  `allowed` tells whether the title may go on over
the line end before a position. -/
def titleEnd? (source : Source) (opening closing : Char) (allowed : Nat → Bool) :
    Nat → Nat → Option Nat
  | 0, _ => none
  | fuel + 1, position =>
    match source.at? position with
    | none => none
    | some c =>
      if c = closing then some (position + 1)
      else if c = opening then none
      else if isEscape source position then
        titleEnd? source opening closing allowed fuel (position + 2)
      else
        match source.lineEnd? position with
        | some next =>
          if allowed next then titleEnd? source opening closing allowed fuel next else none
        | none => titleEnd? source opening closing allowed fuel (position + 1)

/-- The position after a title. -/
def title? (source : Source) (allowed : Nat → Bool) (position : Nat) : Option Nat := do
  let opening ← source.at? position
  let closing ← titleClosing? opening
  titleEnd? source opening closing allowed (source.size + 1) (position + 1)

/-! ## Labels -/

/-- The longest label. -/
def maxLabel : Nat := 999

/-- The characters of a label up to its closing bracket, and the position after that.  `content`
tells where the text of the next line starts, unless the label may not go on there. -/
def labelFrom? (source : Source) (content : Nat → Option Nat) :
    Nat → Nat → Option (List Char × Nat)
  | 0, _ => none
  | fuel + 1, position =>
    match source.at? position with
    | none => none
    | some '[' => none
    | some ']' => some ([], position + 1)
    | some '\\' => do
      let (rest, stop) ← labelFrom? source content fuel (position + 2)
      some ('\\' :: ((source.at? (position + 1)).toList ++ rest), stop)
    | some c =>
      match source.lineEnd? position with
      | some next => do
        let start ← content next
        if source.isBlankLine start then none
        let (rest, stop) ← labelFrom? source content fuel start
        some ('\n' :: rest, stop)
      | none => do
        let (rest, stop) ← labelFrom? source content fuel (position + 1)
        some (c :: rest, stop)

/-- The form of a label that is compared. -/
def normalizeLabel (label : List Char) : List Char :=
  Text.foldCase (List.intercalate [' '] (Text.splitRuns Source.isSpace label))

/-- Read a label in square brackets; the position after it is returned too. -/
def label? (source : Source) (content : Nat → Option Nat) (position : Nat) :
    Option (List Char × Nat) :=
  if source.hasAt position '[' then
    match labelFrom? source content (source.size + 1) (position + 1) with
    | some (label, stop) =>
      if label.all Source.isSpace || maxLabel < label.length then none
      else some (normalizeLabel label, stop)
    | none => none
  else none

end Gamebook.Markdown.Link
