import Gamebook.Decimal.Layout
import Gamebook.Text.Quoted
import Gamebook.Toml.Basic

/-!
# Writing TOML values

A value is written on one line as far as its texts allow.  A text gets the plainest quotes that
need no escapes; a key goes without quotes if it can.
-/

namespace Gamebook.Toml

/-! ## Texts -/

/-- The length of the longest run of a character. -/
def longestRun (wanted : Char) (text : List Char) : Nat :=
  let step : Nat × Nat → Char → Nat × Nat := fun (current, longest) c =>
    if c = wanted then (current + 1, max longest (current + 1)) else (0, longest)
  (text.foldl step (0, 0)).2

/-- Whether a character is a control other than a tab and a line feed. -/
def isControl (c : Char) : Bool :=
  (c.toNat < 0x20 || c.toNat = 0x7F) && c ≠ '\t' && c ≠ '\n'

/-- A control in a text with escapes. -/
def escapeControl (c : Char) : List Char :=
  if c = '\x08' then ['\\', 'b']
  else if c = '\t' then ['\\', 't']
  else if c = '\n' then ['\\', 'n']
  else if c = '\x0c' then ['\\', 'f']
  else if c = '\r' then ['\\', 'r']
  else
    let digits := (Text.hexDigits c.toNat).map Char.toUpper
    ['\\', 'u'] ++ List.replicate (4 - digits.length) '0' ++ digits

/-- A text with escapes.  In a block, line feeds stay and only every third quote in a row is escaped;
`quotes` have been written in a row so far. -/
def escape (block : Bool) (quotes : Nat) : List Char → List Char
  | [] => []
  | c :: rest =>
    if c = '"' then
      if block && quotes < 2 then c :: escape block (quotes + 1) rest
      else '\\' :: c :: escape block 0 rest
    else if c = '\\' then '\\' :: c :: escape block 0 rest
    else if c = '\n' && block then c :: escape block 0 rest
    else if c.toNat < 0x20 || c.toNat = 0x7F then escapeControl c ++ escape block 0 rest
    else c :: escape block 0 rest

/-- A text between double quotes. -/
def basicText (text : List Char) : List Char :=
  '"' :: (escape false 0 text ++ ['"'])

/-- A text between single quotes, as it is. -/
def literalText (text : List Char) : List Char :=
  '\'' :: (text ++ ['\''])

/-- The line feed with which a block of several lines starts. -/
def blockStart (text : List Char) : List Char :=
  if text.contains '\n' then ['\n'] else []

/-- A text between three double quotes on each side. -/
def basicBlock (text : List Char) : List Char :=
  ['"', '"', '"'] ++ blockStart text ++ escape true 0 text ++ ['"', '"', '"']

/-- A text between three single quotes on each side, as it is. -/
def literalBlock (text : List Char) : List Char :=
  ['\'', '\'', '\''] ++ blockStart text ++ text ++ ['\'', '\'', '\'']

/-- A text in the plainest quotes. -/
def textForm (text : List Char) : List Char :=
  let lines := text.contains '\n'
  let escapes := text.contains '\\'
  let double := longestRun '"' text
  let single := longestRun '\'' text
  if text.any isControl then
    if lines then basicBlock text else basicText text
  else if !escapes && double = 0 && !lines then basicText text
  else if single = 0 && !lines then literalText text
  else if !escapes && double ≤ 2 then basicBlock text
  else if single ≤ 2 then literalBlock text
  else if lines then basicBlock text
  else basicText text

/-- Whether a character may stand in a key without quotes. -/
def isBareKeyChar (c : Char) : Bool :=
  c.isAlphanum || c = '_' || c = '-'

/-- A key in the plainest form. -/
def keyForm (key : List Char) : List Char :=
  if !key.isEmpty && key.all isBareKeyChar then key
  else if key.any fun c => isControl c || c = '\n' then basicText key
  else if !key.contains '\\' && !key.contains '"' then basicText key
  else if !key.contains '\'' then literalText key
  else basicText key

/-! ## Values -/

/-- The text of a number with a fraction. -/
def floatText (x : Float) : String :=
  if x.isNaN then "nan"
  else if x.isInf then Decimal.Layout.plain.render x
  else Decimal.Layout.settings.render x

mutual

/-- The text of a value. -/
def text : Toml → String
  | integer value => toString value
  | float value => floatText value
  | bool value => if value then "true" else "false"
  | string value => String.ofList (textForm value.toList)
  | dateTime value => value.text
  | array items => "[" ++ ", ".intercalate (itemTexts items) ++ "]"
  | table [] => "\x7b\x7d"
  | table entries => "\x7b " ++ ", ".intercalate (entryTexts entries) ++ " \x7d"

/-- The texts of a list of values. -/
def itemTexts : List Toml → List String
  | [] => []
  | item :: rest => text item :: itemTexts rest

/-- The texts of the entries of a table. -/
def entryTexts : List (String × Toml) → List String
  | [] => []
  | (key, value) :: rest =>
    (String.ofList (keyForm key.toList) ++ " = " ++ text value) :: entryTexts rest

end

end Gamebook.Toml
