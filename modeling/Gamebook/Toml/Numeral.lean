import Gamebook.Text.Digits
import Gamebook.Toml.Basic

/-!
# TOML numerals

A numeral is an integer in base ten, sixteen, eight or two, or a number with a point, an exponent or
both.  Single underscores may stand between digits.
-/

namespace Gamebook.Toml

/-- Whether a character belongs to a numeral. -/
def isNumeralChar (c : Char) : Bool :=
  c.isAlphanum || c = '_' || c = '+' || c = '-' || c = '.'

/-- The digits of a run with single underscores between them. -/
def joinedDigits? (isDigit : Char → Bool) : List Char → Option (List Char)
  | [] => none
  | [c] => if isDigit c then some [c] else none
  | c :: '_' :: rest => if isDigit c then (joinedDigits? isDigit rest).map (c :: ·) else none
  | c :: rest => if isDigit c then (joinedDigits? isDigit rest).map (c :: ·) else none

/-- The integer with a sign and a magnitude, if 64 bits hold it. -/
def signedInteger? (negative : Bool) (magnitude : Nat) : Option Toml :=
  if negative then
    if magnitude ≤ UInt64.size / 2 then some (.integer (-magnitude)) else none
  else if magnitude < UInt64.size / 2 then some (.integer magnitude)
  else none

/-- Whether a character is a digit of a base up to sixteen. -/
def isDigitOf (base : Nat) (c : Char) : Bool :=
  (Text.hexValue? c).any (· < base)

/-- The integer whose digits are in a base. -/
def basedInteger? (base : Nat) (digits : List Char) : Option Toml := do
  signedInteger? false (Text.valueInBase base (← joinedDigits? (isDigitOf base) digits))

/-- The nearest floating-point number to a decimal; infinity if it is too large. -/
def decimalFloat (significand : Nat) (exponent : Int) : Float :=
  let scale := exponent + (Nat.toDigits 10 significand).length
  if significand = 0 ∨ scale < -400 then 0
  else if 400 < scale then 1 / 0
  else if 0 ≤ exponent then Float.ofScientific significand false exponent.natAbs
  else Float.ofScientific significand true exponent.natAbs

/-- The digits before a point or an exponent: no zero stands in front of others. -/
def wholeDigits? (digits : List Char) : Option (List Char) :=
  match digits with
  | '0' :: _ :: _ => none
  | _ => joinedDigits? Char.isDigit digits

/-- The exponent that a text spells. -/
def exponent? : List Char → Option Int
  | '+' :: digits => (joinedDigits? Char.isDigit digits).map fun digits => Text.digitsValue digits
  | '-' :: digits =>
    (joinedDigits? Char.isDigit digits).map fun digits => -(Text.digitsValue digits : Int)
  | digits => (joinedDigits? Char.isDigit digits).map fun digits => Text.digitsValue digits

/-- The number of digits before and after a point and an exponent, with a sign.  A positive number
that is too large is refused. -/
def signedFloat? (negative : Bool) (whole fraction : List Char) (exponent : Int) : Option Toml :=
  let magnitude :=
    decimalFloat (Text.digitsValue (whole ++ fraction)) (exponent - fraction.length)
  if negative then some (.float (-magnitude))
  else if magnitude.isInf then none
  else some (.float magnitude)

/-- Whether a character marks an exponent. -/
def isExponentMark (c : Char) : Bool :=
  c = 'e' || c = 'E'

/-- The number that a text spells behind its sign, in base ten. -/
def decimal? (negative : Bool) (text : List Char) : Option Toml := do
  let isPart : Char → Bool := fun c => c.isDigit || c = '_'
  let whole ← wholeDigits? (text.takeWhile isPart)
  match text.dropWhile isPart with
  | [] => signedInteger? negative (Text.digitsValue whole)
  | '.' :: rest =>
    let fraction ← joinedDigits? Char.isDigit (rest.takeWhile isPart)
    match rest.dropWhile isPart with
    | [] => signedFloat? negative whole fraction 0
    | c :: rest =>
      if isExponentMark c then signedFloat? negative whole fraction (← exponent? rest) else none
  | c :: rest => if isExponentMark c then signedFloat? negative whole [] (← exponent? rest) else none

/-- The number that a text spells behind its sign. -/
def unsigned? (negative : Bool) (text : List Char) : Option Toml :=
  match text with
  | ['i', 'n', 'f'] => some (.float (if negative then -1 / 0 else 1 / 0))
  | ['n', 'a', 'n'] => some (.float (0 / 0))
  | _ => decimal? negative text

/-- The number that a text spells. -/
def numeral? : List Char → Option Toml
  | '0' :: 'x' :: digits => basedInteger? 16 digits
  | '0' :: 'o' :: digits => basedInteger? 8 digits
  | '0' :: 'b' :: digits => basedInteger? 2 digits
  | '+' :: text => unsigned? false text
  | '-' :: text => unsigned? true text
  | text => unsigned? false text

/-- Read a numeral. -/
def readNumeral (text : List Char) : Option (Toml × List Char) :=
  (numeral? (text.takeWhile isNumeralChar)).map fun value => (value, text.dropWhile isNumeralChar)

end Gamebook.Toml
