import Gamebook.Json.Basic
import Gamebook.Text.Digits

/-!
# The tokens of a JSON text

Reading starts by cutting a text into brackets, separators, literals, numbers and strings.  A text
that has a piece of no such form has no tokens at all.  Numbers and strings are kept as they are
spelled: a spelling of the right form need not have a value.
-/

namespace Gamebook.Json

/-! ## Numbers -/

/-- The largest integer of 64 bits. -/
def maxWord : Nat := UInt64.size - 1

/-- Extend a significand by digits while it stays within 64 bits; the digits left over are returned
with it. -/
def extendSignificand (significand : Nat) : List Char → Nat × List Char
  | [] => (significand, [])
  | c :: rest =>
    let longer := significand * 10 + Text.digitValue c
    if maxWord < longer then (significand, c :: rest) else extendSignificand longer rest

/-- Scale a number by a power of ten, in steps that stay finite.  A result beyond the largest finite
number is refused; one below the smallest is zero. -/
def scaleFloat : Nat → Float → Int → Option Float
  | 0, _, _ => some 0
  | fuel + 1, value, exponent =>
    if exponent.natAbs ≤ 308 then
      if 0 ≤ exponent then
        let scaled := value * Float.ofScientific 1 false exponent.natAbs
        if scaled.isInf then none else some scaled
      else some (value / Float.ofScientific 1 false exponent.natAbs)
    else if value == 0 then some value
    else if 0 ≤ exponent then none
    else scaleFloat fuel (value / Float.ofScientific 1 false 308) (exponent + 308)

/-- The floating-point number of a sign, a significand and a power of ten. -/
def floatOfParts (negative : Bool) (significand : Nat) (exponent : Int) : Option Number :=
  (scaleFloat 4 significand.toUInt64.toFloat exponent).map fun value =>
    .float (if negative then -value else value)

/-- The spelling of a number, cut at its point and its exponent mark. -/
structure Numeral where
  /-- Whether a minus sign stands in front. -/
  negative : Bool
  /-- The digits in front of the point. -/
  whole : List Char
  /-- The digits after the point; none without a point. -/
  fraction : Option (List Char)
  /-- The exponent; none without an exponent mark. -/
  exponent : Option Int

/-- The exponents that are kept; larger ones all act alike. -/
def maxExponent : Nat := UInt32.size / 2 - 1

/-- The number that a numeral spells.  Digits past 64 bits are dropped, and a number too large for
the floating-point format is refused. -/
def Numeral.value (numeral : Numeral) : Option Number :=
  let (significand, dropped) := extendSignificand 0 numeral.whole
  let shift : Int := dropped.length
  let (significand, shift) :=
    match numeral.fraction with
    | none => (significand, shift)
    | some digits =>
      let (longer, ignored) := extendSignificand significand digits
      (longer, shift - (digits.length - ignored.length : Nat))
  match numeral.fraction, numeral.exponent with
  | none, none =>
    if dropped.isEmpty then
      if !numeral.negative then some (.natural significand)
      else if 0 < significand ∧ significand ≤ UInt64.size / 2 then some (.negative (significand - 1))
      else some (.float (-significand.toUInt64.toFloat))
    else floatOfParts numeral.negative significand shift
  | _, none => floatOfParts numeral.negative significand shift
  | _, some exponent =>
    if maxExponent < exponent.natAbs then
      if significand ≠ 0 ∧ 0 < exponent then none
      else some (.float (if numeral.negative then -0.0 else 0.0))
    else floatOfParts numeral.negative significand (shift + exponent)

/-- Read a run of digits, at least one. -/
def readDigits (text : List Char) : Option (List Char × List Char) :=
  let digits := text.takeWhile Char.isDigit
  if digits.isEmpty then none else some (digits, text.dropWhile Char.isDigit)

/-- Read the digits after a point, if there is a point. -/
def readFraction : List Char → Option (Option (List Char) × List Char)
  | '.' :: rest => (readDigits rest).map fun (digits, rest) => (some digits, rest)
  | text => some (none, text)

/-- Read an exponent, if there is an exponent mark. -/
def readExponent : List Char → Option (Option Int × List Char)
  | c :: rest =>
    if c = 'e' || c = 'E' then
      let (negative, rest) :=
        match rest with
        | '-' :: rest => (true, rest)
        | '+' :: rest => (false, rest)
        | rest => (false, rest)
      (readDigits rest).map fun (digits, rest) =>
        let value : Int := Text.digitsValue digits
        (some (if negative then -value else value), rest)
    else some (none, c :: rest)
  | [] => some (none, [])

/-- Read a numeral.  A zero in front of further digits is refused. -/
def readNumeral (text : List Char) : Option (Numeral × List Char) := do
  let (negative, text) :=
    match text with
    | '-' :: rest => (true, rest)
    | text => (false, text)
  let (whole, text) ← readDigits text
  if whole.head? = some '0' ∧ whole.length ≠ 1 then none
  let (fraction, text) ← readFraction text
  let (exponent, text) ← readExponent text
  some ({ negative, whole, fraction, exponent }, text)

/-! ## Strings -/

/-- A part of a string: a character, or the unit that a numeric escape spells. -/
inductive StringPart
  | char (c : Char)
  | unit (code : Nat)

/-- The character of a one-letter escape. -/
def escapedChar : Char → Option Char
  | '"' => some '"'
  | '\\' => some '\\'
  | '/' => some '/'
  | 'b' => some '\x08'
  | 'f' => some '\x0c'
  | 'n' => some '\n'
  | 'r' => some '\r'
  | 't' => some '\t'
  | _ => none

/-- The number that hexadecimal digits spell. -/
def readUnit (digits : List Char) : Option Nat :=
  if digits.all fun c => (Text.hexValue? c).isSome then some (Text.valueInBase 16 digits) else none

/-- Read the parts of a string up to its closing quote. -/
def readStringParts : List Char → Option (List StringPart × List Char)
  | [] => none
  | '"' :: rest => some ([], rest)
  | '\\' :: 'u' :: a :: b :: c :: d :: rest => do
    let code ← readUnit [a, b, c, d]
    let (parts, rest) ← readStringParts rest
    some (.unit code :: parts, rest)
  | '\\' :: c :: rest => do
    let escaped ← escapedChar c
    let (parts, rest) ← readStringParts rest
    some (.char escaped :: parts, rest)
  | c :: rest =>
    if c.toNat < 0x20 || c = '\\' then none
    else do
      let (parts, rest) ← readStringParts rest
      some (.char c :: parts, rest)

/-- Whether a unit is the first half of a pair. -/
def isHighHalf (code : Nat) : Bool := 0xD800 ≤ code && code < 0xDC00

/-- Whether a unit is the second half of a pair. -/
def isLowHalf (code : Nat) : Bool := 0xDC00 ≤ code && code < 0xE000

/-- The characters of the parts of a string.  A half without its other half is refused. -/
def joinParts : List StringPart → Option (List Char)
  | [] => some []
  | .char c :: rest => (joinParts rest).map (c :: ·)
  | .unit high :: .unit low :: rest =>
    if isHighHalf high then
      if isLowHalf low then
        let code := 0x10000 + (high - 0xD800) * 0x400 + (low - 0xDC00)
        (joinParts rest).map (Char.ofNat code :: ·)
      else none
    else if isLowHalf high then none
    else (joinParts (.unit low :: rest)).map (Char.ofNat high :: ·)
  | .unit code :: rest =>
    if isHighHalf code || isLowHalf code then none
    else (joinParts rest).map (Char.ofNat code :: ·)

/-- The string that parts spell. -/
def stringOfParts? (parts : List StringPart) : Option String :=
  (joinParts parts).map String.ofList

/-! ## Tokens -/

/-- A token of a JSON text. -/
inductive Token
  | openArray
  | closeArray
  | openObject
  | closeObject
  | comma
  | colon
  | null
  | bool (value : Bool)
  | number (numeral : Numeral)
  | string (parts : List StringPart)

/-- Whether a character may stand between tokens. -/
def isSpace (c : Char) : Bool :=
  c = ' ' || c = '\n' || c = '\t' || c = '\r'

/-- Read one token; no space stands in front of it. -/
def readToken : List Char → Option (Token × List Char)
  | '[' :: rest => some (.openArray, rest)
  | ']' :: rest => some (.closeArray, rest)
  | '\x7b' :: rest => some (.openObject, rest)
  | '\x7d' :: rest => some (.closeObject, rest)
  | ',' :: rest => some (.comma, rest)
  | ':' :: rest => some (.colon, rest)
  | '"' :: rest => (readStringParts rest).map fun (parts, rest) => (.string parts, rest)
  | 'n' :: 'u' :: 'l' :: 'l' :: rest => some (.null, rest)
  | 't' :: 'r' :: 'u' :: 'e' :: rest => some (.bool true, rest)
  | 'f' :: 'a' :: 'l' :: 's' :: 'e' :: rest => some (.bool false, rest)
  | text => (readNumeral text).map fun (numeral, rest) => (.number numeral, rest)

/-- Cut a text into at most `fuel` tokens. -/
def tokensWithin : Nat → List Char → Option (List Token)
  | fuel, text =>
    match text.dropWhile isSpace with
    | [] => some []
    | c :: rest =>
      match fuel with
      | 0 => none
      | fuel + 1 => do
        let (token, rest) ← readToken (c :: rest)
        let tokens ← tokensWithin fuel rest
        some (token :: tokens)

/-- The tokens of a text. -/
def tokens (text : List Char) : Option (List Token) :=
  tokensWithin text.length text

end Gamebook.Json
