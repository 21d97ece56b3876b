import Gamebook.Text.Digits

/-!
# Dates and times

A date, a time of day, or both with an optional offset from universal time.  The written form is
canonical, so two spellings of one moment in one offset have the same text.
-/

namespace Gamebook.Toml

/-- A day of the calendar. -/
structure Date where
  /-- The year. -/
  year : Nat
  /-- The month, from one. -/
  month : Nat
  /-- The day of the month, from one. -/
  day : Nat
  deriving DecidableEq, Repr

/-- A time of day. -/
structure Time where
  /-- The hour. -/
  hour : Nat
  /-- The minute. -/
  minute : Nat
  /-- The second; sixty is a leap second. -/
  second : Nat
  /-- The fraction of the second. -/
  nanosecond : Nat
  deriving DecidableEq, Repr

/-- An offset from universal time. -/
inductive Offset
  /-- Universal time itself. -/
  | utc
  /-- So many minutes ahead of it. -/
  | ahead (minutes : Nat)
  /-- So many minutes behind it, one at least. -/
  | behind (minutes : Nat)
  deriving DecidableEq, Repr

/-- A date, a time of day, or a moment. -/
inductive DateTime
  | date (date : Date)
  | time (time : Time)
  | moment (date : Date) (time : Time) (offset : Option Offset)
  deriving DecidableEq, Repr

/-! ## Reading -/

/-- The number of days of a month. -/
def daysIn (year month : Nat) : Nat :=
  if month = 2 then
    if (year % 4 = 0 ∧ year % 100 ≠ 0) ∨ year % 400 = 0 then 29 else 28
  else if month = 4 ∨ month = 6 ∨ month = 9 ∨ month = 11 then 30
  else 31

/-- Read a number of two digits from `low` to `high`. -/
def readTwo (low high : Nat) (text : List Char) : Option (Nat × List Char) := do
  let (value, rest) ← Text.readFixed 2 text
  if low ≤ value ∧ value ≤ high then some (value, rest) else none

/-- Read a character that has to stand here. -/
def expect (wanted : Char) : List Char → Option (List Char)
  | c :: rest => if c = wanted then some rest else none
  | [] => none

/-- Read a date. -/
def readDate (text : List Char) : Option (Date × List Char) := do
  let (year, text) ← Text.readFixed 4 text
  let text ← expect '-' text
  let (month, text) ← readTwo 1 12 text
  let text ← expect '-' text
  let (day, text) ← readTwo 1 (daysIn year month) text
  some (⟨year, month, day⟩, text)

/-- The nanoseconds that the digits after a point spell; digits past the ninth do not count. -/
def nanoseconds (digits : List Char) : Nat :=
  Text.digitsValue (digits.take 9) * Nat.pow 10 (9 - digits.length)

/-- Read a time of day. -/
def readTime (text : List Char) : Option (Time × List Char) := do
  let (hour, text) ← readTwo 0 23 text
  let text ← expect ':' text
  let (minute, text) ← readTwo 0 59 text
  let text ← expect ':' text
  let (second, text) ← readTwo 0 60 text
  match text with
  | '.' :: after =>
    let digits := after.takeWhile Char.isDigit
    if digits.isEmpty then none
    else some (⟨hour, minute, second, nanoseconds digits⟩, after.dropWhile Char.isDigit)
  | _ => some (⟨hour, minute, second, 0⟩, text)

/-- Read the hours and minutes of an offset. -/
def readShift (text : List Char) : Option (Nat × List Char) := do
  let (hour, text) ← readTwo 0 23 text
  let text ← expect ':' text
  let (minute, text) ← readTwo 0 59 text
  some (60 * hour + minute, text)

/-- Read an offset. -/
def readOffset : List Char → Option (Offset × List Char)
  | 'Z' :: rest | 'z' :: rest => some (.utc, rest)
  | '+' :: rest => (readShift rest).map fun (minutes, rest) => (.ahead minutes, rest)
  | '-' :: rest =>
    (readShift rest).map fun (minutes, rest) =>
      (if minutes = 0 then .ahead 0 else .behind minutes, rest)
  | _ => none

/-- Read what follows a date: a time behind a `T` or a space, or nothing. -/
def readMoment (date : Date) (text : List Char) : DateTime × List Char :=
  let time :=
    match text with
    | c :: rest => if c = 'T' ∨ c = 't' ∨ c = ' ' then readTime rest else none
    | [] => none
  match time with
  | none => (.date date, text)
  | some (time, text) =>
    match readOffset text with
    | none => (.moment date time none, text)
    | some (offset, text) => (.moment date time (some offset), text)

/-- Read a date, a time or a moment. -/
def readDateTime (text : List Char) : Option (DateTime × List Char) :=
  match readDate text with
  | some (date, rest) => some (readMoment date rest)
  | none => (readTime text).map fun (time, rest) => (.time time, rest)

/-! ## Writing -/

/-- The text of a date. -/
def Date.text (date : Date) : String :=
  Text.padded 4 date.year ++ "-" ++ Text.padded 2 date.month ++ "-" ++ Text.padded 2 date.day

/-- The text of a time; a fraction has no needless zeros. -/
def Time.text (time : Time) : String :=
  let fraction := (Text.padded 9 time.nanosecond).toList.reverse.dropWhile (· = '0')
  Text.padded 2 time.hour ++ ":" ++ Text.padded 2 time.minute ++ ":" ++ Text.padded 2 time.second ++
    if fraction.isEmpty then "" else "." ++ String.ofList fraction.reverse

/-- Hours and minutes. -/
def shiftText (minutes : Nat) : String :=
  Text.padded 2 (minutes / 60) ++ ":" ++ Text.padded 2 (minutes % 60)

/-- The text of an offset. -/
def Offset.text : Offset → String
  | utc => "Z"
  | ahead minutes => "+" ++ shiftText minutes
  | behind minutes => "-" ++ shiftText minutes

/-- The text of a date, a time or a moment. -/
def DateTime.text : DateTime → String
  | date day => day.text
  | time clock => clock.text
  | moment day clock offset =>
    day.text ++ "T" ++ clock.text ++ (offset.map Offset.text).getD ""

end Gamebook.Toml
