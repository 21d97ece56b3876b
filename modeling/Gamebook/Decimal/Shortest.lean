/-!
# The fewest decimal digits that read back

A positive finite number is `m · 2^q`.  The reals that round to it form an interval around it, and
the text of the number is the point of the coarsest decimal grid that lies in this interval.  All
comparisons are between natural numbers, so the choice of digits is exact.
-/

namespace Gamebook.Decimal

/-- Which of two equally near decimals stands for a number. -/
inductive Tie
  /-- The larger one. -/
  | up
  /-- The one with an even last digit. -/
  | even
  deriving DecidableEq, Repr

/-- A positive binary number `significand · 2^exponent`. -/
structure Binary where
  /-- The integer factor. -/
  significand : Nat
  /-- The power of two. -/
  exponent : Int
  /-- Whether the gap below the number is half the gap above it. -/
  narrowBelow : Bool
  deriving DecidableEq, Repr

/-- A decimal number `coefficient · 10^exponent`. -/
structure Scaled where
  /-- The integer factor. -/
  coefficient : Nat
  /-- The power of ten. -/
  exponent : Int
  deriving DecidableEq, Repr

/-- The leading bit of a normal number, which its representation leaves out. -/
def hiddenBit : Nat := 4503599627370496

/-- The magnitude of a finite nonzero number. -/
def Binary.ofFloat (x : Float) : Binary :=
  let bits : Nat := x.toBits.toNat % (UInt64.size / 2)
  let fraction := bits % hiddenBit
  let biased : Nat := bits / hiddenBit
  if biased = 0 then
    { significand := fraction, exponent := -1074, narrowBelow := false }
  else
    { significand := fraction + hiddenBit
      exponent := Int.ofNat biased - 1075
      narrowBelow := fraction = 0 && biased > 1 }

/-- The number of decimal digits of a natural number, at least one. -/
def digitCount (n : Nat) : Nat :=
  (Nat.toDigits 10 n).length

/-- The power of ten just above a positive number: the least `e` with `value < 10^e`. -/
def Binary.magnitude (value : Binary) : Int :=
  if 0 ≤ value.exponent then
    digitCount (value.significand * Nat.pow 2 value.exponent.toNat)
  else
    (digitCount (value.significand * Nat.pow 10 400 / Nat.pow 2 (-value.exponent).toNat) : Int) - 400

/-- The decimal on the grid of multiples of `10^power` that stands for `value`, if one of the two
neighbours of `value` on that grid rounds to it. -/
def Binary.onGrid? (value : Binary) (tie : Tie) (power : Int) : Option Nat :=
  let quarter := value.exponent - 2
  let decimalUnit := Nat.pow 10 power.toNat * Nat.pow 2 (-quarter).toNat
  let binaryUnit := Nat.pow 10 (-power).toNat * Nat.pow 2 quarter.toNat
  let middle := 4 * value.significand * binaryUnit
  let lowest := (4 * value.significand - if value.narrowBelow then 1 else 2) * binaryUnit
  let highest := (4 * value.significand + 2) * binaryUnit
  let closed := value.significand % 2 = 0
  let below := middle / decimalUnit
  let above := below + 1
  let belowFits := if closed then lowest ≤ below * decimalUnit else lowest < below * decimalUnit
  let aboveFits := if closed then above * decimalUnit ≤ highest else above * decimalUnit < highest
  let toBelow := middle - below * decimalUnit
  let toAbove := above * decimalUnit - middle
  if belowFits then
    if aboveFits then
      if toBelow < toAbove then some below
      else if toAbove < toBelow then some above
      else
        match tie with
        | .up => some above
        | .even => if below % 2 = 0 then some below else some above
    else some below
  else if aboveFits then some above
  else none

/-- Drop the zeros at the end of a coefficient, at most `fuel` of them. -/
def Scaled.dropZeros : Nat → Scaled → Scaled
  | 0, number => number
  | fuel + 1, number =>
    if number.coefficient ≠ 0 ∧ number.coefficient % 10 = 0 then
      dropZeros fuel { coefficient := number.coefficient / 10, exponent := number.exponent + 1 }
    else number

/-- Try the grids for `digits`, `digits + 1`, … digits; `fuel` of them in all. -/
def Binary.searchGrids (value : Binary) (tie : Tie) (magnitude : Int) : Nat → Nat → Scaled
  | digits, 0 =>
    let power := magnitude - digits
    { coefficient := (value.onGrid? tie power).getD 0, exponent := power }
  | digits, fuel + 1 =>
    let power := magnitude - digits
    match value.onGrid? tie power with
    | some coefficient => { coefficient, exponent := power }
    | none => searchGrids value tie magnitude (digits + 1) fuel

/-- The decimal with the fewest digits that reads back as `value`, and the nearest of those. -/
def Binary.shortest (value : Binary) (tie : Tie) : Scaled :=
  (value.searchGrids tie value.magnitude 1 20).dropZeros 20

end Gamebook.Decimal
