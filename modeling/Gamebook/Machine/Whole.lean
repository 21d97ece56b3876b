/-!
# Whole numbers

Offsets and character codes are numbers without a fraction.
-/

namespace Gamebook.Machine

/-- From here on every number is whole. -/
def wholeFrom : Float := 9007199254740992

/-- The natural number that a number is, if it is one; numbers past 64 bits count as the largest one
of 64 bits. -/
def natural? (x : Float) : Option Nat :=
  if 0 ≤ x then
    if x.isFinite && (wholeFrom ≤ x || x.toUInt64.toFloat == x) then some x.toUInt64.toNat else none
  else none

/-- The largest whole number that is not above a number that is not negative. -/
def floor (x : Float) : Float :=
  if wholeFrom ≤ x then x else x.toUInt64.toFloat

end Gamebook.Machine
