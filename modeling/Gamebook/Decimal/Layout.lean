import Gamebook.Decimal.Shortest

/-!
# How a number is laid out

The digits of a number are chosen once, by `Binary.shortest`; a layout says where the point stands,
when an exponent is written, and how integral and special values look.
-/

namespace Gamebook.Decimal

/-- The choices that a number format makes. -/
structure Layout where
  /-- Scientific exponents from this one on are written positionally; `none` is no lower limit. -/
  positionalFrom : Option Int
  /-- Scientific exponents below this one are written positionally; `none` is no upper limit. -/
  positionalBelow : Option Int
  /-- Whether an integral positional number ends in `.0`. -/
  pointZero : Bool
  /-- Whether a positive exponent has a plus sign. -/
  exponentPlus : Bool
  /-- The choice between two equally near decimals. -/
  tie : Tie
  deriving DecidableEq, Repr

namespace Layout

/-- Plain text: always positional, without a needless point. -/
def plain : Layout :=
  { positionalFrom := none, positionalBelow := none, pointZero := false, exponentPlus := false
    tie := .up }

/-- Inspection: exponents below `1e-4` and from `1e16` on, and integral numbers end in `.0`. -/
def inspect : Layout :=
  { positionalFrom := some (-4), positionalBelow := some 16, pointZero := true
    exponentPlus := false, tie := .up }

/-- Data text: exponents below `1e-5` and from `1e+16` on, and integral numbers end in `.0`. -/
def data : Layout :=
  { positionalFrom := some (-5), positionalBelow := some 16, pointZero := true
    exponentPlus := true, tie := .even }

/-- Settings text: always positional, and integral numbers end in `.0`. -/
def settings : Layout :=
  { positionalFrom := none, positionalBelow := none, pointZero := true, exponentPlus := false
    tie := .up }

/-- `count` zeros. -/
def zeros (count : Nat) : List Char :=
  List.replicate count '0'

/-- A decimal without an exponent. -/
def positional (pointZero : Bool) (number : Scaled) : List Char :=
  let digits := Nat.toDigits 10 number.coefficient
  if 0 ≤ number.exponent then
    digits ++ zeros number.exponent.toNat ++ if pointZero then ['.', '0'] else []
  else
    let places := (-number.exponent).toNat
    if places < digits.length then
      digits.take (digits.length - places) ++ '.' :: digits.drop (digits.length - places)
    else
      '0' :: '.' :: (zeros (places - digits.length) ++ digits)

/-- A decimal with one digit before the point and an exponent. -/
def scientific (plus : Bool) (number : Scaled) : List Char :=
  let digits := Nat.toDigits 10 number.coefficient
  let exponent := number.exponent + digits.length - 1
  let mantissa :=
    match digits with
    | [] => []
    | [single] => [single]
    | first :: rest => first :: '.' :: rest
  let sign := if exponent < 0 then ['-'] else if plus then ['+'] else []
  mantissa ++ 'e' :: (sign ++ Nat.toDigits 10 exponent.natAbs)

/-- A positive decimal in the given layout. -/
def magnitude (layout : Layout) (number : Scaled) : List Char :=
  let exponent := number.exponent + digitCount number.coefficient - 1
  let lowEnough := layout.positionalBelow.all fun bound => exponent < bound
  let highEnough := layout.positionalFrom.all fun bound => bound ≤ exponent
  if lowEnough && highEnough then positional layout.pointZero number
  else scientific layout.exponentPlus number

/-- Whether the sign bit of a number is set. -/
def isNegative (x : Float) : Bool :=
  UInt64.size / 2 ≤ x.toBits.toNat

/-- The text of a number in the given layout. -/
def render (layout : Layout) (x : Float) : String :=
  if x.isNaN then "NaN"
  else
    let sign := if isNegative x then ['-'] else []
    let body :=
      if x.isInf then ['i', 'n', 'f']
      else
        let value := Binary.ofFloat x
        if value.significand = 0 then positional layout.pointZero ⟨0, 0⟩
        else layout.magnitude (value.shortest layout.tie)
    String.ofList (sign ++ body)

end Layout

/-- The text in which a story shows a number: plain, and zero without a sign. -/
def display (x : Float) : String :=
  if x == 0 then "0" else Layout.plain.render x

end Gamebook.Decimal
