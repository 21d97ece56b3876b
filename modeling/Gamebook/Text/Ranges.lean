/-!
# Sets of characters given by ranges

A property of characters is a table of code point ranges in increasing order, and membership is a
search by halving.
-/

namespace Gamebook.Text

/-- Whether `code` lies in one of the ranges numbered from `low` to `high`, which increase. -/
def inRanges (ranges : Array (Nat × Nat)) (code low high : Nat) : Bool :=
  if low < high then
    let middle := (low + high) / 2
    match ranges[middle]? with
    | none => false
    | some (first, last) =>
      if code < first then inRanges ranges code low middle
      else if last < code then inRanges ranges code (middle + 1) high
      else true
  else false
termination_by high - low

/-- Whether a character lies in an increasing table of ranges. -/
def memRanges (ranges : Array (Nat × Nat)) (c : Char) : Bool :=
  inRanges ranges c.toNat 0 ranges.size

end Gamebook.Text
