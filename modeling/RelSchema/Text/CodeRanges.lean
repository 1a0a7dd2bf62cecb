/-!
Sets of characters given by sorted ranges of code points.
-/
namespace RelSchema.Text

/-- Ascending, disjoint ranges of code points, both ends included. -/
structure CodeRanges where
  bounds : Array (Nat × Nat)

namespace CodeRanges

/-- Whether one of the ranges at the positions from `low` to before `high` holds the code. -/
def holdsBetween (ranges : CodeRanges) (code low high : Nat) : Bool :=
  if low < high then
    let middle := (low + high) / 2
    match ranges.bounds[middle]? with
    | none => false
    | some (first, last) =>
      if code < first then ranges.holdsBetween code low middle
      else if last < code then ranges.holdsBetween code (middle + 1) high
      else true
  else false
termination_by high - low

def contains (ranges : CodeRanges) (c : Char) : Bool :=
  ranges.holdsBetween c.toNat 0 ranges.bounds.size

end CodeRanges

end RelSchema.Text
