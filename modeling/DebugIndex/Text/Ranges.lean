/-!
# Ranges of code points

A class of characters is given by the ranges of its code points in ascending
order, both ends included.  Halving finds the range of a code point.
-/

namespace DebugIndex
namespace Text

/-- Whether a code point lies in one of the ranges with index from `low` up to,
but not including, `high`, found by halving. -/
def inRanges (ranges : Array (Nat × Nat)) (point low high : Nat) : Bool :=
  if inside : low < high ∧ high ≤ ranges.size then
    let middle := (low + high) / 2
    have bounded : middle < ranges.size := by omega
    let range := ranges[middle]
    if point < range.1 then inRanges ranges point low middle
    else if range.2 < point then inRanges ranges point (middle + 1) high
    else true
  else false
termination_by high - low

/-- Whether a code point lies in one of some ranges. -/
def inAnyRange (ranges : Array (Nat × Nat)) (point : Nat) : Bool :=
  inRanges ranges point 0 ranges.size

end Text
end DebugIndex
