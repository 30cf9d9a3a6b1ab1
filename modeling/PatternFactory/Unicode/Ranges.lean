/-!
# Ranges of characters

A class of characters is given by the ranges of its code points, which are sorted and apart from
each other.  `inRanges` looks for a code point by halving the table.
-/

namespace PatternFactory

namespace Unicode

/-- Does one of the sorted ranges between the indices `lo` and `hi` hold `n`?  Halves the span
of indices in every step. -/
def searchRanges (table : Array (Nat × Nat)) (n lo hi : Nat) : Bool :=
  if lo < hi then
    let mid := (lo + hi) / 2
    match table[mid]? with
    | none => false
    | some (a, b) =>
      if n < a then searchRanges table n lo mid
      else if b < n then searchRanges table n (mid + 1) hi
      else true
  else false
termination_by hi - lo
decreasing_by all_goals omega

/-- Is `n` in one of the sorted ranges? -/
def inRanges (table : Array (Nat × Nat)) (n : Nat) : Bool :=
  searchRanges table n 0 table.size

end Unicode

end PatternFactory
