/-!
# Sets of characters given by ranges

A property of characters is kept as an increasing array of closed ranges of code points, and
membership is a binary search (`Ranges.contains`).
-/

namespace NodeAudit.Text

/-- Closed ranges of code points, disjoint and increasing. -/
abbrev Ranges := Array (Nat × Nat)

namespace Ranges

/-- Search the ranges with index in `[lo, hi)` for one that holds `n`. -/
def search (table : Ranges) (n lo hi : Nat) : Bool :=
  if _h : lo < hi then
    let mid := (lo + hi) / 2
    let (first, last) := table.getD mid (0, 0)
    if n < first then search table n lo mid
    else if last < n then search table n (mid + 1) hi
    else true
  else false
termination_by hi - lo

/-- Whether some range of the table holds the character. -/
def contains (table : Ranges) (c : Char) : Bool :=
  search table c.toNat 0 table.size

end Ranges

end NodeAudit.Text
