/-!
# Classes of characters given by ranges

A class of the Unicode standard is a table: a list of closed ranges of code points in ascending
order.  Membership is decided by looking for a range that holds the code point.
-/

namespace DocSplice

/-- Whether one of the closed ranges holds the code point. -/
def inRanges (ranges : List (Nat × Nat)) (n : Nat) : Bool :=
  ranges.any fun r => r.1 ≤ n && n ≤ r.2

@[simp] theorem inRanges_nil (n : Nat) : inRanges [] n = false := rfl

theorem inRanges_cons (lo hi : Nat) (rest : List (Nat × Nat)) (n : Nat) :
    inRanges ((lo, hi) :: rest) n = ((lo ≤ n && n ≤ hi) || inRanges rest n) := rfl

end DocSplice
