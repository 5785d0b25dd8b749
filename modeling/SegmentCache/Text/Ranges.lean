/-!
# Tables of characters

A property of characters is kept as the ranges of code points that have it, in ascending order and
apart from each other. Looking a code point up stops at the first range that begins behind it.
-/

namespace SegmentCache.Text

/-- Whether ranges are in ascending order, with a gap between each and the next. -/
def areAscending : List (Nat × Nat) → Bool
  | [] => true
  | [range] => range.1 ≤ range.2
  | range :: next :: ranges =>
    range.1 ≤ range.2 && range.2 + 1 < next.1 && areAscending (next :: ranges)

/-- Whether a code point lies in one of the ranges, whose ends belong to them. -/
def inRanges (n : Nat) : List (Nat × Nat) → Bool
  | [] => false
  | range :: ranges => range.1 ≤ n && (n ≤ range.2 || inRanges n ranges)

/-- In a table that is in order, nothing lies in a range when it lies before the first one. -/
theorem any_eq_false_of_lt {n : Nat} {range : Nat × Nat} {ranges : List (Nat × Nat)}
    (h : areAscending (range :: ranges) = true) (hn : n < range.1) :
    (range :: ranges).any (fun r => r.1 ≤ n && n ≤ r.2) = false := by
  induction ranges generalizing range with
  | nil =>
    simp only [List.any_cons, List.any_nil, Bool.or_false, Bool.and_eq_false_iff,
      decide_eq_false_iff_not]
    omega
  | cons next ranges ih =>
    simp only [areAscending, Bool.and_eq_true, decide_eq_true_eq] at h
    have hrest := ih h.2 (by omega)
    rw [List.any_cons, hrest]
    simp only [Bool.or_false, Bool.and_eq_false_iff, decide_eq_false_iff_not]
    omega

/-- In a table that is in order, stopping early loses nothing. -/
theorem inRanges_eq_any {n : Nat} {ranges : List (Nat × Nat)} (h : areAscending ranges = true) :
    inRanges n ranges = ranges.any fun range => range.1 ≤ n && n ≤ range.2 := by
  induction ranges with
  | nil => rfl
  | cons range ranges ih =>
    by_cases hn : n < range.1
    · have hle : ¬ range.1 ≤ n := by omega
      rw [any_eq_false_of_lt h hn]
      simp [inRanges, hle]
    · have hle : range.1 ≤ n := by omega
      have hrest : areAscending ranges = true := by
        cases ranges with
        | nil => rfl
        | cons next ranges =>
          simp only [areAscending, Bool.and_eq_true] at h
          exact h.2
      simp [inRanges, hle, ih hrest]

end SegmentCache.Text
