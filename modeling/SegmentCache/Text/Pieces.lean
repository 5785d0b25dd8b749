/-!
# Pieces between separators

Splitting a text at every occurrence of one character. A text with `n` separators has `n + 1`
pieces, some of which may be empty.
-/

namespace SegmentCache.Text

/-- The pieces of a text between the occurrences of a separator. -/
def pieces (sep : Char) : List Char → List (List Char)
  | [] => [[]]
  | c :: cs =>
    if c = sep then [] :: pieces sep cs
    else
      match pieces sep cs with
      | [] => [[c]]
      | p :: ps => (c :: p) :: ps

/-- There is always a first piece. -/
theorem pieces_ne_nil (sep : Char) (cs : List Char) : pieces sep cs ≠ [] := by
  cases cs with
  | nil => simp [pieces]
  | cons c cs =>
    simp only [pieces]
    split
    · simp
    · split <;> simp

/-- A text has one piece more than it has separators. -/
theorem length_pieces (sep : Char) (cs : List Char) :
    (pieces sep cs).length = cs.count sep + 1 := by
  induction cs with
  | nil => rfl
  | cons c cs ih =>
    by_cases hc : c = sep
    · subst hc
      simp [pieces, ih]
    · have hne : (c == sep) = false := by simpa using hc
      simp only [pieces, if_neg hc, List.count_cons, hne]
      split
      · rename_i h
        exact absurd h (pieces_ne_nil sep cs)
      · rename_i p ps h
        rw [h] at ih
        simpa using ih

end SegmentCache.Text
