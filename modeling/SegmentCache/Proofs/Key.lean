import SegmentCache.Key

/-!
# Keys are their own keys

The root directory and a current directory at the beginning never come last before a name. So the
last component of a path can be read off its pieces: it is the last of those that lead anywhere
(`fileName?_eq`).

A message handler may take the key of a name that is a key already. This changes nothing: the key
of a path is either the path itself or a single piece, and a piece holds no separator.
-/

namespace SegmentCache

namespace Text

/-- No piece holds a separator. -/
theorem not_mem_of_mem_pieces {sep : Char} {cs piece : List Char}
    (hpiece : piece ∈ pieces sep cs) : sep ∉ piece := by
  induction cs generalizing piece with
  | nil => simp_all [pieces]
  | cons c cs ih =>
    by_cases hc : c = sep
    · rw [pieces, if_pos hc] at hpiece
      rcases List.mem_cons.mp hpiece with rfl | hpiece
      · exact List.not_mem_nil
      · exact ih hpiece
    · obtain ⟨first, rest, hrest⟩ := List.exists_cons_of_ne_nil (pieces_ne_nil sep cs)
      rw [pieces, if_neg hc, hrest] at hpiece
      rcases List.mem_cons.mp hpiece with rfl | hpiece
      · have hfirst : sep ∉ first := ih (by simp [hrest])
        simp [hfirst, Ne.symm hc]
      · exact ih (by simp [hrest, hpiece])

/-- A text without separators is its only piece. -/
theorem pieces_eq_singleton {sep : Char} {cs : List Char} (hcs : sep ∉ cs) :
    pieces sep cs = [cs] := by
  induction cs with
  | nil => rfl
  | cons c cs ih =>
    simp only [List.mem_cons, not_or] at hcs
    obtain ⟨hc, hcs⟩ := hcs
    rw [pieces, if_neg (Ne.symm hc), ih hcs]

end Text

/-- The pieces of a path that lead anywhere: neither empty nor the current directory. -/
def realPieces (path : String) : List (List Char) :=
  (Text.pieces '/' path.toList).filter fun piece => piece ≠ [] && piece ≠ ['.']

/-- A piece leads anywhere if it is neither empty nor the current directory. -/
theorem mem_realPieces {path : String} {piece : List Char} :
    piece ∈ realPieces path ↔
      piece ∈ Text.pieces '/' path.toList ∧ piece ≠ [] ∧ piece ≠ ['.'] := by
  simp [realPieces, List.mem_filter]

/-- A piece that leads anywhere is the only one when it is read as a path. -/
theorem realPieces_ofList {path : String} {piece : List Char}
    (hpiece : piece ∈ realPieces path) : realPieces (String.ofList piece) = [piece] := by
  obtain ⟨hpiece, hempty, hdot⟩ := mem_realPieces.mp hpiece
  have hpieces := Text.pieces_eq_singleton (Text.not_mem_of_mem_pieces hpiece)
  simp [realPieces, hpieces, hempty, hdot]

/-- The component that a piece which leads anywhere stands for. -/
def PathComponent.ofReal (piece : List Char) : PathComponent :=
  if piece = ['.', '.'] then .parent else .normal piece

/-- The pieces that stand for components are those that lead anywhere. -/
theorem filterMap_ofPiece? (pieces : List (List Char)) :
    pieces.filterMap PathComponent.ofPiece? =
      (pieces.filter fun piece => piece ≠ [] && piece ≠ ['.']).map PathComponent.ofReal := by
  induction pieces with
  | nil => rfl
  | cons piece pieces ih =>
    by_cases hidle : piece = [] ∨ piece = ['.']
    · rcases hidle with rfl | rfl <;> simpa [PathComponent.ofPiece?] using ih
    · obtain ⟨hempty, hdot⟩ := not_or.mp hidle
      have hpiece : PathComponent.ofPiece? piece = some (PathComponent.ofReal piece) := by
        simp only [PathComponent.ofPiece?, PathComponent.ofReal, if_neg hidle]
        split <;> rfl
      rw [List.filterMap_cons_some hpiece, ih]
      simp [hempty, hdot]

/-- Before the components that pieces stand for, there is the root directory or the current one or
nothing. -/
theorem pathComponents_eq (path : String) :
    ∃ front, (front = [] ∨ front = [.root] ∨ front = [.current]) ∧
      pathComponents path = front ++ (realPieces path).map PathComponent.ofReal := by
  unfold pathComponents realPieces
  split
  · rename_i hpieces
    refine ⟨[.root], Or.inr (Or.inl rfl), ?_⟩
    rw [hpieces, filterMap_ofPiece?]
    simp
  · rename_i hpieces
    refine ⟨[.current], Or.inr (Or.inr rfl), ?_⟩
    rw [hpieces, filterMap_ofPiece?]
    simp
  · exact ⟨[], Or.inl rfl, filterMap_ofPiece? _⟩

/-- A path ends in a name if the last piece that leads anywhere is not the parent directory. -/
theorem fileName?_eq (path : String) :
    fileName? path =
      ((realPieces path).getLast?.filter (· ≠ ['.', '.'])).map String.ofList := by
  obtain ⟨front, hfront, hcomponents⟩ := pathComponents_eq path
  rw [fileName?, hcomponents, List.getLast?_append, List.getLast?_map]
  cases hlast : (realPieces path).getLast? with
  | none => rcases hfront with rfl | rfl | rfl <;> rfl
  | some last =>
    by_cases hparent : last = ['.', '.'] <;> simp [PathComponent.ofReal, Option.filter, hparent]

/-- The key of a path is its last piece that leads anywhere. A path that has none, or that ends in
the parent directory, is its own key. -/
theorem entryKey_cases (path : String) :
    (∃ last, (realPieces path).getLast? = some last ∧ last ≠ ['.', '.'] ∧
      entryKey path = String.ofList last) ∨
    ((∀ last, (realPieces path).getLast? = some last → last = ['.', '.']) ∧
      entryKey path = path) := by
  rw [entryKey, fileName?_eq]
  cases hlast : (realPieces path).getLast? with
  | none => exact Or.inr ⟨by simp, rfl⟩
  | some last =>
    by_cases hparent : last = ['.', '.']
    · exact Or.inr ⟨by simp [hparent], by simp [Option.filter, hparent]⟩
    · exact Or.inl ⟨last, rfl, hparent, by simp [Option.filter, hparent]⟩

/-- Taking the key of a key gives the key back. -/
@[simp] theorem entryKey_entryKey (path : String) : entryKey (entryKey path) = entryKey path := by
  rcases entryKey_cases path with ⟨last, hlast, hparent, hkey⟩ | ⟨-, hself⟩
  · rw [hkey, entryKey, fileName?_eq, realPieces_ofList (List.mem_of_getLast? hlast)]
    simp [Option.filter, hparent]
  · rw [hself, hself]

end SegmentCache
