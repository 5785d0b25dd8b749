import Mathlib
import SegmentCache.Proofs.Key

/-!
# The paths with a given key

A path is cut at its separators, and its key is the last piece that leads anywhere. Read the other
way round, this says how the path of an object can be written: the name of the object, behind any
directory or none, before any run of separators and current directories. Everything about keys
follows from what the pieces of a path are on both sides of a separator.
-/

namespace SegmentCache

namespace Text

/-- The pieces of a text are those of the library's split. -/
theorem pieces_eq_splitOn (sep : Char) (cs : List Char) : pieces sep cs = cs.splitOn sep := by
  induction cs with
  | nil => rfl
  | cons c cs ih =>
    obtain ⟨first, rest, hrest⟩ := List.exists_cons_of_ne_nil (pieces_ne_nil sep cs)
    rw [List.splitOn_cons_eq_if_modifyHead, ← ih, pieces, hrest]
    by_cases hc : c = sep <;> simp [hc]

/-- A separator cuts a text in two that are cut by themselves. -/
theorem pieces_append (sep : Char) (cs ds : List Char) :
    pieces sep (cs ++ sep :: ds) = pieces sep cs ++ pieces sep ds := by
  simp only [pieces_eq_splitOn, List.splitOn]
  exact List.splitOnP_append_cons cs ds (beq_self_eq_true sep)

/-- Where the pieces of a text fall into two stretches, a separator stands between them. -/
theorem exists_append_of_pieces {sep : Char} {cs piece : List Char}
    {front rest : List (List Char)} (hrest : rest ≠ [])
    (hpieces : pieces sep cs = piece :: front ++ rest) :
    ∃ xs ys, cs = xs ++ sep :: ys ∧ pieces sep xs = piece :: front ∧ pieces sep ys = rest := by
  induction cs generalizing piece front with
  | nil =>
    obtain ⟨-, hlater⟩ := List.cons.inj hpieces
    exact absurd (List.append_eq_nil_iff.mp hlater.symm).2 hrest
  | cons c cs ih =>
    by_cases hc : c = sep
    · rw [pieces, if_pos hc, List.cons_append] at hpieces
      obtain ⟨rfl, hlater⟩ := List.cons.inj hpieces
      cases front with
      | nil => exact ⟨[], cs, by rw [hc]; rfl, rfl, hlater⟩
      | cons next front =>
        obtain ⟨xs, ys, rfl, hxs, hys⟩ := ih hlater
        exact ⟨c :: xs, ys, rfl, by rw [pieces, if_pos hc, hxs], hys⟩
    · -- The character belongs to the first piece, so the text behind it is cut in the same places.
      obtain ⟨first, later, hfirst⟩ := List.exists_cons_of_ne_nil (pieces_ne_nil sep cs)
      rw [pieces, if_neg hc, hfirst, List.cons_append] at hpieces
      obtain ⟨rfl, rfl⟩ := List.cons.inj hpieces
      obtain ⟨xs, ys, rfl, hxs, hys⟩ := ih hfirst
      exact ⟨c :: xs, ys, rfl, by rw [pieces, if_neg hc, hxs], hys⟩

/-- A text that is its only piece. -/
theorem eq_of_pieces_eq_singleton {sep : Char} {cs piece : List Char}
    (hpieces : pieces sep cs = [piece]) : cs = piece := by
  have hjoined := @List.intercalate_splitOn Char cs _ _ sep
  rw [← pieces_eq_splitOn, hpieces] at hjoined
  simpa using hjoined.symm

/-- A text is given by its characters. -/
theorem ofList_eq_iff {cs : List Char} {text : String} :
    String.ofList cs = text ↔ cs = text.toList := by
  constructor <;> rintro rfl <;> simp

end Text

/-- The last piece of a path between separators that is neither empty nor the current directory. -/
def lastPiece? (path : String) : Option String :=
  (((path.toList.splitOn '/').map String.ofList).filter
    fun piece => piece ≠ "" ∧ piece ≠ ".").getLast?

/-- A name that an object can go by: a single component of a path that is neither the current
directory nor the parent one. -/
structure IsName (name : String) : Prop where
  /-- There is something to it. -/
  nonempty : name ≠ ""
  /-- It is a single component. -/
  single : '/' ∉ name.toList
  /-- It is not the current directory. -/
  notCurrent : name ≠ "."
  /-- It is not the parent directory. -/
  notParent : name ≠ ".."

/-- What may follow a path without leading anywhere: separators, each with the current directory
behind it or nothing. -/
inductive IdleTail : String → Prop
  /-- Nothing follows. -/
  | nil : IdleTail ""
  /-- A separator follows. -/
  | separator {tail : String} (htail : IdleTail tail) : IdleTail ("/" ++ tail)
  /-- The current directory follows. -/
  | current {tail : String} (htail : IdleTail tail) : IdleTail ("/." ++ tail)

/-- The last piece that leads anywhere, as a text. -/
theorem lastPiece?_eq (path : String) :
    lastPiece? path = (realPieces path).getLast?.map String.ofList := by
  rw [lastPiece?, List.filter_map, List.getLast?_map, realPieces, Text.pieces_eq_splitOn]
  congr 3
  funext piece
  simp [Text.ofList_eq_iff]

/-- The pieces that lead anywhere on both sides of a separator. -/
theorem realPieces_append (directory path : String) :
    realPieces (directory ++ "/" ++ path) =
      realPieces directory ++ realPieces path := by
  simp [realPieces, Text.pieces_append]

/-- A name is its only piece. -/
theorem IsName.realPieces {name : String} (hname : IsName name) :
    realPieces name = [name.toList] := by
  have hlist (text : String) (hother : name ≠ text) : name.toList ≠ text.toList :=
    fun hsame => hother (String.toList_inj.mp hsame)
  have hempty : name.toList ≠ [] := hlist "" hname.nonempty
  have hcurrent : name.toList ≠ ['.'] := hlist "." hname.notCurrent
  simp [SegmentCache.realPieces, Text.pieces_eq_singleton hname.single, hempty, hcurrent]

/-- An idle tail adds no piece that leads anywhere. -/
theorem IdleTail.realPieces_append {tail : String} (htail : IdleTail tail) (path : String) :
    SegmentCache.realPieces (path ++ tail) = SegmentCache.realPieces path := by
  induction htail generalizing path with
  | nil => simp
  | separator _ ih =>
    have hsplit := SegmentCache.realPieces_append path ""
    rw [← String.append_assoc, ih]
    simpa [SegmentCache.realPieces, Text.pieces] using hsplit
  | current _ ih =>
    have hsplit := SegmentCache.realPieces_append path "."
    rw [← String.append_assoc, ih]
    simpa [SegmentCache.realPieces, Text.pieces, String.append_assoc] using hsplit

/-- A path leads to a name: the name stands last in it but for an idle tail, alone or behind a
directory. -/
def LeadsTo (path name : String) : Prop :=
  ∃ tail, IdleTail tail ∧
    (path = name ++ tail ∨ ∃ directory, path = directory ++ "/" ++ name ++ tail)

/-- The key of a path that leads to a name is the name. -/
theorem LeadsTo.entryKey {path name : String} (hleads : LeadsTo path name) (hname : IsName name) :
    entryKey path = name := by
  have hlast : (realPieces path).getLast? = some name.toList := by
    obtain ⟨tail, htail, rfl | ⟨directory, rfl⟩⟩ := hleads
    · rw [htail.realPieces_append, hname.realPieces]
      rfl
    · rw [htail.realPieces_append, realPieces_append, hname.realPieces]
      simp
  rcases entryKey_cases path with ⟨last, hfound, -, hkey⟩ | ⟨hnameless, -⟩
  · rw [hkey, Option.some.inj (hfound.symm.trans hlast), String.ofList_toList]
  · exact absurd (String.toList_inj.mp (hnameless _ hlast)) hname.notParent

/-- Behind its first piece, a text whose other pieces are empty or the current directory is an idle
tail. -/
theorem exists_idleTail {cs piece : List Char} {rest : List (List Char)}
    (hidle : ∀ other ∈ rest, other = [] ∨ other = ['.'])
    (hpieces : Text.pieces '/' cs = piece :: rest) :
    ∃ tail, IdleTail tail ∧ cs = piece ++ tail.toList := by
  induction rest generalizing cs piece with
  | nil => exact ⟨"", .nil, by rw [Text.eq_of_pieces_eq_singleton hpieces]; simp⟩
  | cons next rest ih =>
    obtain ⟨xs, ys, rfl, hxs, hys⟩ :=
      @Text.exists_append_of_pieces '/' cs piece [] (next :: rest) (List.cons_ne_nil _ _) hpieces
    obtain rfl := Text.eq_of_pieces_eq_singleton hxs
    obtain ⟨tail, htail, rfl⟩ := ih (fun other hother => hidle other (by simp [hother])) hys
    rcases hidle next (by simp) with rfl | rfl
    · exact ⟨_, htail.separator, by simp⟩
    · exact ⟨_, htail.current, by simp⟩

/-- A path leads to the last of these pieces. -/
theorem leadsTo_of_getLast? {path : String} {last : List Char}
    (hlast : (realPieces path).getLast? = some last) : LeadsTo path (String.ofList last) := by
  obtain ⟨earlier, hreal⟩ := List.getLast?_eq_some_iff.mp hlast
  obtain ⟨front, back, hpieces, -, hback⟩ := List.filter_eq_append_iff.mp hreal
  obtain ⟨skipped, rest, rfl, -, -, hrest⟩ := List.filter_eq_cons_iff.mp hback
  have hidle : ∀ other ∈ rest, other = [] ∨ other = ['.'] := by
    intro other hother
    have hdropped := List.filter_eq_nil_iff.mp hrest other hother
    by_contra hreal
    simp_all
  rw [← List.append_assoc] at hpieces
  cases hbefore : front ++ skipped with
  | nil =>
    rw [hbefore] at hpieces
    obtain ⟨tail, htail, hpath⟩ := exists_idleTail hidle hpieces
    exact ⟨tail, htail, Or.inl (String.toList_inj.mp (by simpa using hpath))⟩
  | cons piece pieces =>
    rw [hbefore] at hpieces
    obtain ⟨directory, ys, hpath, -, hys⟩ :=
      Text.exists_append_of_pieces (List.cons_ne_nil _ _) hpieces
    obtain ⟨tail, htail, rfl⟩ := exists_idleTail hidle hys
    exact ⟨tail, htail, Or.inr ⟨String.ofList directory,
      String.toList_inj.mp (by simpa using hpath)⟩⟩

/-- A piece that leads anywhere but to the parent directory is a name. -/
theorem isName_of_mem {path : String} {piece : List Char}
    (hreal : piece ∈ realPieces path) (hparent : piece ≠ ['.', '.']) :
    IsName (String.ofList piece) := by
  obtain ⟨hpiece, hempty, hcurrent⟩ := mem_realPieces.mp hreal
  have hsingle := Text.not_mem_of_mem_pieces hpiece
  constructor <;> simp_all [Text.ofList_eq_iff]

/-- The key of a path is the path itself, or a name that the path leads to. -/
theorem entryKey_self_or_name (path : String) :
    entryKey path = path ∨ (IsName (entryKey path) ∧ LeadsTo path (entryKey path)) := by
  rcases entryKey_cases path with ⟨last, hlast, hparent, hkey⟩ | ⟨-, hself⟩
  · rw [hkey]
    exact Or.inr ⟨isName_of_mem (List.mem_of_getLast? hlast) hparent, leadsTo_of_getLast? hlast⟩
  · exact Or.inl hself

/-- The key of a path is its last piece that is neither empty nor the current directory, unless
there is none or it is the parent directory. Then the path is its own key. So a key is its own key,
a name behind a directory and before an idle tail is the key, and a key with a separator in it is
the path.
Conversely, a path with a name for its key leads to that name. -/
theorem entryKey_is_last_piece :
    (∀ path last, lastPiece? path = some last → last ≠ ".." → entryKey path = last) ∧
    (∀ path, lastPiece? path = none ∨ lastPiece? path = some ".." → entryKey path = path) ∧
    (∀ path, entryKey (entryKey path) = entryKey path) ∧
    (∀ directory name tail, IsName name → IdleTail tail →
      entryKey (directory ++ "/" ++ name ++ tail) = name) ∧
    (∀ path, '/' ∈ (entryKey path).toList → entryKey path = path) ∧
    ∀ path name, IsName name → entryKey path = name → LeadsTo path name := by
  refine ⟨?_, ?_, entryKey_entryKey, ?_, ?_, ?_⟩
  · intro path last hlast hparent
    rw [lastPiece?_eq] at hlast
    obtain ⟨piece, hpiece, rfl⟩ := Option.map_eq_some_iff.mp hlast
    rcases entryKey_cases path with ⟨found, hfound, -, hkey⟩ | ⟨hnameless, -⟩
    · rw [hkey, Option.some.inj (hfound.symm.trans hpiece)]
    · rw [hnameless piece hpiece] at hparent
      exact absurd rfl hparent
  · intro path hnone
    rw [lastPiece?_eq] at hnone
    rcases entryKey_cases path with ⟨found, hfound, hparent, -⟩ | ⟨-, hself⟩
    · rw [hfound, Option.map_some, Option.some.injEq, Text.ofList_eq_iff] at hnone
      rcases hnone with hnone | hsame
      · cases hnone
      · exact absurd hsame hparent
    · exact hself
  · intro directory name tail hname htail
    exact LeadsTo.entryKey ⟨tail, htail, Or.inr ⟨directory, rfl⟩⟩ hname
  · intro path hseparator
    rcases entryKey_self_or_name path with hself | ⟨hname, -⟩
    · exact hself
    · exact absurd hseparator hname.single
  · rintro path name hname rfl
    rcases entryKey_self_or_name path with hself | ⟨-, hleads⟩
    · exact ⟨"", .nil, Or.inl (by rw [hself, String.append_empty])⟩
    · exact hleads

/-- A name behind a parent directory and a doubled separator, before a tail of both kinds, and two
paths that are their own keys. -/
theorem entryKey_is_last_piece_written :
    IsName "job.1" ∧ IdleTail "/././/" ∧ lastPiece? "/data/..//job.1/././/" = some "job.1" ∧
      entryKey ("/data/../" ++ "/" ++ "job.1" ++ "/././/") = "job.1" ∧
      lastPiece? "data/.." = some ".." ∧ entryKey "data/.." = "data/.." ∧
      lastPiece? "/./" = none ∧ entryKey "/./" = "/./" := by
  have hname : IsName "job.1" := by
    constructor <;> decide
  have htail : IdleTail "/././/" := .current (.current (.separator (.separator .nil)))
  obtain ⟨-, hnameless, -, hwritten, -, -⟩ := entryKey_is_last_piece
  have hparent : lastPiece? "data/.." = some ".." := by decide +kernel
  have hnone : lastPiece? "/./" = none := by decide +kernel
  exact ⟨hname, htail, by decide +kernel, hwritten _ _ _ hname htail, hparent,
    hnameless _ (Or.inr hparent), hnone, hnameless _ (Or.inl hnone)⟩

end SegmentCache
