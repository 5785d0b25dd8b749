import Std.Data.ExtTreeMap

/-!
# Byte order of names

Names are compared by their characters, while other programs compare them by the bytes of their
UTF-8 form. The two orders agree: a smaller character has a smaller encoding, whatever follows
it, because a longer encoding starts with a larger byte and encodings of one length compare digit
by digit.
-/

namespace SegmentCache.Text

/-- The bytes of a text in its UTF-8 form. -/
def bytes (s : String) : List UInt8 :=
  s.toUTF8.data.toList

/-- The bytes of a text are those of its characters in turn. -/
theorem bytes_eq_flatMap (s : String) : bytes s = s.toList.flatMap String.utf8EncodeChar := by
  have hbytes : bytes s = s.toList.utf8Encode.data.toList := by
    rw [String.utf8Encode_toList]
    rfl
  rw [hbytes]
  simp [List.utf8Encode]

private theorem ofNat_cons_lt_ofNat_cons {m n : Nat} {x y : List UInt8}
    (hm : m < 256) (hn : n < 256) :
    UInt8.ofNat m :: x < UInt8.ofNat n :: y ↔ m < n ∨ m = n ∧ x < y := by
  rw [List.cons_lt_cons_iff, UInt8.lt_iff_toNat_lt, ← UInt8.toNat_inj,
    UInt8.toNat_ofNat_of_lt' hm, UInt8.toNat_ofNat_of_lt' hn]

/-- A smaller character has a smaller encoding, whatever follows the two. The encodings differ
at a byte that both have, so neither begins the other. -/
theorem utf8EncodeChar_append_lt {c d : Char} (hcd : c < d) (x y : List UInt8) :
    String.utf8EncodeChar c ++ x < String.utf8EncodeChar d ++ y := by
  have hval : c.val.toNat < d.val.toNat := hcd
  have hbound : d.val.toNat < 1114112 := by
    have hvalid := d.valid
    simp only [UInt32.isValidChar, Nat.isValidChar] at hvalid
    omega
  have hc : c.val.toNat / 262144 % 8 = c.val.toNat / 262144 := by omega
  have hd : d.val.toNat / 262144 % 8 = d.val.toNat / 262144 := by omega
  simp only [String.utf8EncodeChar]
  -- One goal for each pair of lengths; those in which the smaller character is longer are absurd.
  repeat' split
  all_goals
    simp (disch := omega) only [List.cons_append, List.nil_append, ofNat_cons_lt_ofNat_cons]
    omega

/-- Encoding keeps the order of character lists. -/
theorem flatMap_utf8EncodeChar_lt {l m : List Char} (hlm : l < m) :
    l.flatMap String.utf8EncodeChar < m.flatMap String.utf8EncodeChar := by
  induction hlm with
  | nil =>
    rename_i c m
    obtain ⟨b, bs, hb⟩ := List.exists_cons_of_ne_nil (String.utf8EncodeChar_ne_nil (c := c))
    simp [hb]
  | rel hcd => exact utf8EncodeChar_append_lt hcd _ _
  | cons _ ih =>
    rw [List.flatMap_cons, List.flatMap_cons]
    exact List.append_left_lt ih

/-- The order of texts is the order of their bytes. -/
theorem bytes_lt_bytes_iff {s t : String} : bytes s < bytes t ↔ s < t := by
  have hkeep {s t : String} (h : s < t) : bytes s < bytes t := by
    rw [bytes_eq_flatMap, bytes_eq_flatMap]
    exact flatMap_utf8EncodeChar_lt h
  refine ⟨fun h => Decidable.byContradiction fun hnot => ?_, hkeep⟩
  by_cases heq : s = t
  · subst heq
    exact List.lt_irrefl _ h
  · have hts : t < s := by
      apply Decidable.byContradiction
      intro hst
      exact heq (String.le_antisymm (String.not_lt.mp hst) (String.not_lt.mp hnot))
    exact List.lt_asymm h (hkeep hts)

/-- The comparison by which names are kept in order is a comparison of bytes. -/
theorem compare_eq_lt_iff {s t : String} : compare s t = .lt ↔ bytes s < bytes t := by
  rw [bytes_lt_bytes_iff]
  exact compareOfLessAndEq_eq_lt

end SegmentCache.Text
