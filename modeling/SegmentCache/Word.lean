/-!
# Arithmetic on 64-bit words

Sizes, hit counts and capacities are 64-bit words. A total that would not fit is either held at
the largest word or refused; it never wraps around. The lemmas below say so in the natural
numbers, which is where every later argument about totals takes place.
-/

namespace SegmentCache.Word

/-- The largest word, at which saturating sums stop. -/
def max : UInt64 := 18446744073709551615

/-- The sum of two words, held at the largest word when it does not fit. -/
def addSat (a b : UInt64) : UInt64 :=
  if a.toNat + b.toNat < UInt64.size then a + b else max

/-- The difference of two words, held at zero when it would be negative. -/
def subSat (a b : UInt64) : UInt64 :=
  if b ≤ a then a - b else 0

/-- The sum of two words, or nothing when it does not fit. -/
def addChecked (a b : UInt64) : Option UInt64 :=
  if a.toNat + b.toNat < UInt64.size then some (a + b) else none

/-- A saturating sum is the exact sum cut off at the largest word. -/
theorem toNat_addSat (a b : UInt64) :
    (addSat a b).toNat = min (a.toNat + b.toNat) (UInt64.size - 1) := by
  unfold addSat
  split
  · rename_i h
    rw [UInt64.toNat_add, Nat.mod_eq_of_lt h]
    omega
  · rename_i h
    have hmax : max.toNat = UInt64.size - 1 := by decide
    omega

/-- A saturating difference is truncated subtraction. -/
theorem toNat_subSat (a b : UInt64) : (subSat a b).toNat = a.toNat - b.toNat := by
  unfold subSat
  split
  · rename_i h
    exact UInt64.toNat_sub_of_le a b h
  · rename_i h
    have hlt : a.toNat < b.toNat := by simpa [UInt64.le_iff_toNat_le] using h
    have hzero : (0 : UInt64).toNat = 0 := rfl
    omega

/-- A checked sum fails exactly when the exact sum leaves the range of a word. -/
theorem addChecked_eq_none_iff (a b : UInt64) :
    addChecked a b = none ↔ UInt64.size ≤ a.toNat + b.toNat := by
  unfold addChecked
  split <;> simp <;> omega

end SegmentCache.Word
