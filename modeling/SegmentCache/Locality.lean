import Std.Data.ExtTreeMap

/-!
# Localities

A cached object lives in host memory or on one of the devices. Every locality has its own
capacity and its own count of used bytes.
-/

namespace SegmentCache

/-- Where an object lives. -/
inductive Locality where
  /-- Host memory. -/
  | cpu
  /-- The device with the given number. -/
  | gpu (device : UInt32)
  deriving DecidableEq, Repr, Inhabited

namespace Locality

/-- The device of a locality, if it is one. -/
def device? : Locality → Option UInt32
  | .cpu => none
  | .gpu device => some device

/-- How a locality is shown in messages. -/
def text : Locality → String
  | .cpu => "cpu"
  | .gpu device => "gpu:" ++ toString device.toNat

/-- Position of a locality in their order: host memory first, then the devices by number. -/
def rank : Locality → Nat
  | .cpu => 0
  | .gpu device => device.toNat + 1

/-- Different places have different ranks. -/
theorem rank_injective {a b : Locality} (h : a.rank = b.rank) : a = b := by
  cases a <;> cases b <;> simp [rank] at h ⊢
  exact UInt32.toNat_inj.mp h

instance : Ord Locality where
  compare a b := compare a.rank b.rank

instance : Std.TransOrd Locality where
  eq_swap {a b} :=
    show compare a.rank b.rank = (compare b.rank a.rank).swap from Std.OrientedOrd.eq_swap
  isLE_trans {a b c} :=
    show (compare a.rank b.rank).isLE = true → (compare b.rank c.rank).isLE = true →
      (compare a.rank c.rank).isLE = true from Std.TransCmp.isLE_trans

instance : Std.LawfulEqOrd Locality where
  eq_of_compare h := rank_injective (Std.LawfulEqOrd.eq_of_compare h)

end Locality

end SegmentCache
