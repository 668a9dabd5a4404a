import Mathlib.Algebra.Order.Ring.Int
import Mathlib.Data.List.Basic

namespace Ros2Client

structure StdDuration where
  secs : UInt64
  subsecNanos : UInt32
  bound : subsecNanos.toNat < 1000000000
deriving DecidableEq

namespace StdDuration

def asNanos (duration : StdDuration) : Nat := duration.secs.toNat * 1000000000 + duration.subsecNanos.toNat

def ofTotal (nanos : Nat) : StdDuration where
  secs := .ofNat (nanos / 1000000000)
  subsecNanos := .ofNat (nanos % 1000000000)
  bound := by
    rw [UInt32.toNat_ofNat']
    exact Nat.lt_of_le_of_lt (Nat.mod_le _ _) (Nat.mod_lt _ (by decide))

def fromNanos (nanos : UInt64) : StdDuration := ofTotal nanos.toNat

def cmp (first second : StdDuration) : Ordering :=
  (compare first.secs second.secs).then (compare first.subsecNanos second.subsecNanos)

end StdDuration

namespace StdDuration

theorem asNanos_ofTotal {nanos : Nat} (fits : nanos < 2 ^ 64 * 1000000000) : (ofTotal nanos).asNanos = nanos := by
  have secs : (UInt64.ofNat (nanos / 1000000000)).toNat = nanos / 1000000000 :=
    UInt64.toNat_ofNat_of_lt' (Nat.div_lt_of_lt_mul (by rwa [Nat.mul_comm]))
  have subsec : (UInt32.ofNat (nanos % 1000000000)).toNat = nanos % 1000000000 :=
    UInt32.toNat_ofNat_of_lt' (Nat.lt_trans (Nat.mod_lt _ (by decide)) (by decide))
  rw [asNanos, ofTotal, secs, subsec]
  omega

theorem asNanos_fromNanos (nanos : UInt64) : (fromNanos nanos).asNanos = nanos.toNat := by
  have fits := nanos.toNat_lt
  exact asNanos_ofTotal (by omega)

theorem asNanos_inj {first second : StdDuration} : first.asNanos = second.asNanos ↔ first = second := by
  constructor
  · intro same
    obtain ⟨secs, subsec, bound⟩ := first
    obtain ⟨secs', subsec', bound'⟩ := second
    simp only [asNanos] at same
    have secsSame : secs = secs' := UInt64.toNat_inj.mp (by omega)
    have subsecSame : subsec = subsec' := UInt32.toNat_inj.mp (by omega)
    subst secsSame subsecSame
    rfl
  · intro same
    rw [same]

theorem fromNanos_eq_iff {nanos : Nat} (fits : nanos < 2 ^ 64) (duration : StdDuration) :
    fromNanos (.ofNat nanos) = duration ↔ nanos = duration.asNanos := by
  rw [← asNanos_inj, asNanos_fromNanos, UInt64.toNat_ofNat_of_lt' fits]

/-- The order of the fields is the order of the nanoseconds they stand for. -/
theorem cmp_eq (first second : StdDuration) : first.cmp second = compare first.asNanos second.asNanos := by
  have bound := first.bound
  have bound' := second.bound
  have secs : compare first.secs second.secs = compare first.secs.toNat second.secs.toNat := by
    simp only [compare, compareOfLessAndEq, UInt64.lt_iff_toNat_lt, UInt64.toNat_inj]
  have subsec : compare first.subsecNanos second.subsecNanos =
      compare first.subsecNanos.toNat second.subsecNanos.toNat := by
    simp only [compare, compareOfLessAndEq, UInt32.lt_iff_toNat_lt, UInt32.toNat_inj]
  rw [cmp, secs, subsec]
  rcases Nat.lt_trichotomy first.secs.toNat second.secs.toNat with less | same | greater
  · have total : first.asNanos < second.asNanos := by simp only [asNanos]; omega
    rw [Nat.compare_eq_lt.mpr less, Nat.compare_eq_lt.mpr total]
    rfl
  · rw [Nat.compare_eq_eq.mpr same, asNanos, asNanos, same]
    simp [compare, compareOfLessAndEq, Ordering.then]
  · have total : second.asNanos < first.asNanos := by simp only [asNanos]; omega
    rw [Nat.compare_eq_gt.mpr greater, Nat.compare_eq_gt.mpr total]
    rfl

end StdDuration

end Ros2Client
