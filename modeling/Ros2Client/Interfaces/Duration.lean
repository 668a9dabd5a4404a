import Ros2Client.Interfaces.WireTime

namespace Ros2Client

/-- `builtin_interfaces::Duration`, as it goes over the wire. -/
structure Duration where
  sec : Int32
  nanosec : UInt32
deriving DecidableEq

def Duration.fromNanos (nanos : Int64) : Duration :=
  let quot := nanos / 1000000000
  let rem := nanos % 1000000000
  if 0 ≤ rem then
    if Int32.maxValue.toInt64 < quot then ⟨Int32.maxValue, 4294967295⟩
    else if quot ≤ Int32.minValue.toInt64 then ⟨Int32.minValue, 0⟩
    else ⟨quot.toInt32, .ofInt rem.toInt⟩
  else
    if quot ≤ Int32.minValue.toInt64 then ⟨Int32.minValue, 0⟩
    -- The comment above the source's type says `quotient - 1`.
    else ⟨(quot + 1).toInt32, .ofInt (1000000000 + rem).toInt⟩

def Duration.toNanos (duration : Duration) : Int64 :=
  1000000000 * duration.sec.toInt64 + .ofNat duration.nanosec.toNat

/-- The duration stands for the count of nanoseconds, unless the seconds, rounded down, leave the 32-bit range. -/
structure Duration.KeepsValue (nanos : Int64) : Prop where
  inside : -2147483648 < nanos.toInt / 1000000000 → nanos.toInt / 1000000000 ≤ 2147483647 →
    (fromNanos nanos).nanosec.toNat < 1000000000 ∧ (fromNanos nanos).toNanos = nanos
  above : 2147483647 < nanos.toInt / 1000000000 → fromNanos nanos = ⟨Int32.maxValue, 4294967295⟩
  below : nanos.toInt / 1000000000 ≤ -2147483648 → fromNanos nanos = ⟨Int32.minValue, 0⟩

def UsesPlainBranch (nanos : Int64) : Prop :=
  0 ≤ nanos.toInt ∨ nanos.toInt % 1000000000 = 0 ∨ nanos.toInt / 1000000000 < -2147483648

instance (nanos : Int64) : Decidable (UsesPlainBranch nanos) := inferInstanceAs (Decidable (_ ∨ _))

theorem Duration.toInt_toNanos (duration : Duration) :
    duration.toNanos.toInt = duration.sec.toInt * 1000000000 + duration.nanosec.toNat := by
  have same : duration.toNanos = (ReprTime.mk duration.sec duration.nanosec).toTime.nanosSinceEpoch := by
    rw [toNanos, ReprTime.toTime, Int64.mul_comm]
  rw [same, ReprTime.toInt_toTime]

theorem Duration.fromNanos_whole {nanos : Int64} (positive : 0 ≤ nanos % 1000000000) : fromNanos nanos =
    if 2147483647 < nanos.toInt / 1000000000 then ⟨Int32.maxValue, 4294967295⟩
    else if nanos.toInt / 1000000000 ≤ -2147483648 then ⟨Int32.minValue, 0⟩
    else ⟨(nanos / 1000000000).toInt32, .ofInt (nanos % 1000000000).toInt⟩ := by
  have most : Int32.maxValue.toInt64.toInt = 2147483647 := by decide
  have least : Int32.minValue.toInt64.toInt = -2147483648 := by decide
  have quot := (rem_of_nonneg positive).2
  unfold fromNanos
  rw [if_pos positive]
  simp only [Int64.lt_iff_toInt_lt, Int64.le_iff_toInt_le, most, least, quot]

theorem Duration.fromNanos_fractional {nanos : Int64} (negative : ¬0 ≤ nanos % 1000000000) : fromNanos nanos =
    if nanos.toInt / 1000000000 < -2147483648 then ⟨Int32.minValue, 0⟩
    else ⟨(nanos / 1000000000 + 1).toInt32, .ofInt (1000000000 + nanos % 1000000000).toInt⟩ := by
  have least : Int32.minValue.toInt64.toInt = -2147483648 := by decide
  obtain ⟨_, _, quot⟩ := rem_of_neg negative
  have reached : (nanos / 1000000000).toInt ≤ -2147483648 ↔ nanos.toInt / 1000000000 < -2147483648 := by omega
  unfold fromNanos
  rw [if_neg negative]
  simp only [Int64.le_iff_toInt_le, least, reached]

/-- The negative fractions come out two seconds late. -/
theorem Duration.fractional_late {nanos : Int64} (negative : ¬0 ≤ nanos % 1000000000)
    (inside : -2147483648 ≤ nanos.toInt / 1000000000) :
    (fromNanos nanos).sec.toInt = nanos.toInt / 1000000000 + 2 ∧
      ((fromNanos nanos).nanosec.toNat : Int) = nanos.toInt % 1000000000 := by
  have constant : (1000000000 : Int64).toInt = 1000000000 := by decide
  have one : (1 : Int64).toInt = 1 := by decide
  obtain ⟨below, rem, quot⟩ := rem_of_neg negative
  have next : (nanos / 1000000000 + 1).toInt = nanos.toInt / 1000000000 + 2 := by
    rw [Int64.toInt_add, one, Int.bmod_eq_of_le (by omega) (by omega)]
    omega
  have sum : (1000000000 + nanos % 1000000000).toInt = nanos.toInt % 1000000000 := by
    rw [Int64.toInt_add, constant, Int.bmod_eq_of_le (by omega) (by omega)]
    omega
  rw [fromNanos_fractional negative, if_neg (by omega)]
  refine ⟨?_, ?_⟩
  · rw [toInt_toInt32 (by omega) (by omega), next]
  · rw [sum, toNat_ofInt (by omega) (by omega)]

theorem Duration.keepsValue_whole {nanos : Int64} (positive : 0 ≤ nanos % 1000000000) : KeepsValue nanos := by
  have built := fromNanos_whole positive
  obtain ⟨rem, quot⟩ := rem_of_nonneg positive
  refine ⟨?_, ?_, ?_⟩
  · intro low high
    rw [if_neg (by omega), if_neg (by omega)] at built
    have sec : (fromNanos nanos).sec.toInt = nanos.toInt / 1000000000 := by
      rw [built, toInt_toInt32 (by omega) (by omega), quot]
    have nanosec : ((fromNanos nanos).nanosec.toNat : Int) = nanos.toInt % 1000000000 := by
      rw [built, rem, toNat_ofInt (by omega) (by omega)]
    have whole := (fromNanos nanos).toInt_toNanos
    exact ⟨by omega, Int64.toInt_inj.mp (by omega)⟩
  · intro above
    rw [built, if_pos above]
  · intro below
    rw [built, if_neg (by omega), if_pos below]

theorem Duration.keepsValue_iff (nanos : Int64) : KeepsValue nanos ↔ UsesPlainBranch nanos := by
  have sign := rem_nonneg_iff nanos
  unfold UsesPlainBranch
  by_cases positive : 0 ≤ nanos % 1000000000
  · have plain := sign.mp positive
    exact iff_of_true (keepsValue_whole positive) (by omega)
  · have fractional := mt sign.mpr positive
    by_cases inside : -2147483648 ≤ nanos.toInt / 1000000000
    · refine iff_of_false ?_ (by omega)
      intro kept
      obtain ⟨sec, nanosec⟩ := fractional_late positive inside
      have whole := (fromNanos nanos).toInt_toNanos
      rcases Int.lt_or_eq_of_le inside with strict | least
      · have same := (kept.inside strict (by omega)).2
        rw [same] at whole
        omega
      · have saturated := kept.below (by omega)
        have min : Int32.minValue.toInt = -2147483648 := by decide
        rw [saturated, min] at sec
        omega
    · have built := fromNanos_fractional positive
      rw [if_pos (by omega)] at built
      exact iff_of_true ⟨by omega, by omega, fun _ => built⟩ (by omega)

/-- Between counts whose values are kept, the order is kept too, also where both ends saturate. -/
theorem Duration.toNanos_le {first second : Int64} (kept : KeepsValue first) (kept' : KeepsValue second)
    (ordered : first ≤ second) : (fromNanos first).toNanos ≤ (fromNanos second).toNanos := by
  have largest : (⟨Int32.maxValue, 4294967295⟩ : Duration).toNanos.toInt = 2147483651294967295 := by decide
  have smallest : (⟨Int32.minValue, 0⟩ : Duration).toNanos.toInt = -2147483648000000000 := by decide
  rw [Int64.le_iff_toInt_le] at ordered ⊢
  have value : ∀ {nanos : Int64}, KeepsValue nanos →
      (fromNanos nanos).toNanos.toInt =
        if 2147483647 < nanos.toInt / 1000000000 then 2147483651294967295
        else if nanos.toInt / 1000000000 ≤ -2147483648 then -2147483648000000000 else nanos.toInt := by
    intro nanos kept
    split
    · rw [kept.above ‹_›, largest]
    · split
      · rw [kept.below ‹_›, smallest]
      · rw [(kept.inside (by omega) (by omega)).2]
  rw [value kept, value kept']
  split <;> split <;> (try split) <;> omega

theorem duration_keeps_value_iff (n m : Int64) :
    (Duration.KeepsValue n ∧ Duration.KeepsValue m ∧
      (n ≤ m → (Duration.fromNanos n).toNanos ≤ (Duration.fromNanos m).toNanos)) ↔
      UsesPlainBranch n ∧ UsesPlainBranch m := by
  rw [← Duration.keepsValue_iff, ← Duration.keepsValue_iff]
  constructor
  · intro held
    exact ⟨held.1, held.2.1⟩
  · intro kept
    exact ⟨kept.1, kept.2, Duration.toNanos_le kept.1 kept.2⟩

/-- One nanosecond before zero becomes two seconds less one nanosecond. -/
theorem negative_duration_late : ¬ ∀ n : Int64, Duration.KeepsValue n := by
  intro always
  have kept := ((always (-1)).inside (by decide) (by decide)).2
  revert kept
  decide

end Ros2Client
