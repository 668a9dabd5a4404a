import Mathlib.Algebra.Order.Ring.Int
import Mathlib.Order.Basic

namespace Ros2Client

/-- `builtin_interfaces::Time`: nanoseconds since the Unix epoch, a signed 64-bit count. -/
structure Time where
  nanosSinceEpoch : Int64
deriving DecidableEq

def Time.zero : Time := ⟨0⟩

instance : LT Time := ⟨fun left right => left.nanosSinceEpoch < right.nanosSinceEpoch⟩

instance (left right : Time) : Decidable (left < right) :=
  inferInstanceAs (Decidable (left.nanosSinceEpoch < right.nanosSinceEpoch))

instance : LE Time := ⟨fun left right => left.nanosSinceEpoch ≤ right.nanosSinceEpoch⟩

instance (left right : Time) : Decidable (left ≤ right) :=
  inferInstanceAs (Decidable (left.nanosSinceEpoch ≤ right.nanosSinceEpoch))

theorem Time.lt_iff_le_and_ne {left right : Time} : left < right ↔ left ≤ right ∧ left ≠ right := by
  have apart : left ≠ right ↔ left.nanosSinceEpoch ≠ right.nanosSinceEpoch := by
    cases left
    cases right
    simp
  rw [apart]
  exact Int64.lt_iff_le_and_ne

theorem Time.le_refl (time : Time) : time ≤ time := Int64.le_refl _

theorem Time.le_antisymm {left right : Time} (below : left ≤ right) (above : right ≤ left) : left = right :=
  congrArg Time.mk (Int64.le_antisymm below above)

theorem Time.le_maxValue (time : Time) : time ≤ ⟨Int64.maxValue⟩ := Int64.le_maxValue _

/-- `repr::Time`, the form that goes over the wire. -/
structure ReprTime where
  sec : Int32
  nanosec : UInt32
deriving DecidableEq

def ReprTime.toTime (rt : ReprTime) : Time := ⟨rt.sec.toInt64 * 1000000000 + .ofNat rt.nanosec.toNat⟩

/-- `quotSat - 1` wraps from `i32::MIN`, where no overflow check stops the program. -/
def Time.toRepr (t : Time) : ReprTime :=
  let quot := t.nanosSinceEpoch / 1000000000
  let rem := t.nanosSinceEpoch % 1000000000
  if 0 ≤ rem then
    { sec :=
        if Int32.maxValue.toInt64 < quot then Int32.maxValue
        else if quot < Int32.minValue.toInt64 then Int32.minValue
        else quot.toInt32
      nanosec := .ofInt rem.toInt }
  else
    let quotSat := if Int32.minValue.toInt64 ≤ quot then quot.toInt32 else Int32.minValue
    { sec := quotSat - 1
      nanosec := .ofInt (1000000000 + rem).toInt }

theorem ReprTime.toInt_toTime (rt : ReprTime) :
    rt.toTime.nanosSinceEpoch.toInt = rt.sec.toInt * 1000000000 + rt.nanosec.toNat := by
  have low := rt.sec.le_toInt
  have high := rt.sec.toInt_lt
  have small := rt.nanosec.toNat_lt
  have constant : (1000000000 : Int64).toInt = 1000000000 := by decide
  have nanos : (Int64.ofNat rt.nanosec.toNat).toInt = rt.nanosec.toNat := Int64.toInt_ofNat_of_lt (by omega)
  have seconds : (rt.sec.toInt64 * 1000000000).toInt = rt.sec.toInt * 1000000000 := by
    rw [Int64.toInt_mul, Int32.toInt_toInt64, constant]
    exact Int.bmod_eq_of_le (by omega) (by omega)
  rw [toTime, Int64.toInt_add, seconds, nanos]
  exact Int.bmod_eq_of_le (by omega) (by omega)

theorem rem_of_nonneg {t : Int64} (positive : 0 ≤ t % 1000000000) :
    (t % 1000000000).toInt = t.toInt % 1000000000 ∧ (t / 1000000000).toInt = t.toInt / 1000000000 := by
  have constant : (1000000000 : Int64).toInt = 1000000000 := by decide
  have zero : (0 : Int64).toInt = 0 := by decide
  rw [Int64.le_iff_toInt_le, Int64.toInt_mod, constant, zero, Int.tmod_eq_emod] at positive
  rw [Int64.toInt_mod, Int64.toInt_div_of_ne_right _ _ (by decide), constant, Int.tmod_eq_emod, Int.tdiv_eq_ediv]
  split at positive
  · rename_i exact
    simp [exact]
  · simp at positive
    omega

theorem rem_of_neg {t : Int64} (negative : ¬0 ≤ t % 1000000000) :
    t.toInt < 0 ∧ (t % 1000000000).toInt + 1000000000 = t.toInt % 1000000000 ∧
      (t / 1000000000).toInt - 1 = t.toInt / 1000000000 := by
  have constant : (1000000000 : Int64).toInt = 1000000000 := by decide
  have zero : (0 : Int64).toInt = 0 := by decide
  rw [Int64.le_iff_toInt_le, Int64.toInt_mod, constant, zero, Int.tmod_eq_emod] at negative
  rw [Int64.toInt_mod, Int64.toInt_div_of_ne_right _ _ (by decide), constant, Int.tmod_eq_emod, Int.tdiv_eq_ediv]
  split at negative
  · simp at negative
    omega
  · rename_i inexact
    simp only [inexact, if_false]
    have unit : Int.sign 1000000000 = 1 := rfl
    omega


theorem toNat_ofInt {number : Int} (low : 0 ≤ number) (high : number < 2 ^ 32) :
    ((UInt32.ofInt number).toNat : Int) = number := by
  rw [UInt32.ofInt, UInt32.toNat_ofNat_of_lt' (by simp only [UInt32.size]; omega)]
  omega

theorem Time.nanosec_toRepr (t : Time) :
    (t.toRepr.nanosec.toNat : Int) = t.nanosSinceEpoch.toInt % 1000000000 := by
  have constant : (1000000000 : Int64).toInt = 1000000000 := by decide
  unfold toRepr
  by_cases positive : 0 ≤ t.nanosSinceEpoch % 1000000000
  · have rem := (rem_of_nonneg positive).1
    simp only [if_pos positive, rem]
    exact toNat_ofInt (by omega) (by omega)
  · have rem := (rem_of_neg positive).2.1
    have sum : (1000000000 + t.nanosSinceEpoch % 1000000000).toInt = t.nanosSinceEpoch.toInt % 1000000000 := by
      rw [Int64.toInt_add, constant, ← rem, Int.add_comm]
      exact Int.bmod_eq_of_le (by omega) (by omega)
    simp only [if_neg positive, sum]
    exact toNat_ofInt (by omega) (by omega)

def Time.FitsRepr (t : Time) : Prop :=
  -2147483648 ≤ t.nanosSinceEpoch.toInt / 1000000000 ∧ t.nanosSinceEpoch.toInt / 1000000000 ≤ 2147483647

instance (t : Time) : Decidable t.FitsRepr := inferInstanceAs (Decidable (_ ∧ _))

theorem toInt_toInt32 {quot : Int64} (low : -2147483648 ≤ quot.toInt) (high : quot.toInt ≤ 2147483647) :
    quot.toInt32.toInt = quot.toInt := by
  rw [Int64.toInt_toInt32]
  exact Int.bmod_eq_of_le (by omega) (by omega)

theorem Time.sec_toRepr {t : Time} (fits : t.FitsRepr) :
    t.toRepr.sec.toInt = t.nanosSinceEpoch.toInt / 1000000000 := by
  obtain ⟨low, high⟩ := fits
  have max : Int32.maxValue.toInt64.toInt = 2147483647 := by decide
  have min : Int32.minValue.toInt64.toInt = -2147483648 := by decide
  unfold toRepr
  by_cases positive : 0 ≤ t.nanosSinceEpoch % 1000000000
  · have quot := (rem_of_nonneg positive).2
    have below : ¬Int32.maxValue.toInt64 < t.nanosSinceEpoch / 1000000000 := by
      rw [Int64.lt_iff_toInt_lt]
      omega
    have above : ¬t.nanosSinceEpoch / 1000000000 < Int32.minValue.toInt64 := by
      rw [Int64.lt_iff_toInt_lt]
      omega
    simp only [if_pos positive, if_neg below, if_neg above]
    rw [toInt_toInt32 (by omega) (by omega), quot]
  · obtain ⟨negative, -, quot⟩ := rem_of_neg positive
    have above : Int32.minValue.toInt64 ≤ t.nanosSinceEpoch / 1000000000 := by
      rw [Int64.le_iff_toInt_le]
      omega
    have one : (1 : Int32).toInt = 1 := by decide
    simp only [if_neg positive, if_pos above]
    rw [Int32.toInt_sub, toInt_toInt32 (by omega) (by omega), quot.symm, one]
    exact Int.bmod_eq_of_le (by omega) (by omega)

theorem Time.toTime_toRepr_iff (t : Time) : t.toRepr.toTime = t ↔ t.FitsRepr := by
  have nanosec := t.nanosec_toRepr
  have whole := t.toRepr.toInt_toTime
  constructor
  · intro same
    have low := t.toRepr.sec.le_toInt
    have high := t.toRepr.sec.toInt_lt
    rw [same] at whole
    unfold FitsRepr
    omega
  · intro fits
    have sec := sec_toRepr fits
    have same : t.toRepr.toTime.nanosSinceEpoch = t.nanosSinceEpoch := Int64.toInt_inj.mp (by omega)
    cases t
    exact congrArg Time.mk same

end Ros2Client
