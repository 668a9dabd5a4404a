import Ros2Client.Interfaces.StdDuration
import Mathlib.Data.Int.Order.Basic

namespace Ros2Client.Steady

structure InstantLine where
  holds : Int → Bool
  span : ∀ first second, holds first = true → holds second = true → first - second < 2 ^ 64 * 1000000000

structure Instant (line : InstantLine) where
  nanos : Int
  held : line.holds nanos = true
deriving DecidableEq

namespace Instant

variable {line : InstantLine}

def atPlace (nanos : Int) : Option (Instant line) :=
  if held : line.holds nanos = true then some ⟨nanos, held⟩ else none

def checkedAdd (instant : Instant line) (duration : StdDuration) : Option (Instant line) :=
  atPlace (instant.nanos + duration.asNanos)

def checkedSub (instant : Instant line) (duration : StdDuration) : Option (Instant line) :=
  atPlace (instant.nanos - duration.asNanos)

def checkedDurationSince (instant earlier : Instant line) : Option StdDuration :=
  if earlier.nanos ≤ instant.nanos then some (.ofTotal (instant.nanos - earlier.nanos).toNat) else none

def saturatingDurationSince (instant earlier : Instant line) : StdDuration :=
  (instant.checkedDurationSince earlier).getD (.ofTotal 0)

end Instant

/-- The sign of a zero duration is left to the functions that build one. -/
structure TimeDiff where
  duration : StdDuration
  isNegative : Bool
deriving DecidableEq

namespace TimeDiff

def fromNanos (nanos : Int64) : TimeDiff :=
  if 0 ≤ nanos then ⟨.fromNanos nanos.toUInt64, false⟩ else ⟨.fromNanos (-nanos).toUInt64, true⟩

def asNanos (diff : TimeDiff) : Int64 :=
  let n := diff.duration.asNanos
  let n := if 9223372036854775807 < n then Int64.maxValue else .ofNat n
  if diff.isNegative then -n else n

def cmp (self other : TimeDiff) : Ordering :=
  match self.isNegative, other.isNegative with
  | false, false => self.duration.cmp other.duration
  | true, true => (self.duration.cmp other.duration).swap
  | false, true => .gt
  | true, false => .lt

def add (self other : TimeDiff) : TimeDiff := fromNanos (self.asNanos + other.asNanos)

def sub (self other : TimeDiff) : TimeDiff := fromNanos (self.asNanos - other.asNanos)

def signedNanos (diff : TimeDiff) : Int :=
  if diff.isNegative then -(diff.duration.asNanos : Int) else diff.duration.asNanos

def Canonical (diff : TimeDiff) : Prop := diff.duration.asNanos = 0 → diff.isNegative = false

/-- Strictly between `i64::MIN` and `i64::MAX`. -/
def Inside (nanos : Int) : Prop := -9223372036854775808 < nanos ∧ nanos < 9223372036854775807

end TimeDiff

structure Time (line : InstantLine) where
  instant : Instant line
deriving DecidableEq

namespace Time

variable {line : InstantLine}

def sub (self other : Time line) : TimeDiff :=
  match self.instant.checkedDurationSince other.instant with
  | some duration => ⟨duration, false⟩
  | none => ⟨other.instant.saturatingDurationSince self.instant, true⟩

/-- `Sub<TimeDiff>`; `none` is the panic. -/
def subDiff (self : Time line) (diff : TimeDiff) : Option (Time line) :=
  if diff.isNegative then (self.instant.checkedSub diff.duration).map Time.mk
  else (self.instant.checkedAdd diff.duration).map Time.mk

/-- `Add<TimeDiff>`; `none` is the panic. -/
def addDiff (self : Time line) (diff : TimeDiff) : Option (Time line) :=
  if diff.isNegative then (self.instant.checkedAdd diff.duration).map Time.mk
  else (self.instant.checkedSub diff.duration).map Time.mk

/-- The steady half of `now_with_utc`, from the readings before and after the one of the UTC clock. -/
def nowWithUtc (m0 m1 : Time line) : Option (Time line) :=
  let diff := m1.sub m0
  m0.addDiff (TimeDiff.fromNanos (diff.asNanos / 2))

end Time

/-- The differences that the operations of the module can build. -/
inductive Obtainable (line : InstantLine) : TimeDiff → Prop
  | fromNanos (nanos : Int64) : Obtainable line (.fromNanos nanos)
  | between (first second : Time line) : Obtainable line (first.sub second)
  | add {first second : TimeDiff} : Obtainable line first → Obtainable line second →
      Obtainable line (first.add second)
  | sub {first second : TimeDiff} : Obtainable line first → Obtainable line second →
      Obtainable line (first.sub second)

namespace TimeDiff

/-- A cast to `u64` keeps the value modulo 2^64. -/
theorem toNat_cast (nanos : Int64) : (nanos.toUInt64.toNat : Int) = nanos.toInt % 2 ^ 64 := by
  have small := nanos.toUInt64.toNat_lt
  have bits : nanos.toInt = (nanos.toUInt64.toNat : Int).bmod (2 ^ 64) := BitVec.toInt_eq_toNat_bmod nanos.toBitVec
  rw [bits, Int.bmod_def]
  split <;> omega

theorem signedNanos_fromNanos (nanos : Int64) : (fromNanos nanos).signedNanos = nanos.toInt := by
  have low := nanos.le_toInt
  have high := nanos.toInt_lt
  have zero : (0 : Int64).toInt = 0 := by decide
  unfold fromNanos signedNanos
  by_cases sign : 0 ≤ nanos
  · rw [if_pos sign]
    rw [Int64.le_iff_toInt_le, zero] at sign
    have cast := toNat_cast nanos
    simp only [Bool.false_eq_true, if_false, StdDuration.asNanos_fromNanos]
    omega
  · rw [if_neg sign]
    rw [Int64.le_iff_toInt_le, zero] at sign
    -- The negation of the least number wraps, and its cast is still the magnitude.
    have cast := toNat_cast (-nanos)
    rw [Int64.toInt_neg, Int.bmod_def] at cast
    simp only [if_true, StdDuration.asNanos_fromNanos]
    split at cast <;> omega

theorem toInt_asNanos (diff : TimeDiff) : diff.asNanos.toInt =
    max (-9223372036854775807) (min 9223372036854775807 diff.signedNanos) := by
  have magnitude : (if 9223372036854775807 < diff.duration.asNanos then Int64.maxValue
      else .ofNat diff.duration.asNanos).toInt = min 9223372036854775807 diff.duration.asNanos := by
    by_cases large : 9223372036854775807 < diff.duration.asNanos
    · rw [if_pos large, Int64.toInt_maxValue]
      omega
    · rw [if_neg large, Int64.toInt_ofNat_of_lt (by omega)]
      omega
  unfold asNanos signedNanos
  by_cases sign : diff.isNegative = true
  · simp only [if_pos sign]
    rw [Int64.toInt_neg, magnitude, Int.bmod_eq_of_le (by omega) (by omega)]
    omega
  · simp only [if_neg sign]
    rw [magnitude]
    omega

theorem asNanos_of_inside {diff : TimeDiff} (inside : Inside diff.signedNanos) :
    diff.asNanos.toInt = diff.signedNanos := by
  obtain ⟨low, high⟩ := inside
  rw [toInt_asNanos]
  omega

theorem asNanos_fromNanos {nanos : Int64} (proper : nanos ≠ Int64.minValue) : (fromNanos nanos).asNanos = nanos := by
  have low := nanos.le_toInt
  have high := nanos.toInt_lt
  have least : nanos.toInt ≠ -9223372036854775808 := by
    intro same
    exact proper (Int64.toInt.inj same)
  apply Int64.toInt.inj
  rw [toInt_asNanos, signedNanos_fromNanos]
  omega

theorem canonical_iff {diff : TimeDiff} : diff.Canonical ↔ (diff.isNegative = true ↔ diff.signedNanos < 0) := by
  unfold Canonical signedNanos
  cases diff.isNegative
  case false => simp
  case true =>
    simp only [Bool.true_eq_false, imp_false, if_true, true_iff]
    omega

theorem canonical_fromNanos (nanos : Int64) : (fromNanos nanos).Canonical := by
  have zero : (0 : Int64).toInt = 0 := by decide
  rw [canonical_iff, signedNanos_fromNanos, fromNanos]
  by_cases sign : 0 ≤ nanos
  · rw [if_pos sign]
    rw [Int64.le_iff_toInt_le, zero] at sign
    simpa using sign
  · rw [if_neg sign]
    rw [Int64.le_iff_toInt_le, zero] at sign
    simpa using sign

theorem cmp_eq {first second : TimeDiff} (left : first.Canonical) (right : second.Canonical) :
    first.cmp second = compare first.signedNanos second.signedNanos := by
  rw [canonical_iff] at left right
  unfold cmp
  cases sign : first.isNegative <;> cases sign' : second.isNegative
  case false.false =>
    simp only [signedNanos, sign, sign', Bool.false_eq_true, if_false, StdDuration.cmp_eq]
    simp only [compare, compareOfLessAndEq, Int.ofNat_lt, Int.ofNat_inj]
  case false.true =>
    have less : second.signedNanos < 0 := right.mp sign'
    have atLeast : ¬first.signedNanos < 0 := by rw [← left, sign]; decide
    exact (compare_gt_iff_gt.mpr (by omega)).symm
  case true.false =>
    have less : first.signedNanos < 0 := left.mp sign
    have atLeast : ¬second.signedNanos < 0 := by rw [← right, sign']; decide
    exact (compare_lt_iff_lt.mpr (by omega)).symm
  case true.true =>
    simp only [signedNanos, sign, sign', if_true, StdDuration.cmp_eq, Nat.compare_swap]
    simp only [compare, compareOfLessAndEq, Int.neg_lt_neg_iff, Int.ofNat_lt, Int.neg_inj, Int.ofNat_inj, eq_comm]

/-- With one zero, the number determines the sign and the duration. -/
theorem signedNanos_inj {first second : TimeDiff} (left : first.Canonical) (right : second.Canonical) :
    first.signedNanos = second.signedNanos ↔ first = second := by
  constructor
  · intro same
    rw [canonical_iff] at left right
    have sign : first.isNegative = second.isNegative := by
      rw [Bool.eq_iff_iff, left, right, same]
    have magnitude : first.duration.asNanos = second.duration.asNanos := by
      simp only [signedNanos, sign] at same
      split at same <;> omega
    obtain ⟨duration, negative⟩ := first
    obtain ⟨duration', negative'⟩ := second
    rw [TimeDiff.mk.injEq]
    exact ⟨StdDuration.asNanos_inj.mp magnitude, sign⟩
  · intro same
    rw [same]

theorem toInt_asNanos_fromNanos {nanos : Int64} (inside : Inside nanos.toInt) :
    (fromNanos nanos).asNanos.toInt = nanos.toInt := by
  rw [← signedNanos_fromNanos] at inside
  rw [asNanos_of_inside inside, signedNanos_fromNanos]

theorem asNanos_add {first second : TimeDiff} (left : Inside first.signedNanos) (right : Inside second.signedNanos)
    (sum : Inside (first.signedNanos + second.signedNanos)) :
    (first.add second).asNanos.toInt = first.asNanos.toInt + second.asNanos.toInt := by
  have total : (first.asNanos + second.asNanos).toInt = first.signedNanos + second.signedNanos := by
    obtain ⟨low, high⟩ := sum
    rw [Int64.toInt_add, asNanos_of_inside left, asNanos_of_inside right, Int.bmod_eq_of_le (by omega) (by omega)]
  rw [← total] at sum
  rw [add, toInt_asNanos_fromNanos sum, total, asNanos_of_inside left, asNanos_of_inside right]

theorem asNanos_sub {first second : TimeDiff} (left : Inside first.signedNanos) (right : Inside second.signedNanos)
    (difference : Inside (first.signedNanos - second.signedNanos)) :
    (first.sub second).asNanos.toInt = first.asNanos.toInt - second.asNanos.toInt := by
  have total : (first.asNanos - second.asNanos).toInt = first.signedNanos - second.signedNanos := by
    obtain ⟨low, high⟩ := difference
    rw [Int64.toInt_sub, asNanos_of_inside left, asNanos_of_inside right, Int.bmod_eq_of_le (by omega) (by omega)]
  rw [← total] at difference
  rw [sub, toInt_asNanos_fromNanos difference, total, asNanos_of_inside left, asNanos_of_inside right]

end TimeDiff

namespace Time

variable {line : InstantLine}

theorem sub_of_le {self other : Time line} (order : other.instant.nanos ≤ self.instant.nanos) :
    self.sub other = ⟨.ofTotal (self.instant.nanos - other.instant.nanos).toNat, false⟩ := by
  simp only [sub, Instant.checkedDurationSince, if_pos order]

theorem sub_of_lt {self other : Time line} (order : self.instant.nanos < other.instant.nanos) :
    self.sub other = ⟨.ofTotal (other.instant.nanos - self.instant.nanos).toNat, true⟩ := by
  simp only [sub, Instant.saturatingDurationSince, Instant.checkedDurationSince, if_neg (not_le.mpr order),
    if_pos (le_of_lt order), Option.getD_some]

/-- A difference always fits a duration. -/
theorem fits_between (self other : Time line) :
    (self.instant.nanos - other.instant.nanos).toNat < 2 ^ 64 * 1000000000 := by
  have span := line.span _ _ self.instant.held other.instant.held
  omega

theorem signedNanos_sub (self other : Time line) :
    (self.sub other).signedNanos = self.instant.nanos - other.instant.nanos := by
  by_cases order : other.instant.nanos ≤ self.instant.nanos
  · simp only [sub_of_le order, TimeDiff.signedNanos, StdDuration.asNanos_ofTotal (fits_between self other),
      Bool.false_eq_true, if_false]
    omega
  · simp only [sub_of_lt (not_le.mp order), TimeDiff.signedNanos,
      StdDuration.asNanos_ofTotal (fits_between other self), if_true]
    omega

theorem canonical_sub (self other : Time line) : (self.sub other).Canonical := by
  rw [TimeDiff.canonical_iff, signedNanos_sub]
  by_cases order : other.instant.nanos ≤ self.instant.nanos
  · simpa [sub_of_le order] using order
  · have less := not_le.mp order
    simp only [sub_of_lt less, true_iff]
    omega

end Time

theorem Obtainable.canonical {line : InstantLine} {diff : TimeDiff} (obtained : Obtainable line diff) :
    diff.Canonical := by
  cases obtained with
  | fromNanos nanos => exact TimeDiff.canonical_fromNanos nanos
  | between first second => exact Time.canonical_sub first second
  | add first second => exact TimeDiff.canonical_fromNanos _
  | sub first second => exact TimeDiff.canonical_fromNanos _

theorem time_diff_faithful (line : InstantLine) :
    (∀ diff, Obtainable line diff → diff.duration.asNanos = 0 → diff.isNegative = false) ∧
    (∀ nanos, nanos ≠ Int64.minValue → (TimeDiff.fromNanos nanos).asNanos = nanos) ∧
    (∀ first second : TimeDiff, TimeDiff.Inside first.signedNanos → TimeDiff.Inside second.signedNanos →
      (TimeDiff.Inside (first.signedNanos + second.signedNanos) →
        (first.add second).asNanos.toInt = first.asNanos.toInt + second.asNanos.toInt) ∧
      (TimeDiff.Inside (first.signedNanos - second.signedNanos) →
        (first.sub second).asNanos.toInt = first.asNanos.toInt - second.asNanos.toInt)) ∧
    (∀ first second, Obtainable line first → Obtainable line second →
      first.cmp second = compare first.signedNanos second.signedNanos ∧
      (first.cmp second = .eq ↔ first = second)) := by
  refine ⟨?_, ?_, ?_, ?_⟩
  · intro diff obtained
    exact obtained.canonical
  · intro nanos proper
    exact TimeDiff.asNanos_fromNanos proper
  · intro first second left right
    exact ⟨TimeDiff.asNanos_add left right, TimeDiff.asNanos_sub left right⟩
  · intro first second left right
    have order := TimeDiff.cmp_eq left.canonical right.canonical
    rw [order, compare_eq_iff_eq]
    exact ⟨rfl, TimeDiff.signedNanos_inj left.canonical right.canonical⟩

namespace Time

variable {line : InstantLine}

theorem subDiff_eq (self : Time line) (diff : TimeDiff) :
    self.subDiff diff = (Instant.atPlace (self.instant.nanos + diff.signedNanos)).map Time.mk := by
  unfold subDiff TimeDiff.signedNanos
  cases diff.isNegative
  case false => simp [Instant.checkedAdd]
  case true => simp [Instant.checkedSub, Int.sub_eq_add_neg]

/-- Addition moves against the sign of the difference. -/
theorem addDiff_eq (self : Time line) (diff : TimeDiff) :
    self.addDiff diff = (Instant.atPlace (self.instant.nanos - diff.signedNanos)).map Time.mk := by
  unfold addDiff TimeDiff.signedNanos
  cases diff.isNegative
  case false => simp [Instant.checkedSub]
  case true => simp [Instant.checkedAdd]

theorem atPlace_eq_some {nanos : Int} {time : Time line} :
    (Instant.atPlace nanos).map Time.mk = some time ↔ nanos = time.instant.nanos := by
  obtain ⟨⟨place, held⟩⟩ := time
  unfold Instant.atPlace
  split
  case isTrue holds => simp
  case isFalse holds =>
    simp only [Option.map_none, reduceCtorEq, false_iff]
    rintro rfl
    exact holds held

theorem addDiff_eq_some {self later : Time line} {diff : TimeDiff} :
    self.addDiff diff = some later ↔ self.instant.nanos - diff.signedNanos = later.instant.nanos := by
  rw [addDiff_eq, atPlace_eq_some]

instance : LE (Time line) := ⟨fun first second => first.instant.nanos ≤ second.instant.nanos⟩

instance : LT (Time line) := ⟨fun first second => first.instant.nanos < second.instant.nanos⟩

end Time

section Laws

variable {line : InstantLine}

def Representable (t : Time line) (d : TimeDiff) : Prop := line.holds (t.instant.nanos + d.signedNanos) = true

instance (t : Time line) (d : TimeDiff) : Decidable (Representable t d) := inferInstanceAs (Decidable (_ = _))

structure Consistent (t t1 t2 : Time line) (d : TimeDiff) (m0 m1 : Time line) : Prop where
  reach : t1.addDiff (t2.sub t1) = some t2
  difference : Representable t d → ∃ later, t.addDiff d = some later ∧ later.sub t = d
  back : Representable t d → ∃ later, t.addDiff d = some later ∧ later.subDiff d = some t
  positive : t1 < t2 → (t2.sub t1).cmp (.fromNanos 0) = .gt
  between : m0 ≤ m1 → ∃ now, Time.nowWithUtc m0 m1 = some now ∧ m0 ≤ now ∧ now ≤ m1

theorem reach_iff (t1 t2 : Time line) : t1.addDiff (t2.sub t1) = some t2 ↔ t1 = t2 := by
  rw [Time.addDiff_eq_some, Time.signedNanos_sub]
  obtain ⟨⟨place, held⟩⟩ := t1
  obtain ⟨⟨place', held'⟩⟩ := t2
  simp only [Time.mk.injEq, Instant.mk.injEq]
  omega

theorem difference_iff (t : Time line) (d : TimeDiff) :
    (∃ later, t.addDiff d = some later ∧ later.sub t = d) ↔ d = .fromNanos 0 := by
  have zero : (TimeDiff.fromNanos 0).signedNanos = 0 := TimeDiff.signedNanos_fromNanos 0
  constructor
  · intro ⟨later, moved, same⟩
    rw [Time.addDiff_eq_some] at moved
    have canonical : d.Canonical := same ▸ Time.canonical_sub later t
    have value : later.instant.nanos - t.instant.nanos = d.signedNanos := by rw [← Time.signedNanos_sub, same]
    -- The move was by the opposite of the difference, which is the difference only at zero.
    rw [← TimeDiff.signedNanos_inj canonical (TimeDiff.canonical_fromNanos 0), zero]
    omega
  · rintro rfl
    refine ⟨t, Time.addDiff_eq_some.mpr (by omega), ?_⟩
    rw [← TimeDiff.signedNanos_inj (Time.canonical_sub t t) (TimeDiff.canonical_fromNanos 0),
      Time.signedNanos_sub, zero]
    omega

theorem back_of_zero (t : Time line) :
    ∃ later, t.addDiff (.fromNanos 0) = some later ∧ later.subDiff (.fromNanos 0) = some t := by
  have zero : (TimeDiff.fromNanos 0).signedNanos = 0 := TimeDiff.signedNanos_fromNanos 0
  refine ⟨t, ?_, ?_⟩
  · rw [Time.addDiff_eq_some]
    omega
  · rw [Time.subDiff_eq, Time.atPlace_eq_some]
    omega

theorem sub_positive {t1 t2 : Time line} (order : t1 < t2) : (t2.sub t1).cmp (.fromNanos 0) = .gt := by
  have order' : t1.instant.nanos < t2.instant.nanos := order
  have zero : (TimeDiff.fromNanos 0).signedNanos = 0 := TimeDiff.signedNanos_fromNanos 0
  rw [TimeDiff.cmp_eq (Time.canonical_sub t2 t1) (TimeDiff.canonical_fromNanos 0), compare_gt_iff_gt, zero,
    Time.signedNanos_sub]
  omega

/-- Half the readings' distance, which saturates first. -/
theorem signedNanos_half {m0 m1 : Time line} (order : m0 ≤ m1) :
    (TimeDiff.fromNanos ((m1.sub m0).asNanos / 2)).signedNanos =
      min 9223372036854775807 (m1.instant.nanos - m0.instant.nanos) / 2 := by
  have order' : m0.instant.nanos ≤ m1.instant.nanos := order
  have two : (2 : Int64).toInt = 2 := by decide
  rw [TimeDiff.signedNanos_fromNanos, Int64.toInt_div_of_ne_right _ _ (by decide), TimeDiff.toInt_asNanos,
    Time.signedNanos_sub, two, Int.tdiv_eq_ediv_of_nonneg (by omega)]
  omega

theorem between_iff (m0 m1 : Time line) (order : m0 ≤ m1) :
    (∃ now, Time.nowWithUtc m0 m1 = some now ∧ m0 ≤ now ∧ now ≤ m1) ↔
      m1.instant.nanos - m0.instant.nanos < 2 := by
  have order' : m0.instant.nanos ≤ m1.instant.nanos := order
  have half := signedNanos_half order
  constructor
  · intro ⟨now, moved, after, before⟩
    have after' : m0.instant.nanos ≤ now.instant.nanos := after
    rw [Time.nowWithUtc, Time.addDiff_eq_some, half] at moved
    omega
  · intro close
    refine ⟨m0, ?_, le_refl m0.instant.nanos, order⟩
    rw [Time.nowWithUtc, Time.addDiff_eq_some, half]
    omega

theorem steady_consistent_iff (t t1 t2 : Time line) (d : TimeDiff) (m0 m1 : Time line) :
    Consistent t t1 t2 d m0 m1 ↔ t1 = t2 ∧ (Representable t d → d = .fromNanos 0) ∧
      (m0 ≤ m1 → m1.instant.nanos - m0.instant.nanos < 2) := by
  constructor
  · intro laws
    refine ⟨(reach_iff t1 t2).mp laws.reach, ?_, ?_⟩
    · intro fits
      exact (difference_iff t d).mp (laws.difference fits)
    · intro order
      exact (between_iff m0 m1 order).mp (laws.between order)
  · intro ⟨same, zero, close⟩
    refine ⟨(reach_iff t1 t2).mpr same, ?_, ?_, sub_positive, ?_⟩
    · intro fits
      exact (difference_iff t d).mpr (zero fits)
    · intro fits
      rw [zero fits]
      exact back_of_zero t
    · intro order
      exact (between_iff m0 m1 order).mpr (close order)

end Laws

/-- Seconds that fit an `i64`, as on Linux. -/
def InstantLine.timespec : InstantLine where
  holds nanos := decide (-9223372036854775808 ≤ nanos / 1000000000 ∧ nanos / 1000000000 < 9223372036854775808)
  span := by
    intro first second left right
    rw [decide_eq_true_eq] at left right
    omega

/-- One nanosecond after the origin comes out one nanosecond before it. -/
theorem difference_moves_back :
    let origin : Time .timespec := ⟨⟨0, by decide⟩⟩
    let next : Time .timespec := ⟨⟨1, by decide⟩⟩
    Representable origin (.fromNanos 1) ∧ origin.addDiff (next.sub origin) = some ⟨⟨-1, by decide⟩⟩ ∧
      ¬Consistent origin origin next (.fromNanos 1) origin next := by
  refine ⟨by decide, by decide, ?_⟩
  intro laws
  have reached := laws.reach
  revert reached
  decide

end Ros2Client.Steady
