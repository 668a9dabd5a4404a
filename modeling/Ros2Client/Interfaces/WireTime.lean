import Ros2Client.Interfaces.Time

namespace Ros2Client

/-- The result of an operation in a build that checks for overflow; `none` is the panic of such a build. -/
def checkedInt32 (exact : Int) : Option Int32 := if -2 ^ 31 ≤ exact ∧ exact < 2 ^ 31 then some (.ofInt exact) else none

def checkedInt64 (exact : Int) : Option Int64 := if -2 ^ 63 ≤ exact ∧ exact < 2 ^ 63 then some (.ofInt exact) else none

theorem checkedInt64_of_fits {exact : Int} (low : -2 ^ 63 ≤ exact) (high : exact < 2 ^ 63) :
    checkedInt64 exact = some (.ofInt exact) := if_pos ⟨low, high⟩

def ReprTime.toTimeChecked (rt : ReprTime) : Option Time := do
  let seconds ← checkedInt64 (rt.sec.toInt * 1000000000)
  let nanos ← checkedInt64 (seconds.toInt + rt.nanosec.toNat)
  return ⟨nanos⟩

/-- The steps of `Time.toRepr`, with the subtraction and the addition checked. -/
def Time.toReprChecked (t : Time) : Option ReprTime :=
  let quot := t.nanosSinceEpoch / 1000000000
  let rem := t.nanosSinceEpoch % 1000000000
  if 0 ≤ rem then
    some {
      sec :=
        if Int32.maxValue.toInt64 < quot then Int32.maxValue
        else if quot < Int32.minValue.toInt64 then Int32.minValue
        else quot.toInt32
      nanosec := .ofInt rem.toInt }
  else do
    let quotSat := if Int32.minValue.toInt64 ≤ quot then quot.toInt32 else Int32.minValue
    let sec ← checkedInt32 (quotSat.toInt - 1)
    let nanosec ← checkedInt64 (1000000000 + rem.toInt)
    return ⟨sec, .ofInt nanosec.toInt⟩

def Time.seconds (t : Time) : Int := t.nanosSinceEpoch.toInt / 1000000000

def Time.fraction (t : Time) : Int := t.nanosSinceEpoch.toInt % 1000000000

/-- The time is not one before the 32-bit range that has a fractional part. -/
def Time.Convertible (t : Time) : Prop := -2147483648 ≤ t.seconds ∨ t.fraction = 0

instance (t : Time) : Decidable t.Convertible := inferInstanceAs (Decidable (_ ∨ _))

def ReprTime.LexLe (first second : ReprTime) : Prop :=
  first.sec < second.sec ∨ first.sec = second.sec ∧ first.nanosec ≤ second.nanosec

/-- Seconds outside the 32-bit range become the nearest end of that range. -/
def Time.SaturatesTo (t : Time) (rt : ReprTime) : Prop :=
  (2147483647 < t.seconds → rt.sec = Int32.maxValue) ∧ (t.seconds < -2147483648 → rt.sec = Int32.minValue)

def ConvertInOrder (t1 t2 : Time) : Prop :=
  ∃ first second, t1.toReprChecked = some first ∧ t2.toReprChecked = some second ∧ first.LexLe second ∧
    t1.SaturatesTo first ∧ t2.SaturatesTo second

theorem ReprTime.toTimeChecked_eq (rt : ReprTime) : rt.toTimeChecked = some rt.toTime := by
  have low := rt.sec.le_toInt
  have high := rt.sec.toInt_lt
  have small := rt.nanosec.toNat_lt
  have seconds : (Int64.ofInt (rt.sec.toInt * 1000000000)).toInt = rt.sec.toInt * 1000000000 :=
    Int64.toInt_ofInt_of_le (by omega) (by omega)
  have nanos : Int64.ofInt (rt.sec.toInt * 1000000000 + rt.nanosec.toNat) = rt.toTime.nanosSinceEpoch := by
    rw [← rt.toInt_toTime, Int64.ofInt_toInt]
  unfold toTimeChecked
  rw [checkedInt64_of_fits (by omega) (by omega), Option.bind_eq_bind, Option.bind_some, seconds,
    checkedInt64_of_fits (by omega) (by omega), Option.bind_some, nanos]
  rfl

theorem Time.fraction_bounds (t : Time) : 0 ≤ t.fraction ∧ t.fraction < 1000000000 := by
  unfold fraction
  omega

theorem Time.nanos_eq (t : Time) : t.nanosSinceEpoch.toInt = t.seconds * 1000000000 + t.fraction := by
  unfold seconds fraction
  omega

/-- Where the remainder is negative, the quotient that is made smaller by one overflows exactly before the range. -/
theorem checkedInt32_quotSat {q : Int64} (negative : q.toInt ≤ 0) :
    let quotSat := if Int32.minValue.toInt64 ≤ q then q.toInt32 else Int32.minValue
    checkedInt32 (quotSat.toInt - 1) = if -2147483648 < q.toInt then some (quotSat - 1) else none := by
  intro quotSat
  have min : Int32.minValue.toInt64.toInt = -2147483648 := by decide
  have least : Int32.minValue.toInt = -2147483648 := by decide
  have one : (1 : Int32).toInt = 1 := by decide
  have exact : Int32.ofInt (quotSat.toInt - 1) = quotSat - 1 := by
    apply Int32.toInt_inj.mp
    rw [Int32.toInt_sub, one, Int32.toInt_ofInt]
  unfold checkedInt32
  rw [exact]
  by_cases inside : Int32.minValue.toInt64 ≤ q
  · have same : quotSat = q.toInt32 := if_pos inside
    rw [Int64.le_iff_toInt_le, min] at inside
    rw [same, toInt_toInt32 inside (by omega)]
    by_cases above : -2147483648 < q.toInt
    · rw [if_pos above, if_pos (by omega)]
    · rw [if_neg above, if_neg (by omega)]
  · have same : quotSat = Int32.minValue := if_neg inside
    rw [Int64.le_iff_toInt_le, min] at inside
    rw [same, least, if_neg (by omega), if_neg (by omega)]

/-- The remainder that the division leaves is negative exactly for the negative times that are no whole seconds. -/
theorem rem_nonneg_iff (t : Int64) : 0 ≤ t % 1000000000 ↔ 0 ≤ t.toInt ∨ t.toInt % 1000000000 = 0 := by
  have constant : (1000000000 : Int64).toInt = 1000000000 := by decide
  have zero : (0 : Int64).toInt = 0 := by decide
  have size : Int.natAbs 1000000000 = 1000000000 := rfl
  rw [Int64.le_iff_toInt_le, Int64.toInt_mod, constant, zero, Int.tmod_eq_emod, size]
  split <;> omega

/-- A build with overflow checks panics on the times that are not convertible, and agrees with the other on the rest. -/
theorem Time.toReprChecked_eq (t : Time) : t.toReprChecked = if t.Convertible then some t.toRepr else none := by
  have convertible : t.Convertible ↔
      -2147483648 ≤ t.nanosSinceEpoch.toInt / 1000000000 ∨ t.nanosSinceEpoch.toInt % 1000000000 = 0 := Iff.rfl
  by_cases positive : 0 ≤ t.nanosSinceEpoch % 1000000000
  · have sign := (rem_nonneg_iff _).mp positive
    rw [if_pos (convertible.mpr (by omega))]
    simp only [toReprChecked, toRepr, if_pos positive]
  · obtain ⟨negative, rem, quot⟩ := rem_of_neg positive
    have inexact := mt (rem_nonneg_iff _).mpr positive
    have small := t.nanosSinceEpoch.toInt_lt
    have constant : (1000000000 : Int64).toInt = 1000000000 := by decide
    have sum : Int64.ofInt (1000000000 + (t.nanosSinceEpoch % 1000000000).toInt) =
        1000000000 + t.nanosSinceEpoch % 1000000000 := by
      apply Int64.toInt_inj.mp
      rw [Int64.toInt_add, constant, Int64.toInt_ofInt]
    have nanosec : checkedInt64 (1000000000 + (t.nanosSinceEpoch % 1000000000).toInt) =
        some (1000000000 + t.nanosSinceEpoch % 1000000000) := by
      rw [checkedInt64_of_fits (by omega) (by omega), sum]
    have sec := checkedInt32_quotSat (q := t.nanosSinceEpoch / 1000000000) (by omega)
    simp only [toReprChecked, toRepr, if_neg positive, sec, nanosec]
    by_cases inside : -2147483648 < (t.nanosSinceEpoch / 1000000000).toInt
    · rw [if_pos inside, if_pos (convertible.mpr (by omega))]
      rfl
    · rw [if_neg inside, if_neg (mt convertible.mp (by omega))]
      rfl

theorem ReprTime.eq_of_fields {first second : ReprTime} (sec : first.sec = second.sec)
    (nanosec : first.nanosec = second.nanosec) : first = second := by
  cases first
  cases second
  cases sec
  cases nanosec
  rfl

theorem Time.toRepr_toTime {rt : ReprTime} (proper : rt.nanosec.toNat < 1000000000) : rt.toTime.toRepr = rt := by
  have low := rt.sec.le_toInt
  have high := rt.sec.toInt_lt
  have whole := rt.toInt_toTime
  have fits : rt.toTime.FitsRepr := by
    unfold FitsRepr
    omega
  have sec : rt.toTime.toRepr.sec = rt.sec := by
    apply Int32.toInt_inj.mp
    rw [sec_toRepr fits]
    omega
  have nanosec : rt.toTime.toRepr.nanosec = rt.nanosec := by
    apply UInt32.toNat_inj.mp
    have same := rt.toTime.nanosec_toRepr
    omega
  exact ReprTime.eq_of_fields sec nanosec

theorem Time.FitsRepr.convertible {t : Time} (fits : t.FitsRepr) : t.Convertible := .inl fits.1

theorem wire_time_round_trip :
    (∀ t : Time, t.FitsRepr → ∃ rt, t.toReprChecked = some rt ∧
      rt.sec.toInt = t.nanosSinceEpoch.toInt / 1000000000 ∧
      (rt.nanosec.toNat : Int) = t.nanosSinceEpoch.toInt - rt.sec.toInt * 1000000000 ∧
      rt.nanosec.toNat < 1000000000 ∧ rt.toTimeChecked = some t) ∧
    ∀ rt : ReprTime, rt.nanosec.toNat < 1000000000 →
      ∃ t, rt.toTimeChecked = some t ∧ t.toReprChecked = some rt := by
  refine ⟨?_, ?_⟩
  · intro t fits
    have sec := Time.sec_toRepr fits
    have nanosec := t.nanosec_toRepr
    have back := t.toTime_toRepr_iff.mpr fits
    refine ⟨t.toRepr, ?_, sec, by omega, by omega, ?_⟩
    · rw [Time.toReprChecked_eq, if_pos fits.convertible]
    · rw [ReprTime.toTimeChecked_eq, back]
  · intro rt proper
    have back := Time.toRepr_toTime proper
    have convertible : rt.toTime.Convertible := by
      have low := rt.sec.le_toInt
      have whole := rt.toInt_toTime
      unfold Time.Convertible Time.seconds
      omega
    refine ⟨rt.toTime, rt.toTimeChecked_eq, ?_⟩
    rw [Time.toReprChecked_eq, if_pos convertible, back]

/-- The seconds are those of the time, brought into the 32-bit range. -/
theorem Time.sec_toRepr_clamped {t : Time} (convertible : t.Convertible) :
    t.toRepr.sec.toInt = max (-2147483648) (min 2147483647 t.seconds) := by
  have most : Int32.maxValue.toInt64.toInt = 2147483647 := by decide
  have least : Int32.minValue.toInt64.toInt = -2147483648 := by decide
  by_cases fits : t.FitsRepr
  · obtain ⟨low, high⟩ := fits
    rw [sec_toRepr ⟨low, high⟩]
    unfold seconds
    omega
  · have outside : 2147483647 < t.seconds ∨ t.seconds < -2147483648 ∧ t.fraction = 0 := by
      unfold FitsRepr at fits
      unfold Convertible at convertible
      unfold seconds fraction at *
      omega
    have positive : 0 ≤ t.nanosSinceEpoch % 1000000000 := by
      apply (rem_nonneg_iff _).mpr
      unfold seconds fraction at outside
      omega
    have quot : (t.nanosSinceEpoch / 1000000000).toInt = t.seconds := (rem_of_nonneg positive).2
    rcases outside with above | ⟨below, _⟩
    · have past : Int32.maxValue.toInt64 < t.nanosSinceEpoch / 1000000000 := by
        rw [Int64.lt_iff_toInt_lt]
        omega
      have max : Int32.maxValue.toInt = 2147483647 := by decide
      simp only [toRepr, if_pos positive, if_pos past, max]
      omega
    · have past : ¬Int32.maxValue.toInt64 < t.nanosSinceEpoch / 1000000000 := by
        rw [Int64.lt_iff_toInt_lt]
        omega
      have before : t.nanosSinceEpoch / 1000000000 < Int32.minValue.toInt64 := by
        rw [Int64.lt_iff_toInt_lt]
        omega
      have min : Int32.minValue.toInt = -2147483648 := by decide
      simp only [toRepr, if_pos positive, if_neg past, if_pos before, min]
      omega

theorem Time.saturatesTo_toRepr {t : Time} (convertible : t.Convertible) : t.SaturatesTo t.toRepr := by
  have sec := sec_toRepr_clamped convertible
  have max : Int32.maxValue.toInt = 2147483647 := by decide
  have min : Int32.minValue.toInt = -2147483648 := by decide
  refine ⟨?_, ?_⟩
  · intro above
    apply Int32.toInt_inj.mp
    omega
  · intro below
    apply Int32.toInt_inj.mp
    omega

theorem ReprTime.lexLe_iff (first second : ReprTime) : first.LexLe second ↔
    first.sec.toInt < second.sec.toInt ∨
      first.sec.toInt = second.sec.toInt ∧ first.nanosec.toNat ≤ second.nanosec.toNat := by
  rw [LexLe, Int32.lt_iff_toInt_lt, UInt32.le_iff_toNat_le, Int32.toInt_inj]

theorem convert_in_order_iff {t1 t2 : Time} (ordered : t1 ≤ t2) : ConvertInOrder t1 t2 ↔
    t1.Convertible ∧ t2.Convertible ∧ (2147483647 ≤ t1.seconds → t1.fraction ≤ t2.fraction) := by
  have below : t1.nanosSinceEpoch.toInt ≤ t2.nanosSinceEpoch.toInt := Int64.le_iff_toInt_le.mp ordered
  rw [t1.nanos_eq, t2.nanos_eq] at below
  have bounds1 := t1.fraction_bounds
  have bounds2 := t2.fraction_bounds
  have nanosec1 : (t1.toRepr.nanosec.toNat : Int) = t1.fraction := t1.nanosec_toRepr
  have nanosec2 : (t2.toRepr.nanosec.toNat : Int) = t2.fraction := t2.nanosec_toRepr
  constructor
  · intro held
    obtain ⟨first, second, converted1, converted2, inOrder, _⟩ := held
    rw [Time.toReprChecked_eq, Option.ite_none_right_eq_some] at converted1 converted2
    obtain ⟨convertible1, same1⟩ := converted1
    obtain ⟨convertible2, same2⟩ := converted2
    cases same1
    cases same2
    refine ⟨convertible1, convertible2, ?_⟩
    intro last
    have sec1 := Time.sec_toRepr_clamped convertible1
    have sec2 := Time.sec_toRepr_clamped convertible2
    rw [ReprTime.lexLe_iff] at inOrder
    omega
  · intro held
    obtain ⟨convertible1, convertible2, fractions⟩ := held
    have sec1 := Time.sec_toRepr_clamped convertible1
    have sec2 := Time.sec_toRepr_clamped convertible2
    refine ⟨t1.toRepr, t2.toRepr, ?_, ?_, ?_,
      Time.saturatesTo_toRepr convertible1, Time.saturatesTo_toRepr convertible2⟩
    · rw [Time.toReprChecked_eq, if_pos convertible1]
    · rw [Time.toReprChecked_eq, if_pos convertible2]
    · rw [ReprTime.lexLe_iff]
      -- Before the range a convertible time has no fraction, so nothing there comes after another time.
      unfold Time.Convertible at convertible1 convertible2
      omega

theorem convert_in_order_epoch : (⟨-1500000000⟩ : Time) ≤ .zero ∧ ConvertInOrder ⟨-1500000000⟩ .zero := by
  have ordered : (⟨-1500000000⟩ : Time) ≤ .zero := by decide
  exact ⟨ordered, (convert_in_order_iff ordered).mpr (by decide)⟩

/-- Half a second past the end of the range, and a whole second: the fraction is not saturated with the seconds. -/
theorem saturated_times_out_of_order : ¬ ∀ t1 t2 : Time, t1 ≤ t2 → ConvertInOrder t1 t2 := by
  intro always
  have held := always ⟨2147483648500000000⟩ ⟨2147483649000000000⟩ (by decide)
  obtain ⟨first, second, converted1, converted2, inOrder, _⟩ := held
  cases converted1
  cases converted2
  revert inOrder
  rw [ReprTime.lexLe_iff]
  decide

end Ros2Client
