import Ros2Client.Qos.Profile

namespace Ros2Client

structure DdsDurations where
  Duration : Type
  [decEq : DecidableEq Duration]
  infinite : Duration
  fromNanos : Int64 → Duration
  fromMillis : Int64 → Duration
  toNanoseconds : Duration → Int64

attribute [instance] DdsDurations.decEq

namespace Policy

inductive Durability
  | volatile
  | transientLocal
  | transient
  | persistent

inductive Reliability (Duration : Type)
  | bestEffort
  | reliable (maxBlockingTime : Duration)

inductive History
  | keepLast (depth : Int32)
  | keepAll

inductive Liveliness (Duration : Type)
  | automatic (leaseDuration : Duration)
  | manualByParticipant (leaseDuration : Duration)
  | manualByTopic (leaseDuration : Duration)

end Policy

structure QosPolicies (Duration : Type) where
  durability : Option Policy.Durability
  reliability : Option (Policy.Reliability Duration)
  history : Option Policy.History
  liveliness : Option (Policy.Liveliness Duration)
  deadline : Option Duration
  lifespan : Option Duration

section Conversion

variable (dds : DdsDurations)

def defaultMaxBlocking : dds.Duration := dds.fromMillis 100

def toDdsDuration : Option StdDuration → dds.Duration
  | none => dds.infinite
  | some duration => dds.fromNanos (.ofNat duration.asNanos)

def fromDdsDuration (duration : dds.Duration) : Option StdDuration :=
  if duration = dds.infinite then none
  else some (.fromNanos (.ofNat (dds.toNanoseconds duration).toNatClampNeg))

def QosPolicies.ofProfile (profile : QosProfile) : QosPolicies dds.Duration where
  durability := some (match profile.durability with
    | .volatile => .volatile
    | .transientLocal => .transientLocal)
  reliability := some (match profile.reliability with
    | .bestEffort => .bestEffort
    | .reliable => .reliable (defaultMaxBlocking dds))
  history := some (match profile.history with
    | .keepLast depth => .keepLast (.ofNat depth.toNat)
    | .keepAll => .keepAll)
  liveliness := some (match profile.liveliness with
    | .automatic => .automatic (toDdsDuration dds profile.livelinessLease)
    | .manualByTopic => .manualByTopic (toDdsDuration dds profile.livelinessLease))
  deadline := some (toDdsDuration dds profile.deadline)
  lifespan := some (toDdsDuration dds profile.lifespan)

def QosProfile.ofPolicies (policies : QosPolicies dds.Duration) : QosProfile :=
  let reliability := match policies.reliability with
    | some (.reliable _) => .reliable
    | _ => .bestEffort
  let durability := match policies.durability with
    | some .volatile | none => .volatile
    | some _ => .transientLocal
  let history := match policies.history with
    | some .keepAll => .keepAll
    | some (.keepLast depth) => .keepLast (.ofNat depth.toNatClampNeg)
    | none => .keepLast 1
  let (liveliness, livelinessLease) := match policies.liveliness with
    | some (.manualByTopic lease) => (.manualByTopic, fromDdsDuration dds lease)
    | some (.automatic lease) => (.automatic, fromDdsDuration dds lease)
    | some (.manualByParticipant lease) => (.automatic, fromDdsDuration dds lease)
    | none => (.automatic, none)
  { reliability, durability, history, liveliness, livelinessLease
    deadline := policies.deadline.bind (fromDdsDuration dds)
    lifespan := policies.lifespan.bind (fromDdsDuration dds) }

end Conversion

/-- The durations that RustDDS can hold are below this many nanoseconds. -/
def ddsRange : Nat := 2 ^ 31 * 1000000000

/-- What is assumed of RustDDS: up to the end of its range a duration is kept as it is given. -/
def DdsDurations.Documented (dds : DdsDurations) : Prop :=
  ∀ nanos : Int64, 0 ≤ nanos.toInt → nanos.toInt < ddsRange →
    dds.toNanoseconds (dds.fromNanos nanos) = nanos ∧ dds.fromNanos nanos ≠ dds.infinite

namespace StdDuration

def largest : StdDuration := ⟨2147483647, 999999999, by decide⟩

def saturated (duration : StdDuration) : StdDuration := if duration.asNanos < ddsRange then duration else largest

/-- The duration is in range, or the cast makes the largest duration of it. -/
def Convertible (duration : StdDuration) : Prop :=
  duration.asNanos < ddsRange ∨ duration.asNanos % 2 ^ 64 = ddsRange - 1

end StdDuration

def History.saturated : History → History
  | .keepLast depth => .keepLast (if depth.toNat < 2 ^ 31 then depth else 2147483647)
  | .keepAll => .keepAll

def History.Convertible : History → Prop
  | .keepLast depth => depth.toNat < 2 ^ 31 ∨ depth.toNat % 2 ^ 32 = 2 ^ 31 - 1
  | .keepAll => True

namespace QosProfile

def saturated (profile : QosProfile) : QosProfile :=
  { profile with
    history := profile.history.saturated
    deadline := profile.deadline.map StdDuration.saturated
    lifespan := profile.lifespan.map StdDuration.saturated
    livelinessLease := profile.livelinessLease.map StdDuration.saturated }

def Convertible (profile : QosProfile) : Prop :=
  profile.history.Convertible ∧ (∀ duration ∈ profile.deadline, duration.Convertible) ∧
    (∀ duration ∈ profile.lifespan, duration.Convertible) ∧ ∀ duration ∈ profile.livelinessLease, duration.Convertible

end QosProfile

theorem toNatClampNeg_int32_ofNat (number : Nat) :
    (Int32.ofNat number).toNatClampNeg = if number % 2 ^ 32 < 2 ^ 31 then number % 2 ^ 32 else 0 := by
  rw [Int32.toNatClampNeg, Int32.toInt_ofNat', Int.bmod_def]
  have size : Int32.size = 4294967296 := rfl
  rw [size]
  split <;> split <;> omega

theorem toInt_int64_ofNat (number : Nat) :
    (Int64.ofNat number).toInt =
      if number % 2 ^ 64 < 2 ^ 63 then ((number % 2 ^ 64 : Nat) : Int) else (number % 2 ^ 64 : Nat) - 2 ^ 64 := by
  rw [Int64.toInt_ofNat', Int.bmod_def]
  have size : Int64.size = 18446744073709551616 := rfl
  rw [size]
  split <;> split <;> omega

theorem depth_back_iff (depth : UInt64) :
    UInt64.ofNat (Int32.ofNat depth.toNat).toNatClampNeg = (if depth.toNat < 2 ^ 31 then depth else 2147483647) ↔
      depth.toNat < 2 ^ 31 ∨ depth.toNat % 2 ^ 32 = 2 ^ 31 - 1 := by
  have back : (UInt64.ofNat (Int32.ofNat depth.toNat).toNatClampNeg).toNat =
      if depth.toNat % 2 ^ 32 < 2 ^ 31 then depth.toNat % 2 ^ 32 else 0 := by
    rw [UInt64.toNat_ofNat', toNatClampNeg_int32_ofNat]
    split <;> omega
  have largest : (2147483647 : UInt64).toNat = 2147483647 := rfl
  rw [← UInt64.toNat_inj, back]
  split <;> split <;> omega

/-- Nanoseconds in the range of RustDDS come back as they are given. -/
theorem fromDdsDuration_fromNanos {dds : DdsDurations} (documented : dds.Documented) {nanos : Nat}
    (inRange : nanos % 2 ^ 64 < ddsRange) :
    fromDdsDuration dds (dds.fromNanos (.ofNat nanos)) = some (.fromNanos (.ofNat (nanos % 2 ^ 64))) := by
  have small : ddsRange < 2 ^ 63 := by decide
  have value : (Int64.ofNat nanos).toInt = ((nanos % 2 ^ 64 : Nat) : Int) := by
    rw [toInt_int64_ofNat, if_pos (Nat.lt_trans inRange small)]
  obtain ⟨kept, finite⟩ := documented (.ofNat nanos) (by omega) (by omega)
  rw [fromDdsDuration, if_neg finite, kept, Int64.toNatClampNeg, value, Int.toNat_natCast]

theorem duration_back {dds : DdsDurations} (documented : dds.Documented) {duration : Option StdDuration}
    (convertible : ∀ given ∈ duration, given.Convertible) :
    fromDdsDuration dds (toDdsDuration dds duration) = duration.map StdDuration.saturated := by
  cases duration with
  | none => simp [toDdsDuration, fromDdsDuration]
  | some duration =>
    have bound : ddsRange < 2 ^ 64 := by decide
    rw [toDdsDuration, Option.map_some, StdDuration.saturated]
    rcases convertible duration rfl with inRange | wrapped
    · have same : duration.asNanos % 2 ^ 64 = duration.asNanos := Nat.mod_eq_of_lt (Nat.lt_trans inRange bound)
      rw [fromDdsDuration_fromNanos documented (by omega), same, if_pos inRange, Option.some.injEq,
        StdDuration.fromNanos_eq_iff (Nat.lt_trans inRange bound)]
    · have positive : 0 < ddsRange := by decide
      rw [fromDdsDuration_fromNanos documented (by omega), wrapped, Option.some.injEq,
        StdDuration.fromNanos_eq_iff (by omega)]
      split
      · rename_i inRange
        omega
      · rfl

def DdsDurations.zeroing : DdsDurations where
  Duration := Option Int64
  infinite := none
  fromNanos nanos := some (if 0 ≤ nanos.toInt ∧ nanos.toInt < ddsRange then nanos else 0)
  fromMillis millis := some (millis * 1000000)
  toNanoseconds duration := duration.getD 0

theorem DdsDurations.zeroing_documented : zeroing.Documented := by
  intro nanos positive inRange
  simp [zeroing, positive, inRange]

theorem convertible_of_zeroing {duration : Option StdDuration}
    (back : fromDdsDuration .zeroing (toDdsDuration .zeroing duration) = duration.map StdDuration.saturated) :
    ∀ given ∈ duration, given.Convertible := by
  intro given member
  subst member
  rw [toDdsDuration, Option.map_some, StdDuration.saturated] at back
  by_cases inRange : given.asNanos < ddsRange
  · exact .inl inRange
  · rw [if_neg inRange] at back
    by_cases wrapped : given.asNanos % 2 ^ 64 < ddsRange
    · rw [fromDdsDuration_fromNanos DdsDurations.zeroing_documented wrapped, Option.some.injEq,
        StdDuration.fromNanos_eq_iff (Nat.mod_lt _ (by decide))] at back
      exact .inr back
    · have outside : ¬ (0 ≤ (Int64.ofNat given.asNanos).toInt ∧ (Int64.ofNat given.asNanos).toInt < ddsRange) := by
        rw [toInt_int64_ofNat]
        split <;> omega
      have zero : DdsDurations.zeroing.fromNanos (.ofNat given.asNanos) = some 0 := by
        simp only [DdsDurations.zeroing, if_neg outside]
      rw [zero] at back
      exact absurd back (by decide)

theorem back_eq (dds : DdsDurations) (profile : QosProfile) :
    QosProfile.ofPolicies dds (.ofProfile dds profile) =
      { profile with
        history := match profile.history with
          | .keepLast depth => .keepLast (.ofNat (Int32.ofNat depth.toNat).toNatClampNeg)
          | .keepAll => .keepAll
        deadline := fromDdsDuration dds (toDdsDuration dds profile.deadline)
        lifespan := fromDdsDuration dds (toDdsDuration dds profile.lifespan)
        livelinessLease := fromDdsDuration dds (toDdsDuration dds profile.livelinessLease) } := by
  obtain ⟨reliability, durability, history, deadline, lifespan, liveliness, lease⟩ := profile
  cases reliability <;> cases durability <;> cases history <;> cases liveliness <;> rfl

/-- With a RustDDS of which only the documented is known, a profile comes back with its values out of
range replaced by the largest in range if and only if no cast makes something else of them. -/
theorem profile_back_iff (profile : QosProfile) :
    (∀ dds : DdsDurations, dds.Documented →
      QosProfile.ofPolicies dds (.ofProfile dds profile) = profile.saturated) ↔ profile.Convertible := by
  constructor
  · intro back
    have zeroing := back .zeroing DdsDurations.zeroing_documented
    rw [back_eq] at zeroing
    simp only [QosProfile.saturated, QosProfile.mk.injEq, true_and] at zeroing
    obtain ⟨history, deadline, lifespan, lease⟩ := zeroing
    refine ⟨?_, convertible_of_zeroing deadline, convertible_of_zeroing lifespan, convertible_of_zeroing lease⟩
    cases kept : profile.history with
    | keepAll => trivial
    | keepLast depth =>
      rw [kept] at history
      exact (depth_back_iff depth).mp (History.keepLast.inj history)
  · intro convertible dds documented
    obtain ⟨history, deadline, lifespan, lease⟩ := convertible
    rw [back_eq, duration_back documented deadline, duration_back documented lifespan,
      duration_back documented lease]
    cases kept : profile.history with
    | keepAll => simp [QosProfile.saturated, kept, History.saturated]
    | keepLast depth =>
      rw [kept] at history
      simp only [QosProfile.saturated, kept, History.saturated, (depth_back_iff depth).mpr history]

theorem depth_wraps :
    ¬ ∀ (profile : QosProfile) (dds : DdsDurations), dds.Documented →
      QosProfile.ofPolicies dds (.ofProfile dds profile) = profile.saturated := by
  intro converts
  have back := converts { QosProfile.subscriptionDefault with history := .keepLast 2147483648 } .zeroing
    DdsDurations.zeroing_documented
  exact absurd (congrArg QosProfile.history back) (by decide)

end Ros2Client
