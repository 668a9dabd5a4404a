import Ros2Client.Zenoh.QosDecoding

open Text

namespace Ros2Client

def DurationOverflows (sec nsec : Str) : Prop :=
  ∃ secs nanos : Nat, parseUnsigned 64 sec = some secs ∧ parseUnsigned 32 nsec = some nanos ∧
    2 ^ 64 ≤ secs + nanos / 1000000000

def DurationReads (sec nsec : Str) : Prop :=
  sec = [] ∧ nsec = [] ∨
    ∃ secs nanos : Nat, parseUnsigned 64 sec = some secs ∧ parseUnsigned 32 nsec = some nanos ∧
      secs + nanos / 1000000000 < 2 ^ 64

def HeadReads (rel dur hist : Str) : Prop :=
  rel ∈ ["".toList, "1".toList, "2".toList] ∧ dur ∈ ["".toList, "1".toList, "2".toList] ∧
    ∃ kind depth : Str, splitOnce ',' hist = some (kind, depth) ∧
      (depth = [] ∨ (parseUnsigned 64 depth).isSome) ∧ kind ∈ ["".toList, "1".toList, "2".toList]

def OfHalves (holds : Str → Str → Prop) (group : Str) : Prop :=
  ∃ sec nsec : Str, splitOnce ',' group = some (sec, nsec) ∧ holds sec nsec

def LeaseOverflows (liv : Str) : Prop :=
  ∃ kind sec nsec : Str, splitN ',' 3 liv = [kind, sec, nsec] ∧
    kind ∈ ["".toList, "1".toList, "3".toList] ∧ DurationOverflows sec nsec

/-- Some duration of the text overflows, and everything in front of it can be read. -/
def OverflowReached (text : Str) : Prop :=
  ∃ rel dur hist dl ls liv : Str, text.splitOn ':' = [rel, dur, hist, dl, ls, liv] ∧ HeadReads rel dur hist ∧
    (OfHalves DurationOverflows dl ∨
      OfHalves DurationReads dl ∧
        (OfHalves DurationOverflows ls ∨ OfHalves DurationReads ls ∧ LeaseOverflows liv))

theorem Decoded.bind_panicked_of_quiet {α β : Type} {first : Decoded α} (quiet : first ≠ .panicked)
    {next : α → Decoded β} {later : Prop} (panics : ∀ value, next value = .panicked ↔ later) :
    (first >>= next) = .panicked ↔ (∃ value, first = .ok value) ∧ later := by
  rw [Decoded.bind_eq_panicked]
  simp [quiet, panics]

theorem decodePolicy_bind {α : Type} {codes : List (Str × α)} {text : Str} {next : α → Decoded QosProfile}
    {later : Prop} (panics : ∀ value, next value = .panicked ↔ later) :
    (decodePolicy codes text >>= next) = .panicked ↔ text ∈ codes.map Prod.fst ∧ later := by
  have known : (∃ value, decodePolicy codes text = .ok value) ↔ text ∈ codes.map Prod.fst := by
    have found : (codes.lookup text).isSome ↔ text ∈ codes.map Prod.fst := by
      rw [List.lookup_isSome_iff, List.mem_map]
      apply exists_congr
      intro code
      rw [beq_iff_eq, eq_comm]
    rw [← found]
    cases value : codes.lookup text <;> simp [decodePolicy, value]
  have quiet : decodePolicy codes text ≠ .panicked := Decoded.okOr_ne_panicked _
  rw [Decoded.bind_panicked_of_quiet quiet panics, known]

theorem decodeDepth_bind {text : Str} {next : UInt64 → Decoded QosProfile} {later : Prop}
    (panics : ∀ value, next value = .panicked ↔ later) :
    (decodeDepth text >>= next) = .panicked ↔ (text = [] ∨ (parseUnsigned 64 text).isSome) ∧ later := by
  unfold decodeDepth
  cases text with
  | nil => simp [panics]
  | cons char rest => cases parsed : parseUnsigned 64 (char :: rest) <;> simp [panics]

theorem StdDuration.new_panicked {secs nanos : Nat} (whole : secs < 2 ^ 64) (narrow : nanos < 2 ^ 32) :
    (StdDuration.new (.ofNat secs) (.ofNat nanos) = .panicked ↔ 2 ^ 64 ≤ secs + nanos / 1000000000) ∧
      ((∃ value, StdDuration.new (.ofNat secs) (.ofNat nanos) = .ok value) ↔
        secs + nanos / 1000000000 < 2 ^ 64) := by
  have secs' : (UInt64.ofNat secs).toNat = secs := UInt64.toNat_ofNat_of_lt' whole
  have nanos' : (UInt32.ofNat nanos).toNat = nanos := UInt32.toNat_ofNat_of_lt' narrow
  unfold StdDuration.new
  split
  · rename_i fits
    rw [secs', nanos'] at fits
    exact ⟨iff_of_false (by simp) (Nat.not_le.mpr fits), iff_of_true ⟨_, rfl⟩ fits⟩
  · rename_i exceeds
    rw [secs', nanos'] at exceeds
    exact ⟨iff_of_true rfl (Nat.not_lt.mp exceeds), iff_of_false (by simp) exceeds⟩

theorem parseDuration_cons {sec nsec : Str} (filled : ¬ (sec = [] ∧ nsec = [])) :
    parseDuration sec nsec = (do
      let secs ← .okOr (parseUnsigned 64 sec)
      let nanos ← .okOr (parseUnsigned 32 nsec)
      let duration ← StdDuration.new (.ofNat secs) (.ofNat nanos)
      return some duration) := by
  cases sec with
  | cons char rest => rfl
  | nil =>
    cases nsec with
    | cons char rest => rfl
    | nil => exact absurd ⟨rfl, rfl⟩ filled

/-- When reading a duration panics, and when it succeeds. -/
theorem parseDuration_outcome (sec nsec : Str) :
    (parseDuration sec nsec = .panicked ↔ DurationOverflows sec nsec) ∧
      ((∃ value, parseDuration sec nsec = .ok value) ↔ DurationReads sec nsec) := by
  by_cases empty : sec = [] ∧ nsec = []
  · obtain ⟨rfl, rfl⟩ := empty
    simp [parseDuration, DurationOverflows, DurationReads, parseUnsigned_nil]
  · rw [parseDuration_cons empty]
    unfold DurationOverflows DurationReads
    cases secsRead : parseUnsigned 64 sec with
    | none => simp [empty]
    | some secs =>
      cases nanosRead : parseUnsigned 32 nsec with
      | none => simp [empty]
      | some nanos =>
        obtain ⟨panics, returns⟩ :=
          StdDuration.new_panicked (parseUnsigned_bound secsRead) (parseUnsigned_bound nanosRead)
        simp only [Decoded.okOr_some, Decoded.ok_bind, Option.some.injEq, exists_eq_left', exists_and_left,
          empty, false_or]
        rw [← panics, ← returns]
        cases StdDuration.new (.ofNat secs) (.ofNat nanos) <;> simp

theorem OfHalves.iff {group sec nsec : Str} (halves : splitOnce ',' group = some (sec, nsec))
    (holds : Str → Str → Prop) : OfHalves holds group ↔ holds sec nsec := by
  simp [OfHalves, halves]

theorem OfHalves.none {group : Str} (single : splitOnce ',' group = none) (holds : Str → Str → Prop) :
    ¬ OfHalves holds group := by
  simp [OfHalves, single]

/-- One group that holds a duration, and what the decoder does after it. -/
theorem parseDuration_bind {group : Str} {next : Option StdDuration → Decoded QosProfile} {later : Prop}
    (panics : ∀ value, next value = .panicked ↔ later) :
    (do
      let (sec, nsec) ← Decoded.okOr (splitOnce ',' group)
      let duration ← parseDuration sec nsec
      next duration) = .panicked ↔
      OfHalves DurationOverflows group ∨ OfHalves DurationReads group ∧ later := by
  cases halves : splitOnce ',' group with
  | none => simp [OfHalves.none halves]
  | some pair =>
    obtain ⟨sec, nsec⟩ := pair
    obtain ⟨overflows, reads⟩ := parseDuration_outcome sec nsec
    rw [OfHalves.iff halves, OfHalves.iff halves, Decoded.okOr_some, Decoded.ok_bind, Decoded.bind_eq_panicked]
    simp only [panics, ← overflows, ← reads, exists_and_right]

theorem splitN_three (separator : Char) (text : Str) :
    (∃ only, splitN separator 3 text = [only]) ∨ (∃ first second, splitN separator 3 text = [first, second]) ∨
      ∃ first second third, splitN separator 3 text = [first, second, third] := by
  rw [splitN]
  cases splitOnce separator text with
  | none => exact .inl ⟨text, rfl⟩
  | some pair =>
    obtain ⟨first, rest⟩ := pair
    simp only [splitN]
    cases splitOnce separator rest with
    | none => exact .inr (.inl ⟨first, rest, rfl⟩)
    | some pair => exact .inr (.inr ⟨first, pair.1, pair.2, rfl⟩)

theorem not_durationOverflows_nil (sec : Str) : ¬ DurationOverflows sec [] := by
  intro overflows
  obtain ⟨_, _, _, read, _⟩ := overflows
  simp [parseUnsigned_nil] at read

theorem leaseOverflows_iff (liv : Str) :
    LeaseOverflows liv ↔ (splitN ',' 3 liv)[0]?.getD [] ∈ ["".toList, "1".toList, "3".toList] ∧
      DurationOverflows ((splitN ',' 3 liv)[1]?.getD []) ((splitN ',' 3 liv)[2]?.getD []) := by
  unfold LeaseOverflows
  obtain ⟨only, parts⟩ | ⟨first, second, parts⟩ | ⟨first, second, third, parts⟩ := splitN_three ',' liv
  · simp [parts, not_durationOverflows_nil]
  · simp [parts, not_durationOverflows_nil]
  · simp [parts]

theorem lease_panicked (liv : Str) (profile : Liveliness → Option StdDuration → QosProfile) :
    (do
      let liveliness ← decodeLiveliness ((splitN ',' 3 liv)[0]?.getD [])
      let lease ← parseDuration ((splitN ',' 3 liv)[1]?.getD []) ((splitN ',' 3 liv)[2]?.getD [])
      return profile liveliness lease) = Decoded.panicked ↔ LeaseOverflows liv := by
  rw [leaseOverflows_iff]
  apply decodePolicy_bind
  intro liveliness
  rw [Decoded.bind_eq_panicked, (parseDuration_outcome _ _).1]
  simp

/-- The groups in front of the durations. -/
theorem head_panicked {rel dur hist : Str} {next : Reliability → Durability → History → Decoded QosProfile}
    {later : Prop}
    (panics : ∀ reliability durability history, next reliability durability history = .panicked ↔ later) :
    (do
      let reliability ← decodeReliability rel
      let durability ← decodeDurability dur
      let (kind, depth) ← Decoded.okOr (splitOnce ',' hist)
      let depth ← decodeDepth depth
      let history ← decodeHistory kind depth
      next reliability durability history) = Decoded.panicked ↔ HeadReads rel dur hist ∧ later := by
  unfold HeadReads
  rw [and_assoc, and_assoc]
  apply decodePolicy_bind
  intro reliability
  apply decodePolicy_bind
  intro durability
  cases halves : splitOnce ',' hist with
  | none => simp
  | some pair =>
    obtain ⟨kind, depth⟩ := pair
    simp only [Decoded.okOr_some, Decoded.ok_bind, Option.some.injEq, Prod.mk.injEq]
    have reads : (decodeDepth depth >>= fun depth => decodeHistory kind depth >>= next reliability durability) =
        .panicked ↔ (depth = [] ∨ (parseUnsigned 64 depth).isSome) ∧
          kind ∈ ["".toList, "1".toList, "2".toList] ∧ later := by
      apply decodeDepth_bind
      intro depth
      apply decodePolicy_bind
      exact panics reliability durability
    rw [reads, ← and_assoc]
    simp

/-- The decoder panics exactly where it comes to a duration that overflows. -/
theorem decodeQos_panicked (text : Str) : decodeQos text = .panicked ↔ OverflowReached text := by
  unfold decodeQos OverflowReached
  split
  · rename_i rel dur hist dl ls liv groups
    rw [head_panicked fun reliability durability history =>
      parseDuration_bind fun deadline => parseDuration_bind fun lifespan => lease_panicked liv _]
    constructor
    · intro reached
      exact ⟨rel, dur, hist, dl, ls, liv, groups, reached⟩
    · intro reached
      obtain ⟨_, _, _, _, _, _, groups', reached⟩ := reached
      obtain ⟨rfl, rfl, rfl, rfl, rfl, rfl, -⟩ : _ = rel ∧ _ = dur ∧ _ = hist ∧ _ = dl ∧ _ = ls ∧ _ = liv ∧ True := by
        simpa using groups'.symm.trans groups
      exact reached
  · rename_i other
    refine iff_of_false (by simp) ?_
    intro reached
    obtain ⟨_, _, _, _, _, _, groups, -⟩ := reached
    exact other _ _ _ _ _ _ groups

/-- Decoding returns on a text, whatever it is, unless it comes to a duration that overflows. -/
theorem decodeQos_returns_iff (text : Str) : decodeQos text ≠ .panicked ↔ ¬ OverflowReached text := by
  rw [ne_eq, decodeQos_panicked]

theorem decodeQos_panics : ¬ ∀ text : Str, decodeQos text ≠ .panicked := by
  intro returns
  exact returns "::,7:18446744073709551615,1000000000:,:,,".toList (by decide)

end Ros2Client
