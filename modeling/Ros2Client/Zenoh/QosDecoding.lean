import Ros2Client.Text.Fields
import Ros2Client.Zenoh.QosEncoding

open Text

namespace Ros2Client

structure QosDecodeError where
deriving DecidableEq

inductive Decoded (α : Type)
  | ok (value : α)
  | err (error : QosDecodeError)
  | panicked
deriving DecidableEq

def Decoded.bind {α β : Type} : Decoded α → (α → Decoded β) → Decoded β
  | .ok value, next => next value
  | .err error, _ => .err error
  | .panicked, _ => .panicked

instance : Monad Decoded where
  pure := .ok
  bind := .bind

def Decoded.okOr {α : Type} : Option α → Decoded α
  | some value => .ok value
  | none => .err {}

section

variable {α β : Type}

@[simp] theorem Decoded.ok_bind (value : α) (next : α → Decoded β) : (Decoded.ok value >>= next) = next value := rfl

@[simp] theorem Decoded.err_bind (error : QosDecodeError) (next : α → Decoded β) :
    (Decoded.err error >>= next) = .err error := rfl

@[simp] theorem Decoded.panicked_bind (next : α → Decoded β) : (Decoded.panicked >>= next) = .panicked := rfl

@[simp] theorem Decoded.pure_eq (value : α) : (pure value : Decoded α) = .ok value := rfl

@[simp] theorem Decoded.okOr_some (value : α) : Decoded.okOr (some value) = .ok value := rfl

@[simp] theorem Decoded.okOr_none : Decoded.okOr (none : Option α) = .err {} := rfl

theorem Decoded.okOr_ne_panicked (value : Option α) : Decoded.okOr value ≠ .panicked := by
  cases value <;> simp [Decoded.okOr]

theorem Decoded.bind_eq_panicked {first : Decoded α} {next : α → Decoded β} :
    (first >>= next) = .panicked ↔ first = .panicked ∨ ∃ value, first = .ok value ∧ next value = .panicked := by
  cases first <;> simp

end

/-- `Duration::new`: whole seconds among the nanoseconds are carried over; if the seconds then
do not fit it panics. -/
def StdDuration.new (secs : UInt64) (nanos : UInt32) : Decoded StdDuration :=
  if secs.toNat + nanos.toNat / 1000000000 < 2 ^ 64 then
    .ok ⟨.ofNat (secs.toNat + nanos.toNat / 1000000000), .ofNat (nanos.toNat % 1000000000), by
      rw [UInt32.toNat_ofNat']
      have small : nanos.toNat % 1000000000 < 1000000000 := Nat.mod_lt _ (by decide)
      exact lt_of_le_of_lt (Nat.mod_le _ _) small⟩
  else .panicked

def parseDuration (sec nsec : Str) : Decoded (Option StdDuration) :=
  match sec.isEmpty, nsec.isEmpty with
  | true, true => .ok none
  | _, _ => do
    let secs ← .okOr (parseUnsigned 64 sec)
    let nanos ← .okOr (parseUnsigned 32 nsec)
    let duration ← StdDuration.new (.ofNat secs) (.ofNat nanos)
    return some duration

def decodePolicy {α : Type} (codes : List (Str × α)) (text : Str) : Decoded α := .okOr (codes.lookup text)

def decodeReliability : Str → Decoded Reliability :=
  decodePolicy [("".toList, .reliable), ("1".toList, .reliable), ("2".toList, .bestEffort)]

def decodeDurability : Str → Decoded Durability :=
  decodePolicy [("".toList, .volatile), ("1".toList, .transientLocal), ("2".toList, .volatile)]

def decodeDepth (text : Str) : Decoded UInt64 :=
  if text.isEmpty then .ok 0 else do
    let depth ← .okOr (parseUnsigned 64 text)
    return .ofNat depth

def decodeHistory (text : Str) (depth : UInt64) : Decoded History :=
  decodePolicy [("".toList, .keepLast depth), ("1".toList, .keepLast depth), ("2".toList, .keepAll)] text

def decodeLiveliness : Str → Decoded Liveliness :=
  decodePolicy [("".toList, .automatic), ("1".toList, .automatic), ("3".toList, .manualByTopic)]

def decodeQos (text : Str) : Decoded QosProfile :=
  match text.splitOn ':' with
  | [rel, dur, hist, dl, ls, liv] => do
    let reliability ← decodeReliability rel
    let durability ← decodeDurability dur
    let (histStr, depthStr) ← .okOr (splitOnce ',' hist)
    let depth ← decodeDepth depthStr
    let history ← decodeHistory histStr depth
    let (dlSec, dlNsec) ← .okOr (splitOnce ',' dl)
    let deadline ← parseDuration dlSec dlNsec
    let (lsSec, lsNsec) ← .okOr (splitOnce ',' ls)
    let lifespan ← parseDuration lsSec lsNsec
    let livParts := splitN ',' 3 liv
    let livStr := livParts[0]?.getD []
    let leaseSec := livParts[1]?.getD []
    let leaseNsec := livParts[2]?.getD []
    let liveliness ← decodeLiveliness livStr
    let livelinessLease ← parseDuration leaseSec leaseNsec
    return { reliability, durability, history, deadline, lifespan, liveliness, livelinessLease }
  | _ => .err {}

example : decodeQos "::,7:,:,:,,".toList = .ok
    { QosProfile.subscriptionDefault with reliability := .reliable, history := .keepLast 7 } := by decide

example : decodeQos "too:few:groups".toList = .err {} := by decide

inductive HistoryKind
  | keepLast
  | keepAll
deriving DecidableEq

def historyCode : HistoryKind → Str
  | .keepLast => "1".toList
  | .keepAll => "2".toList

structure DurationFields where
  sec : Option (Numeral (2 ^ 64))
  nsec : Option (Numeral 1000000000)

/-- The sub-fields of the documented text; each of them is empty or a literal. -/
structure QosFields where
  rel : Option Reliability
  dur : Option Durability
  hist : Option HistoryKind
  depth : Option (Numeral (2 ^ 64))
  deadline : DurationFields
  lifespan : DurationFields
  liv : Option Liveliness
  lease : DurationFields

def codeText {α : Type} (code : α → Str) (field : Option α) : Str := (field.map code).getD []

def numeralText {limit : Nat} (field : Option (Numeral limit)) : Str := codeText Numeral.digits field

namespace DurationFields

def text (fields : DurationFields) : Str := numeralText fields.sec ++ ",".toList ++ numeralText fields.nsec

def Whole (fields : DurationFields) : Prop := fields.sec.isSome = fields.nsec.isSome

instance (fields : DurationFields) : Decidable fields.Whole := inferInstanceAs (Decidable (_ = _))

/-- What the fields stand for: a missing half of a duration is zero. -/
def meaning (fields : DurationFields) : Option StdDuration :=
  match fields.sec, fields.nsec with
  | none, none => none
  | sec, nsec => some ⟨.ofNat ((sec.map Numeral.value).getD 0), .ofNat ((nsec.map Numeral.value).getD 0), by
      rw [UInt32.toNat_ofNat']
      refine lt_of_le_of_lt (Nat.mod_le _ _) ?_
      cases nsec with
      | none => simp
      | some nsec => exact nsec.value_lt⟩

end DurationFields

namespace QosFields

def text (fields : QosFields) : Str :=
  [':'].intercalate [codeText reliabilityCode fields.rel, codeText durabilityCode fields.dur,
    codeText historyCode fields.hist ++ ",".toList ++ numeralText fields.depth,
    fields.deadline.text, fields.lifespan.text, codeText livelinessCode fields.liv ++ ",".toList ++ fields.lease.text]

/-- The profile that the fields stand for: what is empty has its default. -/
def meaning (defaultDepth : UInt64) (fields : QosFields) : QosProfile where
  reliability := fields.rel.getD .reliable
  durability := fields.dur.getD .volatile
  history := match fields.hist.getD .keepLast with
    | .keepLast => .keepLast (((fields.depth.map Numeral.value).map UInt64.ofNat).getD defaultDepth)
    | .keepAll => .keepAll
  deadline := fields.deadline.meaning
  lifespan := fields.lifespan.meaning
  liveliness := fields.liv.getD .automatic
  livelinessLease := fields.lease.meaning

def Whole (fields : QosFields) : Prop := fields.deadline.Whole ∧ fields.lifespan.Whole ∧ fields.lease.Whole

instance (fields : QosFields) : Decidable fields.Whole := inferInstanceAs (Decidable (_ ∧ _))

end QosFields

theorem not_mem_codeText {α : Type} {code : α → Str} {char : Char} (absent : ∀ value, char ∉ code value)
    (field : Option α) : char ∉ codeText code field := by
  cases field with
  | none => simp [codeText]
  | some value => exact absent value

theorem not_mem_numeralText {limit : Nat} (char : Char) (other : char.isDigit = false)
    (field : Option (Numeral limit)) : char ∉ numeralText field :=
  not_mem_codeText (fun numeral => numeral.not_mem_digits other) field

theorem numeralText_isEmpty {limit : Nat} (field : Option (Numeral limit)) :
    (numeralText field).isEmpty = field.isNone := by
  cases field with
  | none => rfl
  | some numeral =>
    have present := numeral.present
    simpa [numeralText, codeText] using present

theorem parseUnsigned_numeralText {limit bits : Nat} (fits : limit ≤ 2 ^ bits) (field : Option (Numeral limit)) :
    parseUnsigned bits (numeralText field) = field.map Numeral.value := by
  cases field with
  | none => rfl
  | some numeral => exact numeral.parseUnsigned_digits fits

/-- A text that the decoder reads as a policy has no separators. -/
theorem not_mem_policy (char : Char) (other : char.isDigit = false) :
    (∀ value, char ∉ reliabilityCode value) ∧ (∀ value, char ∉ durabilityCode value) ∧
      (∀ value, char ∉ historyCode value) ∧ ∀ value, char ∉ livelinessCode value := by
  have digit : ∀ code : Char, code.isDigit = true → char ≠ code := by
    intro code isDigit same
    simp [same, isDigit] at other
  have one := digit '1' rfl
  have two := digit '2' rfl
  have three := digit '3' rfl
  refine ⟨?_, ?_, ?_, ?_⟩ <;> intro value <;>
    cases value <;> simp [reliabilityCode, durabilityCode, historyCode, livelinessCode, one, two, three]

theorem decodeReliability_code (field : Option Reliability) :
    decodeReliability (codeText reliabilityCode field) = .ok (field.getD .reliable) := by
  cases field with
  | none => rfl
  | some value => cases value <;> rfl

theorem decodeDurability_code (field : Option Durability) :
    decodeDurability (codeText durabilityCode field) = .ok (field.getD .volatile) := by
  cases field with
  | none => rfl
  | some value => cases value <;> rfl

theorem decodeLiveliness_code (field : Option Liveliness) :
    decodeLiveliness (codeText livelinessCode field) = .ok (field.getD .automatic) := by
  cases field with
  | none => rfl
  | some value => cases value <;> rfl

theorem decodeHistory_code (field : Option HistoryKind) (depth : UInt64) :
    decodeHistory (codeText historyCode field) depth = .ok (match field.getD .keepLast with
      | .keepLast => .keepLast depth
      | .keepAll => .keepAll) := by
  cases field with
  | none => rfl
  | some value => cases value <;> rfl

theorem decodeDepth_numeralText (field : Option (Numeral (2 ^ 64))) :
    decodeDepth (numeralText field) = .ok (((field.map Numeral.value).map UInt64.ofNat).getD 0) := by
  rw [decodeDepth, numeralText_isEmpty, parseUnsigned_numeralText (Nat.le_refl _)]
  cases field <;> rfl

/-- Nanoseconds below one second are taken as they are. -/
theorem StdDuration.new_of_lt {secs nanos : Nat} (whole : secs < 2 ^ 64) (below : nanos < 1000000000) :
    ∃ bound, StdDuration.new (.ofNat secs) (.ofNat nanos) = .ok ⟨.ofNat secs, .ofNat nanos, bound⟩ := by
  have secs' : (UInt64.ofNat secs).toNat = secs := UInt64.toNat_ofNat_of_lt' whole
  have nanos' : (UInt32.ofNat nanos).toNat = nanos := UInt32.toNat_ofNat_of_lt' (lt_trans below (by decide))
  have noCarry : nanos / 1000000000 = 0 := Nat.div_eq_of_lt below
  have rest : nanos % 1000000000 = nanos := Nat.mod_eq_of_lt below
  refine ⟨by rw [nanos']; exact below, ?_⟩
  simp only [StdDuration.new, secs', nanos', noCarry, rest, Nat.add_zero, whole, if_true]

theorem parseDuration_fields (fields : DurationFields) :
    parseDuration (numeralText fields.sec) (numeralText fields.nsec) =
      if fields.Whole then .ok fields.meaning else .err {} := by
  unfold parseDuration
  rw [numeralText_isEmpty, numeralText_isEmpty, parseUnsigned_numeralText (Nat.le_refl _),
    parseUnsigned_numeralText (by decide)]
  obtain ⟨sec, nsec⟩ := fields
  cases sec with
  | none => cases nsec <;> rfl
  | some sec =>
    cases nsec with
    | none => rfl
    | some nsec =>
      obtain ⟨bound, new⟩ := StdDuration.new_of_lt sec.value_lt nsec.value_lt
      simp [new, DurationFields.meaning, DurationFields.Whole]

theorem DurationFields.splitOnce_text (fields : DurationFields) :
    splitOnce ',' fields.text = some (numeralText fields.sec, numeralText fields.nsec) := by
  rw [text, List.append_assoc]
  exact splitOnce_append (not_mem_numeralText ',' rfl _) _

theorem DurationFields.colon_not_mem_text (fields : DurationFields) : ':' ∉ fields.text := by
  have sec := not_mem_numeralText ':' rfl fields.sec
  have nsec := not_mem_numeralText ':' rfl fields.nsec
  simp [text, sec, nsec]

theorem QosFields.splitOn_text (fields : QosFields) :
    fields.text.splitOn ':' = [codeText reliabilityCode fields.rel, codeText durabilityCode fields.dur,
      codeText historyCode fields.hist ++ ",".toList ++ numeralText fields.depth, fields.deadline.text,
      fields.lifespan.text, codeText livelinessCode fields.liv ++ ",".toList ++ fields.lease.text] := by
  obtain ⟨rel, dur, hist, liv⟩ := not_mem_policy ':' rfl
  have depth := not_mem_numeralText ':' rfl fields.depth
  rw [text]
  apply List.splitOn_intercalate
  · simp only [List.mem_cons, List.not_mem_nil, or_false, forall_eq_or_imp, forall_eq, List.mem_append, not_or]
    exact ⟨not_mem_codeText rel _, not_mem_codeText dur _, ⟨⟨not_mem_codeText hist _, by decide⟩, depth⟩,
      fields.deadline.colon_not_mem_text, fields.lifespan.colon_not_mem_text,
      ⟨not_mem_codeText liv _, by decide⟩, fields.lease.colon_not_mem_text⟩
  · simp

/-- The decoder on a text of the documented form. -/
theorem decodeQos_text (fields : QosFields) :
    decodeQos fields.text = if fields.Whole then .ok (fields.meaning 0) else .err {} := by
  obtain ⟨-, -, hist, liv⟩ := not_mem_policy ',' rfl
  have history : splitOnce ',' (codeText historyCode fields.hist ++ ",".toList ++ numeralText fields.depth) =
      some (codeText historyCode fields.hist, numeralText fields.depth) := by
    rw [List.append_assoc]
    exact splitOnce_append (not_mem_codeText hist _) _
  have liveliness : splitN ',' 3 (codeText livelinessCode fields.liv ++ ",".toList ++ fields.lease.text) =
      [codeText livelinessCode fields.liv, numeralText fields.lease.sec, numeralText fields.lease.nsec] := by
    rw [List.append_assoc]
    refine (splitN_append (not_mem_codeText liv _) 1 fields.lease.text).trans ?_
    rw [splitN, fields.lease.splitOnce_text]
    rfl
  simp only [decodeQos, fields.splitOn_text, decodeReliability_code, decodeDurability_code, history,
    decodeDepth_numeralText, decodeHistory_code, DurationFields.splitOnce_text, liveliness, Decoded.okOr_some,
    Decoded.ok_bind, parseDuration_fields, QosFields.Whole]
  by_cases deadline : fields.deadline.Whole
  · by_cases lifespan : fields.lifespan.Whole
    · by_cases lease : fields.lease.Whole <;>
        simp [deadline, lifespan, lease, decodeLiveliness_code, parseDuration_fields, QosFields.meaning]
    · simp [deadline, lifespan]
  · simp [deadline]

/-- The decoder gives a text of the documented form its meaning if and only if no duration has only
one of its halves, and a depth that is left out stands for zero. -/
theorem decodeQos_text_iff (defaultDepth : UInt64) (fields : QosFields) :
    decodeQos fields.text = .ok (fields.meaning defaultDepth) ↔
      fields.Whole ∧ (fields.hist = some .keepAll ∨ fields.depth.isSome ∨ defaultDepth = 0) := by
  have same : fields.meaning 0 = fields.meaning defaultDepth ↔
      fields.hist = some .keepAll ∨ fields.depth.isSome ∨ defaultDepth = 0 := by
    obtain ⟨rel, dur, hist, depth, deadline, lifespan, liv, lease⟩ := fields
    cases depth with
    | some depth => simp [QosFields.meaning]
    | none =>
      cases hist with
      | none => simp [QosFields.meaning, eq_comm]
      | some kind => cases kind <;> simp [QosFields.meaning, eq_comm]
  rw [decodeQos_text]
  by_cases whole : fields.Whole
  · rw [if_pos whole, Decoded.ok.injEq, same]
    simp [whole]
  · simp [whole]

def QosFields.halfDeadline : QosFields where
  rel := none
  dur := none
  hist := none
  depth := some (.ofNat 7 (by decide))
  deadline := ⟨some (.ofNat 1 (by decide)), none⟩
  lifespan := ⟨none, none⟩
  liv := none
  lease := ⟨none, none⟩

theorem halfDeadline_refused :
    ¬ ∃ defaultDepth : UInt64, ∀ fields : QosFields, decodeQos fields.text = .ok (fields.meaning defaultDepth) := by
  intro accepted
  obtain ⟨defaultDepth, accepted⟩ := accepted
  have half := accepted QosFields.halfDeadline
  rw [decodeQos_text, if_neg (by decide)] at half
  cases half

def DurationFields.ofDuration : Option StdDuration → DurationFields
  | none => ⟨none, none⟩
  | some duration => ⟨some (.ofNat duration.secs.toNat duration.secs.toNat_lt),
      some (.ofNat duration.subsecNanos.toNat duration.bound)⟩

def QosFields.ofProfile (profile : QosProfile) : QosFields where
  rel := if profile.reliability = .reliable then none else some profile.reliability
  dur := if profile.durability = .volatile then none else some profile.durability
  hist := match profile.history with
    | .keepLast _ => none
    | .keepAll => some .keepAll
  depth := match profile.history with
    | .keepLast depth => some (.ofNat depth.toNat depth.toNat_lt)
    | .keepAll => some (.ofNat 0 (by decide))
  deadline := .ofDuration profile.deadline
  lifespan := .ofDuration profile.lifespan
  liv := if profile.liveliness = .automatic then none else some profile.liveliness
  lease := .ofDuration profile.livelinessLease

theorem DurationFields.ofDuration_text (duration : Option StdDuration) :
    numeralText (ofDuration duration).sec = (durationFields duration).1 ∧
      numeralText (ofDuration duration).nsec = (durationFields duration).2 := by
  cases duration <;> exact ⟨rfl, rfl⟩

theorem DurationFields.whole_ofDuration (duration : Option StdDuration) : (ofDuration duration).Whole := by
  cases duration <;> rfl

theorem DurationFields.meaning_ofDuration (duration : Option StdDuration) :
    (ofDuration duration).meaning = duration := by
  cases duration with
  | none => rfl
  | some duration => simp [ofDuration, meaning, Numeral.value_ofNat]

theorem codeText_unless {α : Type} [DecidableEq α] (code : α → Str) (default value : α) :
    codeText code (if value = default then none else some value) = if value = default then [] else code value := by
  split <;> rfl

theorem QosFields.text_ofProfile (profile : QosProfile) : (ofProfile profile).text = encodeQos profile := by
  obtain ⟨deadlineSec, deadlineNsec⟩ := DurationFields.ofDuration_text profile.deadline
  obtain ⟨lifespanSec, lifespanNsec⟩ := DurationFields.ofDuration_text profile.lifespan
  obtain ⟨leaseSec, leaseNsec⟩ := DurationFields.ofDuration_text profile.livelinessLease
  unfold text ofProfile DurationFields.text encodeQos
  simp only [codeText_unless, deadlineSec, deadlineNsec, lifespanSec, lifespanNsec, leaseSec, leaseNsec]
  cases profile.history <;>
    simp only [List.intercalate_cons_cons, List.intercalate_singleton, List.append_assoc] <;>
    rfl

theorem QosFields.meaning_ofProfile (profile : QosProfile) : (ofProfile profile).meaning 0 = profile := by
  have deadline := DurationFields.meaning_ofDuration profile.deadline
  have lifespan := DurationFields.meaning_ofDuration profile.lifespan
  have lease := DurationFields.meaning_ofDuration profile.livelinessLease
  obtain ⟨reliability, durability, history, _, _, liveliness, _⟩ := profile
  cases reliability <;> cases durability <;> cases history <;> cases liveliness <;>
    simp [meaning, ofProfile, deadline, lifespan, lease, Numeral.value_ofNat]

/-- A profile that is encoded and decoded again is the profile. -/
theorem decodeQos_encodeQos (profile : QosProfile) : decodeQos (encodeQos profile) = .ok profile := by
  have whole : (QosFields.ofProfile profile).Whole :=
    ⟨DurationFields.whole_ofDuration _, DurationFields.whole_ofDuration _, DurationFields.whole_ofDuration _⟩
  rw [← QosFields.text_ofProfile, decodeQos_text, if_pos whole, QosFields.meaning_ofProfile]

end Ros2Client
