import Mathlib.Algebra.Order.Ring.Int
import Mathlib.Data.List.Basic

namespace Wire

/-- A serializer and its deserializer, which also tells how many octets it has read. -/
structure Codec (Encoding WriteError ReadError α : Type) where
  serialize : Encoding → α → Except WriteError (List UInt8)
  deserialize : Encoding → List UInt8 → Except ReadError (α × Nat)

variable {Encoding WriteError ReadError α β : Type}

/-- Whatever was written is read back, to its last octet and no further. -/
def Codec.RoundTrips (codec : Codec Encoding WriteError ReadError α) : Prop :=
  ∀ encoding message bytes rest, codec.serialize encoding message = .ok bytes →
    codec.deserialize encoding (bytes ++ rest) = .ok (message, bytes.length)

theorem Codec.RoundTrips.whole {codec : Codec Encoding WriteError ReadError α} (law : codec.RoundTrips)
    {encoding : Encoding} {message : α} {bytes : List UInt8} (written : codec.serialize encoding message = .ok bytes) :
    codec.deserialize encoding bytes = .ok (message, bytes.length) := by
  have read := law encoding message bytes [] written
  rwa [List.append_nil] at read

theorem bind_eq_ok {Error : Type} {first : Except Error α} {next : α → Except Error β} {result : β} :
    first >>= next = .ok result ↔ ∃ value, first = .ok value ∧ next value = .ok result := by
  cases first with
  | error error => simp [bind, Except.bind]
  | ok value => simp [bind, Except.bind]

def Codec.pair (first : Codec Encoding WriteError ReadError α) (second : Codec Encoding WriteError ReadError β) :
    Codec Encoding WriteError ReadError (α × β) where
  serialize encoding value := do
    let head ← first.serialize encoding value.1
    let tail ← second.serialize encoding value.2
    return head ++ tail
  deserialize encoding bytes := do
    let (head, size) ← first.deserialize encoding bytes
    let (tail, more) ← second.deserialize encoding (bytes.drop size)
    return ((head, tail), size + more)

def Codec.Carries {α β : Type} (source : Codec Encoding WriteError ReadError α)
    (target : Codec Encoding WriteError ReadError β) (sent : α) (received : β) : Prop :=
  ∀ encoding bytes rest, source.serialize encoding sent = .ok bytes →
    target.deserialize encoding (bytes ++ rest) = .ok (received, bytes.length)

theorem Codec.Carries.pair {α β γ δ : Type} {source : Codec Encoding WriteError ReadError α}
    {target : Codec Encoding WriteError ReadError β} {source' : Codec Encoding WriteError ReadError γ}
    {target' : Codec Encoding WriteError ReadError δ} {sent : α} {received : β} {sent' : γ} {received' : δ}
    (first : source.Carries target sent received) (second : source'.Carries target' sent' received') :
    (source.pair source').Carries (target.pair target') (sent, sent') (received, received') := by
  intro encoding bytes rest written
  obtain ⟨head, wroteHead, more⟩ := bind_eq_ok.mp written
  obtain ⟨tail, wroteTail, joined⟩ := bind_eq_ok.mp more
  cases joined
  have readHead := first _ _ (tail ++ rest) wroteHead
  have readTail := second _ _ rest wroteTail
  simp [Codec.pair, bind, Except.bind, pure, Except.pure, readHead, readTail]

theorem Codec.Carries.unique {source : Codec Encoding WriteError ReadError α}
    {target : Codec Encoding WriteError ReadError β} {encoding : Encoding} {sent : α} {received other : β}
    {bytes : List UInt8} (first : source.Carries target sent received) (second : source.Carries target sent other)
    (written : source.serialize encoding sent = .ok bytes) : received = other := by
  have read := first encoding bytes [] written
  rw [second encoding bytes [] written] at read
  cases read
  rfl

theorem Codec.RoundTrips.carries {codec : Codec Encoding WriteError ReadError α} (law : codec.RoundTrips) (value : α) :
    codec.Carries codec value value := fun encoding => law encoding value

theorem Codec.RoundTrips.pair {first : Codec Encoding WriteError ReadError α}
    {second : Codec Encoding WriteError ReadError β} (firstLaw : first.RoundTrips) (secondLaw : second.RoundTrips) :
    (first.pair second).RoundTrips := by
  intro encoding ⟨left, right⟩ bytes rest written
  exact (firstLaw.carries left).pair (secondLaw.carries right) encoding bytes rest written

def Codec.via (codec : Codec Encoding WriteError ReadError α) (into : α → Except ReadError β) (back : β → α) :
    Codec Encoding WriteError ReadError β where
  serialize encoding value := codec.serialize encoding (back value)
  deserialize encoding bytes := do
    let (raw, size) ← codec.deserialize encoding bytes
    let value ← into raw
    return (value, size)

theorem Codec.Carries.readVia {γ : Type} {source : Codec Encoding WriteError ReadError α}
    {target : Codec Encoding WriteError ReadError β} {into : β → Except ReadError γ} {back : γ → β} {sent : α} {raw : β}
    {received : γ} (carried : source.Carries target sent raw) (converted : into raw = .ok received) :
    source.Carries (target.via into back) sent received := by
  intro encoding bytes rest written
  have read := carried encoding bytes rest written
  simp [Codec.via, bind, Except.bind, pure, Except.pure, read, converted]

theorem Codec.Carries.writeVia {γ : Type} {source : Codec Encoding WriteError ReadError α}
    {target : Codec Encoding WriteError ReadError β} {into : α → Except ReadError γ} {back : γ → α} {sent : γ} {raw : α}
    {received : β} (carried : source.Carries target raw received) (converted : back sent = raw) :
    (source.via into back).Carries target sent received := by
  subst converted
  exact carried

theorem Codec.RoundTrips.via {codec : Codec Encoding WriteError ReadError α} {into : α → Except ReadError β}
    {back : β → α} (law : codec.RoundTrips) (inverse : ∀ value, into (back value) = .ok value) :
    (codec.via into back).RoundTrips := by
  intro encoding value bytes rest written
  exact ((law.carries (back value)).readVia (inverse value)).writeVia rfl encoding bytes rest written

def Codec.fixed (size : Nat) (encode : Encoding → α → List UInt8) (decode : Encoding → List UInt8 → α)
    (short : ReadError) : Codec Encoding WriteError ReadError α where
  serialize encoding value := .ok (encode encoding value)
  deserialize encoding bytes :=
    if bytes.length < size then .error short else .ok (decode encoding (bytes.take size), size)

theorem Codec.fixed_roundTrips {size : Nat} {encode : Encoding → α → List UInt8}
    {decode : Encoding → List UInt8 → α} {short : ReadError}
    (sized : ∀ encoding value, (encode encoding value).length = size)
    (inverse : ∀ encoding value, decode encoding (encode encoding value) = value) :
    (Codec.fixed size encode decode short : Codec Encoding WriteError ReadError α).RoundTrips := by
  intro encoding value bytes rest written
  cases written
  have long : ¬(encode encoding value ++ rest).length < size := by
    rw [List.length_append, sized]
    omega
  have front : (encode encoding value ++ rest).take size = encode encoding value := by
    rw [List.take_append_of_le_length (Nat.le_of_eq (sized _ _).symm),
      List.take_of_length_le (Nat.le_of_eq (sized _ _))]
  simp only [Codec.fixed, if_neg long, front, inverse, sized]

def encodeWord (bigEndian : Bool) (word : UInt32) : List UInt8 :=
  let octets := [word.toNat, word.toNat / 256, word.toNat / 65536, word.toNat / 16777216].map UInt8.ofNat
  if bigEndian then octets.reverse else octets

def decodeOctets : List UInt8 → Nat
  | [] => 0
  | octet :: octets => octet.toNat + 256 * decodeOctets octets

def decodeWord (bigEndian : Bool) (octets : List UInt8) : UInt32 :=
  UInt32.ofNat (decodeOctets (if bigEndian then octets.reverse else octets))

def encodeOctets : Nat → Nat → List UInt8
  | 0, _ => []
  | count + 1, number => UInt8.ofNat number :: encodeOctets count (number / 256)

@[simp] theorem length_encodeOctets (count number : Nat) : (encodeOctets count number).length = count := by
  induction count generalizing number with
  | zero => rfl
  | succ count ih => rw [encodeOctets, List.length_cons, ih]

theorem decodeOctets_encodeOctets {count number : Nat} (fits : number < 256 ^ count) :
    decodeOctets (encodeOctets count number) = number := by
  induction count generalizing number with
  | zero =>
    have zero : number = 0 := Nat.lt_one_iff.mp fits
    rw [zero]
    rfl
  | succ count ih =>
    have rest : number / 256 < 256 ^ count := Nat.div_lt_of_lt_mul (Nat.pow_succ' ▸ fits)
    have octet : (UInt8.ofNat number).toNat = number % 256 := UInt8.toNat_ofNat'
    rw [encodeOctets, decodeOctets, ih rest, octet]
    omega

theorem decodeOctets_lt (octets : List UInt8) : decodeOctets octets < 256 ^ octets.length := by
  induction octets with
  | nil => exact Nat.one_pos
  | cons octet octets ih =>
    have small := octet.toNat_lt
    rw [decodeOctets, List.length_cons, Nat.pow_succ]
    omega

theorem decodeOctets_inj {first second : List UInt8} (sized : first.length = second.length)
    (same : decodeOctets first = decodeOctets second) : first = second := by
  induction first generalizing second with
  | nil => exact (List.eq_nil_of_length_eq_zero sized.symm).symm
  | cons octet octets ih =>
    cases second with
    | nil => cases sized
    | cons other others =>
      have small := octet.toNat_lt
      have small' := other.toNat_lt
      simp only [decodeOctets] at same
      have head : octet = other := UInt8.toNat_inj.mp (by omega)
      have tail : octets = others := ih (Nat.succ.inj sized) (by omega)
      rw [head, tail]

theorem length_encodeWord (bigEndian : Bool) (word : UInt32) : (encodeWord bigEndian word).length = 4 := by
  cases bigEndian <;> rfl

theorem decodeWord_encodeWord (bigEndian : Bool) (word : UInt32) :
    decodeWord bigEndian (encodeWord bigEndian word) = word := by
  have small := word.toNat_lt
  apply UInt32.toNat_inj.mp
  cases bigEndian
  all_goals
    simp [decodeWord, encodeWord, decodeOctets]
    omega

def Codec.word (bigEndian : Encoding → Bool) (short : ReadError) : Codec Encoding WriteError ReadError UInt32 :=
  .fixed 4 (fun encoding => encodeWord (bigEndian encoding)) (fun encoding => decodeWord (bigEndian encoding)) short

theorem Codec.word_roundTrips (bigEndian : Encoding → Bool) (short : ReadError) :
    (Codec.word bigEndian short : Codec Encoding WriteError ReadError UInt32).RoundTrips :=
  fixed_roundTrips (fun _ => length_encodeWord _) (fun _ => decodeWord_encodeWord _)

def Codec.block (count : Codec Encoding WriteError ReadError UInt32) (tooLong : WriteError) (short : ReadError) :
    Codec Encoding WriteError ReadError (List UInt8) where
  serialize encoding octets := do
    if UInt32.size ≤ octets.length then throw tooLong
    let size ← count.serialize encoding (UInt32.ofNat octets.length)
    return size ++ octets
  deserialize encoding bytes := do
    let (length, size) ← count.deserialize encoding bytes
    if (bytes.drop size).length < length.toNat then throw short
    return ((bytes.drop size).take length.toNat, size + length.toNat)

theorem Codec.RoundTrips.block {count : Codec Encoding WriteError ReadError UInt32} (law : count.RoundTrips)
    (tooLong : WriteError) (short : ReadError) : (count.block tooLong short).RoundTrips := by
  intro encoding octets bytes rest written
  simp only [Codec.block] at written
  split at written
  · cases written
  · rename_i fits
    obtain ⟨size, wrote, joined⟩ := bind_eq_ok.mp written
    cases joined
    have read := law _ _ _ (octets ++ rest) wrote
    have counted : (UInt32.ofNat octets.length).toNat = octets.length := UInt32.toNat_ofNat_of_lt' (Nat.not_le.mp fits)
    simp [Codec.block, bind, Except.bind, pure, Except.pure, read, counted]

end Wire
