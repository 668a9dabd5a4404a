import Ros2Client.Wire.Codec

open Wire

namespace Ros2Client

/-- A `[u8; 16]`: the identity of a publisher or client on the wire. -/
structure Gid where
  bytes : List UInt8
  size : bytes.length = 16

instance : DecidableEq Gid := fun first second =>
  decidable_of_iff (first.bytes = second.bytes) (by cases first; cases second; simp)

def octetGid (octet : UInt8) : Gid := ⟨List.replicate 16 octet, rfl⟩

def gidKey (gid : Gid) : BitVec 128 := .ofNat 128 (decodeOctets gid.bytes)

theorem gidKey_inj {first second : Gid} : gidKey first = gidKey second ↔ first = second := by
  constructor
  · intro same
    have bound := decodeOctets_lt first.bytes
    have bound' := decodeOctets_lt second.bytes
    rw [first.size] at bound
    rw [second.size] at bound'
    have number : decodeOctets first.bytes = decodeOctets second.bytes := by
      have congruent := congrArg BitVec.toNat same
      simp only [gidKey, BitVec.toNat_ofNat] at congruent
      omega
    have octets := decodeOctets_inj (first.size.trans second.size.symm) number
    cases first
    cases second
    cases octets
    rfl
  · exact congrArg gidKey

structure AttachmentData where
  sequenceNumber : Int64
  sourceTimestamp : Int64
  sourceGid : Gid
deriving DecidableEq

/-- What attachments use of `zenoh-ext`: each reader takes what its writer wrote off the front of the buffer. -/
structure ZenohExt where
  int64 : Int64 → List UInt8
  readInt64 : List UInt8 → Option (Int64 × List UInt8)
  array : Gid → List UInt8
  readArray : List UInt8 → Option (Gid × List UInt8)
  readInt64_int64 : ∀ number rest, readInt64 (int64 number ++ rest) = some (number, rest)
  readArray_array : ∀ gid rest, readArray (array gid ++ rest) = some (gid, rest)

def AttachmentData.toZbytes (ext : ZenohExt) (attachment : AttachmentData) : List UInt8 :=
  ext.int64 attachment.sequenceNumber ++ ext.int64 attachment.sourceTimestamp ++ ext.array attachment.sourceGid

/-- Octets behind the three fields are not looked at. -/
def AttachmentData.fromZbytes (ext : ZenohExt) (zbytes : List UInt8) : Option AttachmentData := do
  let (sequenceNumber, zbytes) ← ext.readInt64 zbytes
  let (sourceTimestamp, zbytes) ← ext.readInt64 zbytes
  let (sourceGid, _) ← ext.readArray zbytes
  return ⟨sequenceNumber, sourceTimestamp, sourceGid⟩

theorem AttachmentData.fromZbytes_toZbytes (ext : ZenohExt) (attachment : AttachmentData) :
    fromZbytes ext (attachment.toZbytes ext) = some attachment := by
  have array := ext.readArray_array attachment.sourceGid []
  rw [List.append_nil] at array
  simp [fromZbytes, toZbytes, ext.readInt64_int64, array]

def splitExact (count : Nat) (bytes : List UInt8) : Option (List UInt8 × List UInt8) :=
  if bytes.length < count then none else some (bytes.take count, bytes.drop count)

theorem splitExact_append {octets : List UInt8} (rest : List UInt8) {count : Nat} (sized : octets.length = count) :
    splitExact count (octets ++ rest) = some (octets, rest) := by
  subst sized
  have long : ¬(octets ++ rest).length < octets.length := by
    rw [List.length_append]
    omega
  rw [splitExact, if_neg long, List.take_left, List.drop_left]

def Gid.ofList (bytes : List UInt8) : Option Gid := if size : bytes.length = 16 then some ⟨bytes, size⟩ else none

/-- The layout of the attachments of `rmw_zenoh`: two numbers, little-endian, and the counted octets. -/
def zenohExt : ZenohExt where
  int64 number := encodeOctets 8 number.toUInt64.toNat
  readInt64 bytes :=
    (splitExact 8 bytes).map fun (octets, rest) => (UInt64.ofNat (decodeOctets octets) |>.toInt64, rest)
  array gid := 16 :: gid.bytes
  readArray bytes :=
    match bytes with
    | 16 :: bytes => (splitExact 16 bytes).bind fun (octets, rest) => (Gid.ofList octets).map (·, rest)
    | _ => none
  readInt64_int64 := by
    intro number rest
    have fits : number.toUInt64.toNat < 256 ^ 8 := number.toUInt64.toNat_lt
    have split := splitExact_append rest (length_encodeOctets 8 number.toUInt64.toNat)
    have read := decodeOctets_encodeOctets fits
    simp only [split, Option.map_some, read, UInt64.ofNat_toNat, Int64.toInt64_toUInt64]
  readArray_array := by
    intro gid rest
    have split := splitExact_append rest gid.size
    simp [split, Gid.ofList, gid.size]

inductive ByteOrder
  | littleEndian
  | bigEndian
deriving DecidableEq

/-- `cdr-encoding` for one type of messages, with its errors by their texts. -/
abbrev CdrEncoding (α : Type) := Codec ByteOrder String String α

def endOfBuffer : String := "unexpected end of input"

def cdrWord32 : CdrEncoding UInt32 := .word (· = .bigEndian) endOfBuffer

inductive CdrError
  | encoding (reason : String)
  | missingHeader
deriving DecidableEq

def cdrLeHeader : List UInt8 := [0, 1, 0, 0]

variable {Message : Type}

def toCdr (codec : CdrEncoding Message) (message : Message) : Except CdrError (List UInt8) := do
  let body ← (codec.serialize .littleEndian message).mapError .encoding
  return cdrLeHeader ++ body

def fromCdr (codec : CdrEncoding Message) (bytes : List UInt8) : Except CdrError Message :=
  match bytes with
  | _ :: representation :: _ :: _ :: body => do
    let order := if representation &&& 1 = 1 then ByteOrder.littleEndian else .bigEndian
    let (message, _consumed) ← (codec.deserialize order body).mapError .encoding
    return message
  | _ => .error .missingHeader

theorem toCdr_eq_ok {codec : CdrEncoding Message} {message : Message} {bytes : List UInt8} :
    toCdr codec message = .ok bytes ↔
      ∃ body, codec.serialize .littleEndian message = .ok body ∧ bytes = cdrLeHeader ++ body := by
  unfold toCdr
  cases written : codec.serialize .littleEndian message with
  | error reason => simp [Except.mapError, bind, Except.bind]
  | ok body => simp [Except.mapError, bind, Except.bind, pure, Except.pure, eq_comm]

theorem fromCdr_cdrLeHeader (codec : CdrEncoding Message) (body : List UInt8) :
    fromCdr codec (cdrLeHeader ++ body) =
      ((codec.deserialize .littleEndian body).map Prod.fst).mapError .encoding := by
  have order : (1 : UInt8) &&& 1 = 1 := by decide
  simp only [fromCdr, cdrLeHeader, List.cons_append, List.nil_append, if_pos order]
  cases codec.deserialize .littleEndian body <;> rfl

theorem fromCdr_toCdr {codec : CdrEncoding Message} (law : codec.RoundTrips) {message : Message} {bytes : List UInt8}
    (written : toCdr codec message = .ok bytes) : fromCdr codec bytes = .ok message := by
  obtain ⟨body, wrote, rfl⟩ := toCdr_eq_ok.mp written
  rw [fromCdr_cdrLeHeader, law.whole wrote]
  rfl

end Ros2Client
