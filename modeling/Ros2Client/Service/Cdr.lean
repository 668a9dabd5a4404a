import Ros2Client.Service.Wrappers
import Ros2Client.Text.Str

open Wire

namespace Ros2Client

def endOfInput : ReadError := .deserialization "unexpected end of input"

def cdrWord : CdrCodec UInt32 := .word (fun encoding => encoding = .cdrBe) endOfInput

def cdrInt32 : CdrCodec Int32 := cdrWord.via (fun word => .ok word.toInt32) Int32.toUInt32

def cdrOctets (count : Nat) : CdrCodec {bytes : List UInt8 // bytes.length = count} :=
  .fixed count (fun _ octets => octets.val)
    (fun _ bytes =>
      if sized : bytes.length = count then ⟨bytes, sized⟩ else ⟨.replicate count 0, List.length_replicate⟩)
    endOfInput

def cdrGuid : CdrCodec GUID := (cdrOctets 16).via (fun octets => .ok ⟨octets.val, octets.property⟩)
  (fun guid => ⟨guid.bytes, guid.size⟩)

/-- A string is its UTF-8 octets and a final NUL, counted. -/
def cdrString : CdrCodec String :=
  (cdrWord.block (.serialization "string too long") endOfInput).via
    (fun octets => match octets.getLast?, String.fromUTF8? ⟨octets.dropLast.toArray⟩ with
      | some 0, some text => .ok text
      | _, _ => .error (.deserialization "invalid string"))
    (fun text => text.toByteArray.data.toList ++ [0])

def highWord (number : SequenceNumber) : Int32 := .ofInt (number.value.toInt / 2 ^ 32)

def lowWord (number : SequenceNumber) : UInt32 := .ofNat (number.value.toInt % 2 ^ 32).toNat

def numberOfWords (high : Int32) (low : UInt32) : SequenceNumber := ⟨.ofInt (high.toInt * 2 ^ 32 + low.toNat)⟩

def cdrSequenceNumber : CdrCodec SequenceNumber :=
  (cdrInt32.pair cdrWord).via (fun words => .ok (numberOfWords words.1 words.2))
    (fun number => (highWord number, lowWord number))

def cdrSampleIdentity : CdrCodec SampleIdentity :=
  (cdrGuid.pair cdrSequenceNumber).via (fun fields => .ok ⟨fields.1, fields.2⟩)
    (fun identity => (identity.writerGuid, identity.sequenceNumber))

theorem cdrWord_roundTrips : cdrWord.RoundTrips := Codec.word_roundTrips _ _

theorem cdrInt32_roundTrips : cdrInt32.RoundTrips :=
  cdrWord_roundTrips.via (fun value => by simp)

theorem cdrOctets_roundTrips (count : Nat) : (cdrOctets count).RoundTrips :=
  Codec.fixed_roundTrips (fun _ octets => octets.property) (fun _ octets => by simp [octets.property])

theorem cdrGuid_roundTrips : cdrGuid.RoundTrips := (cdrOctets_roundTrips 16).via (fun _ => rfl)

theorem cdrString_roundTrips : cdrString.RoundTrips :=
  (cdrWord_roundTrips.block _ _).via (fun text => by simp [Text.fromUTF8_toByteArray])

theorem numberOfWords_words (number : SequenceNumber) : numberOfWords (highWord number) (lowWord number) = number := by
  obtain ⟨value⟩ := number
  have low := value.le_toInt
  have high := value.toInt_lt
  have highExact : (Int32.ofInt (value.toInt / 2 ^ 32)).toInt = value.toInt / 2 ^ 32 :=
    Int32.toInt_ofInt_of_le (by omega) (by omega)
  have lowExact : (UInt32.ofNat (value.toInt % 2 ^ 32).toNat).toNat = (value.toInt % 2 ^ 32).toNat :=
    UInt32.toNat_ofNat_of_lt' (by simp only [UInt32.size]; omega)
  have whole : value.toInt / 2 ^ 32 * 2 ^ 32 + (value.toInt % 2 ^ 32).toNat = value.toInt := by omega
  simp only [numberOfWords, highWord, lowWord, highExact, lowExact, whole, Int64.ofInt_toInt]

theorem cdrSequenceNumber_roundTrips : cdrSequenceNumber.RoundTrips :=
  (cdrInt32_roundTrips.pair cdrWord_roundTrips).via (fun number => by rw [numberOfWords_words])

theorem cdrSampleIdentity_roundTrips : cdrSampleIdentity.RoundTrips :=
  (cdrGuid_roundTrips.pair cdrSequenceNumber_roundTrips).via (fun _ => rfl)

def cdrBasicRequestHeader : CdrCodec BasicRequestHeader :=
  (cdrSampleIdentity.pair cdrString).via (fun fields => .ok ⟨fields.1, fields.2⟩)
    (fun header => (header.requestId, header.instanceName))

def cdrBasicReplyHeader : CdrCodec BasicReplyHeader :=
  (cdrSampleIdentity.pair cdrWord).via (fun fields => .ok ⟨fields.1, fields.2⟩)
    (fun header => (header.relatedRequestId, header.remoteExceptionCode))

def cdrCycloneHeader : CdrCodec CycloneHeader :=
  ((cdrOctets 8).pair (cdrInt32.pair cdrWord)).via
    (fun fields => .ok ⟨fields.1.val, fields.1.property, fields.2.1, fields.2.2⟩)
    (fun header => (⟨header.guidSecondHalf, header.size⟩, header.sequenceNumberHigh, header.sequenceNumberLow))

theorem cdrBasicRequestHeader_roundTrips : cdrBasicRequestHeader.RoundTrips :=
  (cdrSampleIdentity_roundTrips.pair cdrString_roundTrips).via (fun _ => rfl)

theorem cdrBasicReplyHeader_roundTrips : cdrBasicReplyHeader.RoundTrips :=
  (cdrSampleIdentity_roundTrips.pair cdrWord_roundTrips).via (fun _ => rfl)

theorem cdrCycloneHeader_roundTrips : cdrCycloneHeader.RoundTrips :=
  ((cdrOctets_roundTrips 8).pair (cdrInt32_roundTrips.pair cdrWord_roundTrips)).via (fun _ => rfl)

/-- CDR for the three headers. None of them needs padding, so each is its fields in a row. -/
def plainCdr : Rustdds where
  basicRequestHeader := cdrBasicRequestHeader
  basicReplyHeader := cdrBasicReplyHeader
  cycloneHeader := cdrCycloneHeader
  high := highWord
  low := lowWord
  fromHighLow := numberOfWords

theorem plainCdr_lawful : plainCdr.Lawful where
  basicRequestHeader := cdrBasicRequestHeader_roundTrips
  basicReplyHeader := cdrBasicReplyHeader_roundTrips
  cycloneHeader := cdrCycloneHeader_roundTrips
  fromHighLow := numberOfWords_words

end Ros2Client
