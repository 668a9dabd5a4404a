import Ros2Client.Service.Identity
import Ros2Client.Wire.Codec

open Wire

namespace Ros2Client

inductive ServiceMapping
  | basic
  | enhanced
  | cyclone
deriving DecidableEq

structure RepresentationIdentifier where
  first : UInt8
  second : UInt8
deriving DecidableEq

def RepresentationIdentifier.cdrBe : RepresentationIdentifier := ⟨0, 0⟩

def RepresentationIdentifier.cdrLe : RepresentationIdentifier := ⟨0, 1⟩

inductive ReadError
  | deserialization (reason : String)
  | internal (reason : String)
deriving DecidableEq

inductive WriteError
  | serialization (reason : String)
deriving DecidableEq

abbrev CdrCodec (α : Type) := Codec RepresentationIdentifier WriteError ReadError α

structure MessageInfo where
  sequenceNumber : SequenceNumber
  publisher : GUID
  relatedSampleIdentity : Option SampleIdentity
deriving DecidableEq

def MessageInfo.writerGuid (info : MessageInfo) : GUID := info.publisher

def MessageInfo.sampleIdentity (info : MessageInfo) : SampleIdentity := ⟨info.writerGuid, info.sequenceNumber⟩

structure BasicRequestHeader where
  requestId : SampleIdentity
  instanceName : String
deriving DecidableEq

def BasicRequestHeader.new (requestId : SampleIdentity) : BasicRequestHeader := ⟨requestId, ""⟩

structure BasicReplyHeader where
  relatedRequestId : SampleIdentity
  remoteExceptionCode : UInt32
deriving DecidableEq

def BasicReplyHeader.new (relatedRequestId : SampleIdentity) : BasicReplyHeader := ⟨relatedRequestId, 0⟩

structure CycloneHeader where
  guidSecondHalf : List UInt8
  size : guidSecondHalf.length = 8
  sequenceNumberHigh : Int32
  sequenceNumberLow : UInt32
deriving DecidableEq

/-- What the wrappers use of `rustdds`. -/
structure Rustdds where
  basicRequestHeader : CdrCodec BasicRequestHeader
  basicReplyHeader : CdrCodec BasicReplyHeader
  cycloneHeader : CdrCodec CycloneHeader
  high : SequenceNumber → Int32
  low : SequenceNumber → UInt32
  fromHighLow : Int32 → UInt32 → SequenceNumber

structure Rustdds.Lawful (dds : Rustdds) : Prop where
  basicRequestHeader : dds.basicRequestHeader.RoundTrips
  basicReplyHeader : dds.basicReplyHeader.RoundTrips
  cycloneHeader : dds.cycloneHeader.RoundTrips
  fromHighLow : ∀ number, dds.fromHighLow (dds.high number) (dds.low number) = number

def CycloneHeader.new (dds : Rustdds) (requestId : RmwRequestId) : CycloneHeader where
  guidSecondHalf := requestId.writerGuid.bytes.drop 8
  size := by rw [List.length_drop, requestId.writerGuid.size]
  sequenceNumberHigh := dds.high requestId.sequenceNumber
  sequenceNumberLow := dds.low requestId.sequenceNumber

/-- `Bytes::split_off`: what stays in the buffer, and what is returned. -/
def splitOff (bytes : List UInt8) (at_ : Nat) : List UInt8 × List UInt8 := (bytes.take at_, bytes.drop at_)

variable {Header Request Response Payload : Type}

def unwrapHeaded (headerCodec : CdrCodec Header) (requestId : Header → RmwRequestId) (codec : CdrCodec Payload)
    (tooShort : String) (encoding : RepresentationIdentifier) (bytes : List UInt8) :
    Except ReadError (RmwRequestId × Payload) := do
  let (header, headerSize) ← headerCodec.deserialize encoding bytes
  if bytes.length < headerSize then throw (.deserialization tooShort)
  let (bytes, _headerBytes) := splitOff bytes headerSize
  let (payload, _payloadBytes) ← codec.deserialize encoding bytes
  return (requestId header, payload)

def cycloneUnwrap (dds : Rustdds) (codec : CdrCodec Payload) (serializedMessage : List UInt8) (writerGuid : GUID)
    (encoding : RepresentationIdentifier) : Except ReadError (RmwRequestId × Payload) :=
  unwrapHeaded dds.cycloneHeader
    (fun header => ⟨writerGuid, dds.fromHighLow header.sequenceNumberHigh header.sequenceNumberLow⟩)
    codec "Service message too short" encoding serializedMessage

structure RequestWrapper (Request : Type) where
  serializedMessage : List UInt8
  encoding : RepresentationIdentifier
deriving DecidableEq

def RequestWrapper.unwrap (dds : Rustdds) (codec : CdrCodec Request) (wrapper : RequestWrapper Request)
    (mapping : ServiceMapping) (info : MessageInfo) : Except ReadError (RmwRequestId × Request) :=
  match mapping with
  | .basic =>
    unwrapHeaded dds.basicRequestHeader (fun header => .ofSampleIdentity header.requestId) codec
      "Service request too short" wrapper.encoding wrapper.serializedMessage
  | .enhanced => do
    let (request, _requestBytes) ← codec.deserialize wrapper.encoding wrapper.serializedMessage
    let requestId := RmwRequestId.ofSampleIdentity (info.relatedSampleIdentity.getD info.sampleIdentity)
    let requestId := if requestId.sequenceNumber = .unknown
      then { requestId with sequenceNumber := info.sampleIdentity.sequenceNumber } else requestId
    return (requestId, request)
  | .cyclone => cycloneUnwrap dds codec wrapper.serializedMessage info.writerGuid wrapper.encoding

def RequestWrapper.header (dds : Rustdds) (mapping : ServiceMapping) (requestId : RmwRequestId)
    (encoding : RepresentationIdentifier) : Except WriteError (List UInt8) :=
  match mapping with
  | .basic => dds.basicRequestHeader.serialize encoding (.new (.ofRequestId requestId))
  | .enhanced => pure []
  | .cyclone => dds.cycloneHeader.serialize encoding (.new dds requestId)

def RequestWrapper.new (dds : Rustdds) (codec : CdrCodec Request) (mapping : ServiceMapping)
    (requestId : RmwRequestId) (encoding : RepresentationIdentifier) (request : Request) :
    Except WriteError (RequestWrapper Request) := do
  let header ← RequestWrapper.header dds mapping requestId encoding
  let body ← codec.serialize encoding request
  return ⟨header ++ body, encoding⟩

def GUID.splice (front back : GUID) : GUID :=
  ⟨front.bytes.take 8 ++ back.bytes.drop 8, by simp [front.size, back.size]⟩

theorem GUID.splice_eq_left {front back : GUID} :
    front.splice back = front ↔ back.bytes.drop 8 = front.bytes.drop 8 := by
  have halves : front.bytes = front.bytes.take 8 ++ front.bytes.drop 8 := (List.take_append_drop 8 _).symm
  rw [GUID.mk.injEq]
  constructor
  · intro same
    exact (List.append_right_inj _).mp (same.trans halves)
  · intro same
    exact (congrArg (front.bytes.take 8 ++ ·) same).trans halves.symm

structure ResponseWrapper (Response : Type) where
  serializedMessage : List UInt8
  encoding : RepresentationIdentifier
deriving DecidableEq

def ResponseWrapper.unwrap (dds : Rustdds) (codec : CdrCodec Response) (wrapper : ResponseWrapper Response)
    (mapping : ServiceMapping) (info : MessageInfo) (clientGuid : GUID) :
    Except ReadError (RmwRequestId × Response) :=
  match mapping with
  | .basic =>
    unwrapHeaded dds.basicReplyHeader (fun header => .ofSampleIdentity header.relatedRequestId) codec
      "Service response too short" wrapper.encoding wrapper.serializedMessage
  | .enhanced => do
    let (response, _responseBytes) ← codec.deserialize wrapper.encoding wrapper.serializedMessage
    match info.relatedSampleIdentity with
    | some related => .ok (.ofSampleIdentity related, response)
    | none => .error (.deserialization ("ServiceMapping=Enhanced, but response message did not have " ++
        "related_sample_identity parameter!"))
  | .cyclone =>
    cycloneUnwrap dds codec wrapper.serializedMessage (clientGuid.splice info.writerGuid) wrapper.encoding

def ResponseWrapper.header (dds : Rustdds) (mapping : ServiceMapping) (requestId : RmwRequestId)
    (encoding : RepresentationIdentifier) : Except WriteError (List UInt8) :=
  match mapping with
  | .basic => dds.basicReplyHeader.serialize encoding (.new (.ofRequestId requestId))
  | .enhanced => pure []
  | .cyclone => dds.cycloneHeader.serialize encoding (.new dds requestId)

def ResponseWrapper.new (dds : Rustdds) (codec : CdrCodec Response) (mapping : ServiceMapping)
    (requestId : RmwRequestId) (encoding : RepresentationIdentifier) (response : Response) :
    Except WriteError (ResponseWrapper Response) := do
  let header ← ResponseWrapper.header dds mapping requestId encoding
  let body ← codec.serialize encoding response
  return ⟨header ++ body, encoding⟩

def encapsulationHeader (encoding : RepresentationIdentifier) : List UInt8 :=
  if encoding = .cdrBe then [0x00, 0x00, 0x00, 0x00] else [0x00, 0x01, 0x00, 0x00]

def encapsulated (encoding : RepresentationIdentifier) (body : List UInt8) : List UInt8 :=
  encapsulationHeader encoding ++ body

structure RawRequestWrapper where
  serializedMessage : List UInt8
  encoding : RepresentationIdentifier
deriving DecidableEq

def RawRequestWrapper.unwrapRaw (wrapper : RawRequestWrapper) (info : MessageInfo) : RmwRequestId × List UInt8 :=
  let requestId := RmwRequestId.ofSampleIdentity
    (match info.relatedSampleIdentity with
    | some related => related
    | none => info.sampleIdentity)
  let requestId := if requestId.sequenceNumber = .unknown
    then ⟨requestId.writerGuid, info.sampleIdentity.sequenceNumber⟩ else requestId
  (requestId, encapsulated wrapper.encoding wrapper.serializedMessage)

/-- The typed path finds the same request id as the raw one, whatever the inline QoS holds. -/
theorem RequestWrapper.unwrap_enhanced (dds : Rustdds) (codec : CdrCodec Request) (wrapper : RequestWrapper Request)
    (info : MessageInfo) :
    wrapper.unwrap dds codec .enhanced info =
      (codec.deserialize wrapper.encoding wrapper.serializedMessage).map fun read =>
        (((RawRequestWrapper.mk wrapper.serializedMessage wrapper.encoding).unwrapRaw info).1, read.1) := by
  unfold RequestWrapper.unwrap RawRequestWrapper.unwrapRaw
  cases codec.deserialize wrapper.encoding wrapper.serializedMessage with
  | error error => rfl
  | ok read =>
    cases info.relatedSampleIdentity <;> simp [bind, Except.bind, pure, Except.pure, Except.map]

theorem RawRequestWrapper.unwrapRaw_unrelated {wrapper : RawRequestWrapper} (info : MessageInfo)
    (unrelated : info.relatedSampleIdentity = none) :
    wrapper.unwrapRaw info =
      (.ofSampleIdentity info.sampleIdentity, encapsulated wrapper.encoding wrapper.serializedMessage) := by
  unfold RawRequestWrapper.unwrapRaw
  simp only [unrelated]
  split <;> rfl

structure RawResponseWrapper where
  serializedMessage : List UInt8
deriving DecidableEq

def RawResponseWrapper.newRaw (response : List UInt8) : RawResponseWrapper :=
  ⟨if 4 ≤ response.length then response.drop 4 else response⟩

end Ros2Client
