import Ros2Client.Service.Endpoints

open Wire

namespace Ros2Client

/-- The copy of `encapsulation_header` for topics. -/
def Pubsub.encapsulationHeader (encoding : RepresentationIdentifier) : List UInt8 :=
  if encoding = .cdrBe then [0x00, 0x00, 0x00, 0x00] else [0x00, 0x01, 0x00, 0x00]

structure RawMessageWrapper where
  serializedMessage : List UInt8
  encoding : RepresentationIdentifier
deriving DecidableEq

def RawMessageWrapper.newRaw (message : List UInt8) : RawMessageWrapper :=
  ⟨if 4 ≤ message.length then message.drop 4 else message, .cdrLe⟩

def RawMessageWrapper.unwrapRaw (wrapper : RawMessageWrapper) : List UInt8 :=
  Pubsub.encapsulationHeader wrapper.encoding ++ wrapper.serializedMessage

def RawPublisher.publish (cdrMessage : List UInt8) (write : Except WriteError SampleIdentity) :
    Except WriteError Sample := do
  let wrapper := RawMessageWrapper.newRaw cdrMessage
  let written ← write
  return ⟨wrapper.serializedMessage, outputEncoding, written, none⟩

def RawSubscription.take (taken : Except ReadError (Option Sample)) :
    Except ReadError (Option (List UInt8 × MessageInfo)) := do
  let sample ← taken
  return sample.map fun sample => ((RawMessageWrapper.mk sample.payload sample.encoding).unwrapRaw, sample.info)

def standalone (options : UInt8 × UInt8) (body : List UInt8) : List UInt8 :=
  [0x00, 0x01, options.1, options.2] ++ body

/-- A standalone message decoded under the representation in its header, whatever the options. -/
def decodeStandalone {α : Type} (codec : CdrCodec α) : List UInt8 → Except ReadError α
  | first :: second :: _ :: _ :: body => (codec.deserialize ⟨first, second⟩ body).map Prod.fst
  | _ => .error (.deserialization "message shorter than its header")

structure CarriesVerbatim (options : UInt8 × UInt8) (body : List UInt8) : Prop where
  topic : ∀ written, ∃ sample, RawPublisher.publish (standalone options body) (.ok written) = .ok sample ∧
    RawSubscription.take (.ok (some sample)) = .ok (some (standalone options body, sample.info))
  request : ∀ {Request : Type} (codec : CdrCodec Request), codec.RoundTrips → ∀ (sample : Sample) (request : Request),
    sample.encoding = .cdrLe ∨ sample.encoding = .cdrBe →
    codec.serialize sample.encoding request = .ok sample.payload →
    decodeStandalone codec (RawServer.receiveRequest sample).2 = .ok request
  response : ∀ {Response : Type} (dds : Rustdds) (codec : CdrCodec Response) (requestId : RmwRequestId)
    (response : Response) (write : Except WriteError SampleIdentity), codec.serialize .cdrLe response = .ok body →
    RawServer.sendResponse requestId (standalone options body) write =
      Server.sendResponse dds codec ⟨.enhanced⟩ requestId response write

/-- The message comes back with the options of the header that is put in front of it. -/
theorem take_published (options : UInt8 × UInt8) (body : List UInt8) (written : SampleIdentity) :
    ∃ sample, RawPublisher.publish (standalone options body) (.ok written) = .ok sample ∧
      RawSubscription.take (.ok (some sample)) = .ok (some (standalone (0, 0) body, sample.info)) := by
  refine ⟨⟨body, .cdrLe, written, none⟩, ?_, rfl⟩
  simp [RawPublisher.publish, RawMessageWrapper.newRaw, standalone, outputEncoding, bind, Except.bind, pure,
    Except.pure]

theorem topic_iff (options : UInt8 × UInt8) (body : List UInt8) (written : SampleIdentity) :
    (∃ sample, RawPublisher.publish (standalone options body) (.ok written) = .ok sample ∧
      RawSubscription.take (.ok (some sample)) = .ok (some (standalone options body, sample.info))) ↔
      options = (0, 0) := by
  obtain ⟨sample, published, taken⟩ := take_published options body written
  constructor
  · intro ⟨sample', published', taken'⟩
    rw [published] at published'
    cases published'
    rw [taken] at taken'
    injection taken' with messages
    injection messages with messages
    have octets := (Prod.mk.inj messages).1
    simp only [standalone, List.cons_append, List.nil_append, List.cons.injEq, true_and] at octets
    exact Prod.ext octets.1.symm octets.2.1.symm
  · rintro rfl
    exact ⟨sample, published, taken⟩

/-- A message that a raw endpoint hands over is decoded just as its sample would be. -/
theorem decodeStandalone_received {α : Type} (codec : CdrCodec α) {encoding : RepresentationIdentifier}
    (body : List UInt8) (known : encoding = .cdrLe ∨ encoding = .cdrBe) :
    decodeStandalone codec (encapsulated encoding body) = (codec.deserialize encoding body).map Prod.fst := by
  rcases known with rfl | rfl
  · rw [show encapsulated .cdrLe body = 0x00 :: 0x01 :: 0x00 :: 0x00 :: body from rfl, decodeStandalone]
    rfl
  · rw [show encapsulated .cdrBe body = 0x00 :: 0x00 :: 0x00 :: 0x00 :: body from rfl, decodeStandalone]
    rfl

theorem decodeStandalone_encapsulated {α : Type} {codec : CdrCodec α} (law : codec.RoundTrips)
    {encoding : RepresentationIdentifier} {value : α} {body : List UInt8}
    (known : encoding = .cdrLe ∨ encoding = .cdrBe) (serialized : codec.serialize encoding value = .ok body) :
    decodeStandalone codec (encapsulated encoding body) = .ok value := by
  rw [decodeStandalone_received codec body known, law.whole serialized]
  rfl

theorem sendResponse_standalone {Response : Type} (dds : Rustdds) {codec : CdrCodec Response}
    (requestId : RmwRequestId) {response : Response} (write : Except WriteError SampleIdentity)
    (options : UInt8 × UInt8) {body : List UInt8} (serialized : codec.serialize .cdrLe response = .ok body) :
    RawServer.sendResponse requestId (standalone options body) write =
      Server.sendResponse dds codec ⟨.enhanced⟩ requestId response write := by
  have stripped : (RawResponseWrapper.newRaw (standalone options body)).serializedMessage = body := by
    simp [RawResponseWrapper.newRaw, standalone]
  have wrapped : ResponseWrapper.new dds codec .enhanced requestId .cdrLe response = .ok ⟨body, .cdrLe⟩ := by
    simp [ResponseWrapper.new, ResponseWrapper.header, serialized, bind, Except.bind, pure, Except.pure]
  simp only [RawServer.sendResponse, Server.sendResponse, stripped, wrapped]
  rfl

theorem raw_endpoints_verbatim_iff (options : UInt8 × UInt8) (body : List UInt8) :
    CarriesVerbatim options body ↔ options = (0, 0) := by
  constructor
  · intro carries
    have identity : SampleIdentity := ⟨⟨List.replicate 16 0, rfl⟩, ⟨0⟩⟩
    exact (topic_iff options body identity).mp (carries.topic identity)
  · intro cleared
    constructor
    · intro written
      exact (topic_iff options body written).mpr cleared
    · intro Request codec law sample request known serialized
      exact decodeStandalone_encapsulated law known serialized
    · intro Response dds codec requestId response write serialized
      exact sendResponse_standalone dds requestId write options serialized

/-- The options of XCDR that count two octets of padding at the end. -/
theorem raw_endpoints_drop_options : ¬CarriesVerbatim (0, 2) [0x07, 0x00] := by
  intro carries
  obtain ⟨sample, published, taken⟩ := carries.topic ⟨⟨List.replicate 16 0, rfl⟩, ⟨0⟩⟩
  cases published
  revert taken
  decide

end Ros2Client
