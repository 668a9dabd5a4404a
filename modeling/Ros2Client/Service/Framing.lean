import Ros2Client.Service.Cdr
import Ros2Client.Service.Endpoints

open Wire

namespace Ros2Client

variable {Header Request Response Payload : Type}

/-- The octets of the header, read as a payload, spell this very payload. -/
def SpelledByHeader (headerCodec : CdrCodec Header) (codec : CdrCodec Payload) (encoding : RepresentationIdentifier)
    (header : Header) (payload : Payload) : Prop :=
  ∃ bytes size, headerCodec.serialize encoding header = .ok bytes ∧
    codec.deserialize encoding bytes = .ok (payload, size)

/-- The buffer keeps the header when it is split behind it, so that is what the payload is read from. -/
theorem unwrapHeaded_append {headerCodec : CdrCodec Header} {identify : Header → RmwRequestId}
    {codec : CdrCodec Payload} {tooShort : String} {encoding : RepresentationIdentifier} {header : Header}
    {headerBytes body : List UInt8} (law : headerCodec.RoundTrips)
    (written : headerCodec.serialize encoding header = .ok headerBytes) :
    unwrapHeaded headerCodec identify codec tooShort encoding (headerBytes ++ body) =
      (codec.deserialize encoding headerBytes).map fun read => (identify header, read.1) := by
  have read := law _ _ _ body written
  have long : ¬(headerBytes ++ body).length < headerBytes.length := by
    rw [List.length_append]
    omega
  simp only [unwrapHeaded, splitOff, read, bind, Except.bind, if_neg long, List.take_left]
  cases codec.deserialize encoding headerBytes <;> rfl

theorem unwrapHeaded_spelled {headerCodec : CdrCodec Header} {identify : Header → RmwRequestId}
    {codec : CdrCodec Payload} {tooShort : String} {encoding : RepresentationIdentifier} {header : Header}
    {headerBytes body : List UInt8} {requestId : RmwRequestId} {payload : Payload} (law : headerCodec.RoundTrips)
    (written : headerCodec.serialize encoding header = .ok headerBytes) :
    unwrapHeaded headerCodec identify codec tooShort encoding (headerBytes ++ body) = .ok (requestId, payload) ↔
      identify header = requestId ∧ SpelledByHeader headerCodec codec encoding header payload := by
  rw [unwrapHeaded_append law written]
  constructor
  · intro mapped
    cases read : codec.deserialize encoding headerBytes with
    | error error => simp [read, Except.map] at mapped
    | ok found =>
      rw [read] at mapped
      cases mapped
      exact ⟨rfl, headerBytes, _, written, read⟩
  · intro spelled
    obtain ⟨rfl, bytes, size, rewritten, read⟩ := spelled
    rw [written] at rewritten
    cases rewritten
    rw [read]
    rfl

theorem RequestWrapper.new_ok {dds : Rustdds} {codec : CdrCodec Request} {mapping : ServiceMapping}
    {requestId : RmwRequestId} {encoding : RepresentationIdentifier} {request : Request}
    {wrapper : RequestWrapper Request}
    (built : RequestWrapper.new dds codec mapping requestId encoding request = .ok wrapper) :
    ∃ header body, RequestWrapper.header dds mapping requestId encoding = .ok header ∧
      codec.serialize encoding request = .ok body ∧ wrapper = ⟨header ++ body, encoding⟩ := by
  obtain ⟨header, wrote, rest⟩ := bind_eq_ok.mp built
  obtain ⟨body, serialized, joined⟩ := bind_eq_ok.mp rest
  cases joined
  exact ⟨header, body, wrote, serialized, rfl⟩

theorem ResponseWrapper.new_ok {dds : Rustdds} {codec : CdrCodec Response} {mapping : ServiceMapping}
    {requestId : RmwRequestId} {encoding : RepresentationIdentifier} {response : Response}
    {wrapper : ResponseWrapper Response}
    (built : ResponseWrapper.new dds codec mapping requestId encoding response = .ok wrapper) :
    ∃ header body, ResponseWrapper.header dds mapping requestId encoding = .ok header ∧
      codec.serialize encoding response = .ok body ∧ wrapper = ⟨header ++ body, encoding⟩ := by
  obtain ⟨header, wrote, rest⟩ := bind_eq_ok.mp built
  obtain ⟨body, serialized, joined⟩ := bind_eq_ok.mp rest
  cases joined
  exact ⟨header, body, wrote, serialized, rfl⟩

def RequestSurvives (dds : Rustdds) (codec : CdrCodec Request) (client : Client)
    (encoding : RepresentationIdentifier) (request : Request) : Prop :=
  match client.serviceMapping with
  | .basic => SpelledByHeader dds.basicRequestHeader codec encoding (.new (.ofRequestId client.genRequestId)) request
  | .enhanced => True
  | .cyclone => SpelledByHeader dds.cycloneHeader codec encoding (.new dds client.genRequestId) request

def ResponseSurvives (dds : Rustdds) (codec : CdrCodec Response) (client : Client) (responder : GUID)
    (requestId : RmwRequestId) (encoding : RepresentationIdentifier) (response : Response) : Prop :=
  match client.serviceMapping with
  | .basic => SpelledByHeader dds.basicReplyHeader codec encoding (.new (.ofRequestId requestId)) response
  | .enhanced => True
  | .cyclone => responder.bytes.drop 8 = client.clientGuid.bytes.drop 8 ∧
      SpelledByHeader dds.cycloneHeader codec encoding (.new dds requestId) response

theorem request_survives_iff {dds : Rustdds} (lawful : dds.Lawful) {codec : CdrCodec Request}
    (law : codec.RoundTrips) {client : Client} {written : SequenceNumber} {encoding : RepresentationIdentifier}
    {request : Request} {wrapper : RequestWrapper Request}
    (built : RequestWrapper.new dds codec client.serviceMapping client.genRequestId encoding request = .ok wrapper) :
    wrapper.unwrap dds codec client.serviceMapping ⟨written, client.clientGuid, client.relatedSampleIdentity⟩ =
        .ok (client.sentRequestId ⟨client.clientGuid, written⟩, request) ↔
      RequestSurvives dds codec client encoding request := by
  obtain ⟨header, body, wrote, serialized, rfl⟩ := RequestWrapper.new_ok built
  unfold RequestSurvives Client.sentRequestId Client.relatedSampleIdentity
  cases mapped : client.serviceMapping with
  | basic =>
    rw [mapped] at wrote
    simp only [RequestWrapper.unwrap]
    rw [unwrapHeaded_spelled lawful.basicRequestHeader wrote]
    exact and_iff_right rfl
  | enhanced =>
    rw [mapped] at wrote
    cases wrote
    rw [RequestWrapper.unwrap_enhanced, RawRequestWrapper.unwrapRaw_unrelated _ rfl]
    simp [law.whole serialized, Except.map, MessageInfo.sampleIdentity, MessageInfo.writerGuid]
  | cyclone =>
    rw [mapped] at wrote
    simp only [RequestWrapper.unwrap, cycloneUnwrap]
    rw [unwrapHeaded_spelled lawful.cycloneHeader wrote]
    apply and_iff_right
    simp [CycloneHeader.new, lawful.fromHighLow, MessageInfo.writerGuid, Client.genRequestId]

theorem response_survives_iff {dds : Rustdds} (lawful : dds.Lawful) {codec : CdrCodec Response}
    (law : codec.RoundTrips) {client : Client} {responder : SampleIdentity} {requestId : RmwRequestId}
    (own : requestId.writerGuid = client.clientGuid) {encoding : RepresentationIdentifier} {response : Response}
    {wrapper : ResponseWrapper Response}
    (built : ResponseWrapper.new dds codec client.serviceMapping requestId encoding response = .ok wrapper) :
    wrapper.unwrap dds codec client.serviceMapping
        ⟨responder.sequenceNumber, responder.writerGuid, some (.ofRequestId requestId)⟩ client.clientGuid =
        .ok (requestId, response) ↔
      ResponseSurvives dds codec client responder.writerGuid requestId encoding response := by
  obtain ⟨header, body, wrote, serialized, rfl⟩ := ResponseWrapper.new_ok built
  unfold ResponseSurvives
  cases mapped : client.serviceMapping with
  | basic =>
    rw [mapped] at wrote
    simp only [ResponseWrapper.unwrap]
    rw [unwrapHeaded_spelled lawful.basicReplyHeader wrote]
    exact and_iff_right rfl
  | enhanced =>
    rw [mapped] at wrote
    cases wrote
    simp [ResponseWrapper.unwrap, law.whole serialized, bind, Except.bind]
  | cyclone =>
    rw [mapped] at wrote
    simp only [ResponseWrapper.unwrap, cycloneUnwrap]
    rw [unwrapHeaded_spelled lawful.cycloneHeader wrote, ← GUID.splice_eq_left, ← own]
    apply and_congr_left'
    obtain ⟨guid, number⟩ := requestId
    simp [CycloneHeader.new, lawful.fromHighLow, MessageInfo.writerGuid]

/-- A request and the response to it come back from the framing under the Enhanced mapping. Under the others
    they do exactly when the headers spell them and, for Cyclone, the GUIDs of both writers end alike. -/
theorem framing_round_trips {dds : Rustdds} (lawful : dds.Lawful) {requestCodec : CdrCodec Request}
    (requestLaw : requestCodec.RoundTrips) {responseCodec : CdrCodec Response}
    (responseLaw : responseCodec.RoundTrips) (client : Client) (written : SequenceNumber)
    (responder : SampleIdentity) (encoding : RepresentationIdentifier) (request : Request) (response : Response)
    {requestWrapper : RequestWrapper Request} {responseWrapper : ResponseWrapper Response}
    (requestBuilt : RequestWrapper.new dds requestCodec client.serviceMapping client.genRequestId encoding request =
      .ok requestWrapper)
    (responseBuilt : ResponseWrapper.new dds responseCodec client.serviceMapping
      (client.sentRequestId ⟨client.clientGuid, written⟩) encoding response = .ok responseWrapper) :
    (requestWrapper.unwrap dds requestCodec client.serviceMapping
          ⟨written, client.clientGuid, client.relatedSampleIdentity⟩ =
        .ok (client.sentRequestId ⟨client.clientGuid, written⟩, request) ∧
      responseWrapper.unwrap dds responseCodec client.serviceMapping
          ⟨responder.sequenceNumber, responder.writerGuid,
            some (.ofRequestId (client.sentRequestId ⟨client.clientGuid, written⟩))⟩ client.clientGuid =
        .ok (client.sentRequestId ⟨client.clientGuid, written⟩, response)) ↔
      RequestSurvives dds requestCodec client encoding request ∧
        ResponseSurvives dds responseCodec client responder.writerGuid
          (client.sentRequestId ⟨client.clientGuid, written⟩) encoding response := by
  have own : (client.sentRequestId ⟨client.clientGuid, written⟩).writerGuid = client.clientGuid := by
    unfold Client.sentRequestId
    cases client.serviceMapping <;> rfl
  rw [request_survives_iff lawful requestLaw requestBuilt, response_survives_iff lawful responseLaw own responseBuilt]

def countingGuid : GUID := ⟨[1, 2, 3, 4, 5, 6, 7, 8, 9, 10, 11, 12, 13, 14, 15, 16], rfl⟩

def zeroGuid : GUID := ⟨List.replicate 16 0, rfl⟩

def enhancedClient : Client := ⟨.enhanced, 1, countingGuid⟩

theorem framing_round_trips_enhanced :
    RequestWrapper.unwrap plainCdr cdrWord ⟨[7, 0, 0, 0], .cdrLe⟩ .enhanced ⟨⟨5⟩, countingGuid, none⟩ =
        .ok (⟨countingGuid, ⟨5⟩⟩, 7) ∧
      ResponseWrapper.unwrap plainCdr cdrWord ⟨[8, 0, 0, 0], .cdrLe⟩ .enhanced
          ⟨⟨1⟩, ⟨List.replicate 16 0, rfl⟩, some ⟨countingGuid, ⟨5⟩⟩⟩ countingGuid =
        .ok (⟨countingGuid, ⟨5⟩⟩, 8) :=
  (framing_round_trips plainCdr_lawful cdrWord_roundTrips cdrWord_roundTrips enhancedClient ⟨5⟩
    ⟨⟨List.replicate 16 0, rfl⟩, ⟨1⟩⟩ .cdrLe 7 8 rfl rfl).mpr ⟨trivial, trivial⟩

def basicClient : Client := ⟨.basic, 1, countingGuid⟩

/-- Under the Basic mapping a server takes the first octets of the client's GUID for the request. -/
theorem header_octets_taken_for_request :
    plainCdr.Lawful ∧ cdrWord.RoundTrips ∧
      ∃ wrapper misread, RequestWrapper.new plainCdr cdrWord .basic basicClient.genRequestId .cdrLe 7 = .ok wrapper ∧
        wrapper.unwrap plainCdr cdrWord .basic ⟨⟨1⟩, countingGuid, basicClient.relatedSampleIdentity⟩ =
          .ok (basicClient.sentRequestId ⟨countingGuid, ⟨1⟩⟩, misread) ∧ misread ≠ 7 :=
  ⟨plainCdr_lawful, cdrWord_roundTrips, _, 0x04030201, rfl, rfl, by decide⟩

end Ros2Client
