import Ros2Client.Service.Framing
import Ros2Client.Service.Traffic

open Wire

namespace Ros2Client

variable {Request Response : Type}

/-- The server has got exactly this request. A raw server gets it as a standalone CDR message. -/
def ServerMessage.IsRequest (codec : CdrCodec Request) (message : ServerMessage Request) (request : Request) : Prop :=
  match message with
  | .typed received => received = request
  | .raw bytes => ∃ body, codec.serialize .cdrLe request = .ok body ∧ bytes = encapsulated .cdrLe body

def ServerMessage.IsResponse (codec : CdrCodec Response) (message : ServerMessage Response) (response : Response) :
    Prop :=
  match message with
  | .typed sent => sent = response
  | .raw bytes => ∃ size, codec.deserialize .cdrLe (RawResponseWrapper.newRaw bytes).serializedMessage =
      .ok (response, size)

def ServerMessage.Wrote (codec : CdrCodec Response) (message : ServerMessage Response) (payload : List UInt8) : Prop :=
  match message with
  | .typed response => codec.serialize .cdrLe response = .ok payload
  | .raw bytes => payload = (RawResponseWrapper.newRaw bytes).serializedMessage

theorem Client.sendRequest_ok {dds : Rustdds} {codec : CdrCodec Request} {client after : Client} {request : Request}
    {write : Except WriteError SampleIdentity} {requestId : RmwRequestId} {sample : Sample}
    (enhanced : client.serviceMapping = .enhanced)
    (called : client.sendRequest dds codec request write = (after, .ok (requestId, sample))) :
    requestId = .ofSampleIdentity sample.identity ∧ sample.encoding = .cdrLe ∧ sample.relatedSampleIdentity = none ∧
      codec.serialize .cdrLe request = .ok sample.payload := by
  obtain ⟨-, sent⟩ := Prod.mk.inj called
  obtain ⟨wrapper, built, rest⟩ := bind_eq_ok.mp sent
  obtain ⟨written, _, result⟩ := bind_eq_ok.mp rest
  obtain ⟨header, body, wrote, serialized, rfl⟩ := RequestWrapper.new_ok built
  have mapped : client.incrementSequenceNumber.serviceMapping = .enhanced := enhanced
  rw [mapped] at wrote
  cases wrote
  cases result
  simp [Client.sentRequestId, Client.relatedSampleIdentity, mapped, outputEncoding, serialized]

theorem Client.sendRequest_mapping {dds : Rustdds} {codec : CdrCodec Request} {client after : Client}
    {request : Request} {write : Except WriteError SampleIdentity} {outcome : Except WriteError (RmwRequestId × Sample)}
    (called : client.sendRequest dds codec request write = (after, outcome)) :
    after.serviceMapping = client.serviceMapping := by
  cases called
  rfl

theorem Client.unwrapResponse_ok {dds : Rustdds} {codec : CdrCodec Response} {client : Client} {sample : Sample}
    {requestId : RmwRequestId} {response : Response} (enhanced : client.serviceMapping = .enhanced)
    (unwrapped : client.unwrapResponse dds codec sample = .ok (requestId, response)) :
    sample.relatedSampleIdentity = some (.ofRequestId requestId) ∧
      ∃ size, codec.deserialize sample.encoding sample.payload = .ok (response, size) := by
  rw [Client.unwrapResponse, enhanced] at unwrapped
  obtain ⟨⟨read, size⟩, decoded, identified⟩ := bind_eq_ok.mp unwrapped
  cases related : sample.relatedSampleIdentity with
  | none => simp [Sample.info, related] at identified
  | some identity =>
    simp only [Sample.info, related] at identified
    cases identified
    exact ⟨rfl, size, decoded⟩

theorem ServerKind.receiveRequest_ok {dds : Rustdds} {codec : CdrCodec Request} (law : codec.RoundTrips)
    {kind : ServerKind} {sample : Sample} {request : Request} {requestId : RmwRequestId}
    {message : ServerMessage Request} (unrelated : sample.relatedSampleIdentity = none)
    (encoded : sample.encoding = .cdrLe) (serialized : codec.serialize .cdrLe request = .ok sample.payload)
    (received : kind.receiveRequest dds codec sample = .ok (requestId, message)) :
    requestId = .ofSampleIdentity sample.identity ∧ message.IsRequest codec request := by
  cases kind with
  | typed =>
    simp only [ServerKind.receiveRequest, Server.receiveRequest, RequestWrapper.unwrap_enhanced,
      RawRequestWrapper.unwrapRaw_unrelated sample.info unrelated, encoded, law.whole serialized] at received
    cases received
    exact ⟨rfl, rfl⟩
  | raw =>
    simp only [ServerKind.receiveRequest, RawServer.receiveRequest,
      RawRequestWrapper.unwrapRaw_unrelated sample.info unrelated, encoded] at received
    cases received
    exact ⟨rfl, _, serialized, rfl⟩

theorem ServerKind.sendResponse_ok {dds : Rustdds} {codec : CdrCodec Response} {kind : ServerKind}
    {requestId : RmwRequestId} {message : ServerMessage Response} {write : Except WriteError SampleIdentity}
    {sample : Sample} (called : kind.sendResponse dds codec requestId message write = some (.ok sample)) :
    sample.encoding = .cdrLe ∧ sample.relatedSampleIdentity = some (.ofRequestId requestId) ∧
      message.Wrote codec sample.payload := by
  cases kind <;> cases message
  · obtain ⟨wrapper, built, rest⟩ := bind_eq_ok.mp (Option.some.inj called)
    obtain ⟨written, _, result⟩ := bind_eq_ok.mp rest
    obtain ⟨header, body, wrote, serialized, rfl⟩ := ResponseWrapper.new_ok built
    cases wrote
    cases result
    exact ⟨rfl, rfl, serialized⟩
  · cases called
  · cases called
  · obtain ⟨written, _, result⟩ := bind_eq_ok.mp (Option.some.inj called)
    cases result
    exact ⟨rfl, rfl, rfl⟩

theorem ServerMessage.Wrote.isResponse {codec : CdrCodec Response} (law : codec.RoundTrips)
    {message : ServerMessage Response} {payload : List UInt8} {response : Response} {size : Nat}
    (wrote : message.Wrote codec payload) (read : codec.deserialize .cdrLe payload = .ok (response, size)) :
    message.IsResponse codec response := by
  cases message with
  | typed sent =>
    have same := (law.whole wrote).symm.trans read
    cases same
    rfl
  | raw bytes =>
    cases wrote
    exact ⟨size, read⟩

/-- For a standalone message of a response in CDR_LE this response is the only one that was sent. -/
theorem ServerMessage.isResponse_encapsulated {codec : CdrCodec Response} (law : codec.RoundTrips)
    {body : List UInt8} {sent response : Response} (serialized : codec.serialize .cdrLe sent = .ok body) :
    (ServerMessage.raw (encapsulated .cdrLe body)).IsResponse codec response ↔ response = sent := by
  have stripped : (RawResponseWrapper.newRaw (encapsulated .cdrLe body)).serializedMessage = body := by
    simp [RawResponseWrapper.newRaw, encapsulated, encapsulationHeader, RepresentationIdentifier.cdrLe,
      RepresentationIdentifier.cdrBe]
  simp only [ServerMessage.IsResponse, stripped, law.whole serialized]
  constructor
  · intro carried
    obtain ⟨size, same⟩ := carried
    cases same
    rfl
  · intro same
    subst same
    exact ⟨_, rfl⟩

end Ros2Client
