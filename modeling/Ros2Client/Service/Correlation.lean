import Ros2Client.Service.Cdr
import Ros2Client.Service.Delivery
import Ros2Client.Transition.Threads

open Transition

namespace Ros2Client

variable {Request Response : Type}

structure Correlated (requestCodec : CdrCodec Request) (responseCodec : CdrCodec Response)
    (state : ServiceState Request Response) : Prop where
  enhanced : ∀ client ∈ state.clients, client.serviceMapping = .enhanced
  requests : ∀ sample ∈ state.requests, sample.encoding = .cdrLe ∧ sample.relatedSampleIdentity = none ∧
    ∃ request, (RmwRequestId.ofSampleIdentity sample.identity, request) ∈ state.sent ∧
      requestCodec.serialize .cdrLe request = .ok sample.payload
  sent : ∀ entry ∈ state.sent, ∃ sample ∈ state.requests, entry.1 = .ofSampleIdentity sample.identity
  unique : ∀ entry ∈ state.sent, ∀ other ∈ state.sent, entry.1 = other.1 → entry.2 = other.2
  received : ∀ record ∈ state.received, ∃ request, (record.requestId, request) ∈ state.sent ∧
    record.message.IsRequest requestCodec request
  responses : ∀ sample ∈ state.responses, sample.encoding = .cdrLe ∧ ∃ record ∈ state.answered,
    sample.relatedSampleIdentity = some (.ofRequestId record.requestId) ∧
      record.message.Wrote responseCodec sample.payload
  answered : ∀ record ∈ state.answered, ∃ receipt ∈ state.received,
    receipt.server = record.server ∧ receipt.requestId = record.requestId
  returned : ∀ entry ∈ state.returned, ∃ record ∈ state.answered,
    record.requestId = entry.1 ∧ record.message.IsResponse responseCodec entry.2

variable {requestCodec : CdrCodec Request} {responseCodec : CdrCodec Response}
  {state after : ServiceState Request Response}

theorem Correlated.initial : Correlated requestCodec responseCodec (.initial : ServiceState Request Response) := by
  constructor <;> simp [ServiceState.initial]

theorem Correlated.setClient (held : Correlated requestCodec responseCodec state) {index : Nat} {client : Client}
    (enhanced : client.serviceMapping = .enhanced) :
    Correlated requestCodec responseCodec { state with clients := state.clients.set index client } where
  enhanced := forall_set held.enhanced enhanced
  requests := held.requests
  sent := held.sent
  unique := held.unique
  received := held.received
  responses := held.responses
  answered := held.answered
  returned := held.returned

theorem Correlated.publishRequest (held : Correlated requestCodec responseCodec state) {sample : Sample}
    {request : Request} (fresh : state.fresh sample.identity = true) (encoded : sample.encoding = .cdrLe)
    (unrelated : sample.relatedSampleIdentity = none)
    (serialized : requestCodec.serialize .cdrLe request = .ok sample.payload) :
    Correlated requestCodec responseCodec { state with
      requests := state.requests ++ [sample]
      sent := state.sent ++ [(.ofSampleIdentity sample.identity, request)] } where
  enhanced := held.enhanced
  requests other member := by
    rcases List.mem_append.mp member with old | new
    · obtain ⟨encoding, related, found, listed, written⟩ := held.requests other old
      exact ⟨encoding, related, found, List.mem_append_left _ listed, written⟩
    · cases List.mem_singleton.mp new
      exact ⟨encoded, unrelated, request, List.mem_append_right _ (List.mem_singleton_self _), serialized⟩
  sent entry member := by
    rcases List.mem_append.mp member with old | new
    · obtain ⟨other, listed, same⟩ := held.sent entry old
      exact ⟨other, List.mem_append_left _ listed, same⟩
    · cases List.mem_singleton.mp new
      exact ⟨sample, List.mem_append_right _ (List.mem_singleton_self _), rfl⟩
  unique entry member other listed same := by
    have unused : ∀ old ∈ state.sent, old.1 ≠ .ofSampleIdentity sample.identity := by
      intro old oldMember clash
      obtain ⟨earlier, written, identified⟩ := held.sent old oldMember
      have different := List.all_eq_true.mp fresh earlier (List.mem_append_left _ written)
      rw [identified] at clash
      exact of_decide_eq_true different (congrArg SampleIdentity.ofRequestId clash)
    rcases List.mem_append.mp member with old | new <;> rcases List.mem_append.mp listed with oldOther | newOther
    · exact held.unique entry old other oldOther same
    · cases List.mem_singleton.mp newOther
      exact absurd same (unused entry old)
    · cases List.mem_singleton.mp new
      exact absurd same.symm (unused other oldOther)
    · rw [List.mem_singleton.mp new, List.mem_singleton.mp newOther]
  received record member := by
    obtain ⟨found, listed, whole⟩ := held.received record member
    exact ⟨found, List.mem_append_left _ listed, whole⟩
  responses := held.responses
  answered := held.answered
  returned := held.returned

theorem Correlated.recordReceipt (held : Correlated requestCodec responseCodec state) {record : ServerRecord Request}
    {request : Request} (listed : (record.requestId, request) ∈ state.sent)
    (whole : record.message.IsRequest requestCodec request) :
    Correlated requestCodec responseCodec { state with received := state.received ++ [record] } where
  enhanced := held.enhanced
  requests := held.requests
  sent := held.sent
  unique := held.unique
  received other member := by
    rcases List.mem_append.mp member with old | new
    · exact held.received other old
    · cases List.mem_singleton.mp new
      exact ⟨request, listed, whole⟩
  responses := held.responses
  answered other member := by
    obtain ⟨receipt, kept, same⟩ := held.answered other member
    exact ⟨receipt, List.mem_append_left _ kept, same⟩
  returned := held.returned

theorem Correlated.publishResponse (held : Correlated requestCodec responseCodec state) {sample : Sample}
    {record : ServerRecord Response} (encoded : sample.encoding = .cdrLe)
    (related : sample.relatedSampleIdentity = some (.ofRequestId record.requestId))
    (wrote : record.message.Wrote responseCodec sample.payload)
    (received : state.hasReceived record.server record.requestId = true) :
    Correlated requestCodec responseCodec { state with
      responses := state.responses ++ [sample]
      answered := state.answered ++ [record] } where
  enhanced := held.enhanced
  requests := held.requests
  sent := held.sent
  unique := held.unique
  received := held.received
  responses other member := by
    rcases List.mem_append.mp member with old | new
    · obtain ⟨encoding, answer, kept, rest⟩ := held.responses other old
      exact ⟨encoding, answer, List.mem_append_left _ kept, rest⟩
    · cases List.mem_singleton.mp new
      exact ⟨encoded, record, List.mem_append_right _ (List.mem_singleton_self _), related, wrote⟩
  answered other member := by
    rcases List.mem_append.mp member with old | new
    · exact held.answered other old
    · cases List.mem_singleton.mp new
      obtain ⟨receipt, kept, same⟩ := List.any_eq_true.mp received
      exact ⟨receipt, kept, of_decide_eq_true same⟩
  returned entry member := by
    obtain ⟨answer, kept, rest⟩ := held.returned entry member
    exact ⟨answer, List.mem_append_left _ kept, rest⟩

theorem Correlated.recordReturn (held : Correlated requestCodec responseCodec state) {requestId : RmwRequestId}
    {response : Response} {record : ServerRecord Response} (answered : record ∈ state.answered)
    (same : record.requestId = requestId) (carried : record.message.IsResponse responseCodec response) :
    Correlated requestCodec responseCodec { state with returned := state.returned ++ [(requestId, response)] } where
  enhanced := held.enhanced
  requests := held.requests
  sent := held.sent
  unique := held.unique
  received := held.received
  responses := held.responses
  answered := held.answered
  returned entry member := by
    rcases List.mem_append.mp member with old | new
    · exact held.returned entry old
    · cases List.mem_singleton.mp new
      exact ⟨record, answered, same, carried⟩

theorem Correlated.sendRequest {dds : Rustdds} (held : Correlated requestCodec responseCodec state) {index : Nat}
    {client : Client} {request : Request} {write : Except WriteError SequenceNumber}
    (enhanced : client.serviceMapping = .enhanced)
    (stepped : state.sendRequest dds requestCodec index client request write = some after) :
    Correlated requestCodec responseCodec after := by
  unfold ServiceState.sendRequest at stepped
  split at stepped
  · rename_i next _ called
    cases stepped
    exact held.setClient ((Client.sendRequest_mapping called).trans enhanced)
  · rename_i next requestId sample called
    obtain ⟨rfl, encoded, unrelated, serialized⟩ := Client.sendRequest_ok enhanced called
    split at stepped
    · rename_i fresh
      cases stepped
      exact (held.publishRequest fresh encoded unrelated serialized).setClient
        ((Client.sendRequest_mapping called).trans enhanced)
    · cases stepped

theorem Correlated.receiveRequest {dds : Rustdds} (law : requestCodec.RoundTrips)
    (held : Correlated requestCodec responseCodec state) {server : Nat} {kind : ServerKind} {sample : Sample}
    (member : sample ∈ state.requests) :
    Correlated requestCodec responseCodec (state.receiveRequest dds requestCodec server kind sample) := by
  unfold ServiceState.receiveRequest
  split
  · exact held
  · rename_i requestId message received
    obtain ⟨encoded, unrelated, request, listed, serialized⟩ := held.requests sample member
    obtain ⟨rfl, whole⟩ := ServerKind.receiveRequest_ok law unrelated encoded serialized received
    exact held.recordReceipt listed whole

theorem Correlated.sendResponse {dds : Rustdds} (held : Correlated requestCodec responseCodec state) {server : Nat}
    {kind : ServerKind} {requestId : RmwRequestId} {response : ServerMessage Response}
    {write : Except WriteError SampleIdentity}
    (stepped : state.sendResponse dds responseCodec server kind requestId response write = some after) :
    Correlated requestCodec responseCodec after := by
  unfold ServiceState.sendResponse at stepped
  split at stepped
  · cases stepped
  · cases stepped
    exact held
  · rename_i sample called
    obtain ⟨encoded, related, wrote⟩ := ServerKind.sendResponse_ok called
    split at stepped
    · rename_i allowed
      cases stepped
      exact held.publishResponse encoded related wrote allowed.2
    · cases stepped

theorem Correlated.receiveResponse {dds : Rustdds} (law : responseCodec.RoundTrips)
    (held : Correlated requestCodec responseCodec state) {client : Client} {requestId : RmwRequestId}
    {sample : Sample} (enhanced : client.serviceMapping = .enhanced) (member : sample ∈ state.responses) :
    Correlated requestCodec responseCodec (state.receiveResponse dds responseCodec client requestId sample) := by
  unfold ServiceState.receiveResponse
  split
  · exact held
  · rename_i received response unwrapped
    split
    · rename_i same
      obtain ⟨encoded, record, answered, related, wrote⟩ := held.responses sample member
      obtain ⟨carried, size, read⟩ := Client.unwrapResponse_ok enhanced unwrapped
      have identified : record.requestId = received :=
        congrArg RmwRequestId.ofSampleIdentity (Option.some.inj (related.symm.trans carried))
      rw [encoded] at read
      exact held.recordReturn answered (identified.trans same) (wrote.isResponse law read)
    · exact held

theorem Correlated.step {dds : Rustdds} (requestLaw : requestCodec.RoundTrips)
    (responseLaw : responseCodec.RoundTrips) (held : Correlated requestCodec responseCodec state)
    {label : ServiceLabel Request Response}
    (stepped : state.step dds requestCodec responseCodec label = some after) :
    Correlated requestCodec responseCodec after := by
  cases label with
  | createClient guid first =>
    cases stepped
    refine { held with enhanced := ?_ }
    intro client member
    rcases List.mem_append.mp member with old | new
    · exact held.enhanced client old
    · rw [List.mem_singleton.mp new]
      rfl
  | createServer kind =>
    cases stepped
    exact { held with }
  | sendRequest index request write =>
    simp only [ServiceState.step] at stepped
    split at stepped
    · rename_i client found
      exact held.sendRequest (held.enhanced client (List.mem_of_getElem? found)) stepped
    · cases stepped
  | receiveRequest server index =>
    simp only [ServiceState.step] at stepped
    split at stepped
    · rename_i found
      cases stepped
      exact held.receiveRequest requestLaw (List.mem_of_getElem? found)
    · cases stepped
  | sendResponse server requestId response write =>
    simp only [ServiceState.step] at stepped
    split at stepped
    · exact held.sendResponse stepped
    · cases stepped
  | receiveResponse index requestId place =>
    simp only [ServiceState.step] at stepped
    split at stepped
    · rename_i client sample found taken
      cases stepped
      exact held.receiveResponse responseLaw (held.enhanced client (List.mem_of_getElem? found))
        (List.mem_of_getElem? taken)
    · cases stepped

/-- Every response that a call for an id returned was sent for that id by a server that had got, under this id,
    exactly the one request it was given to. -/
def ServiceState.Traced (requestCodec : CdrCodec Request) (responseCodec : CdrCodec Response)
    (state : ServiceState Request Response) : Prop :=
  ∀ entry ∈ state.returned, ∃ request, (∀ sent, (entry.1, sent) ∈ state.sent ↔ sent = request) ∧
    ∃ receipt ∈ state.received, ∃ answer ∈ state.answered,
      receipt.server = answer.server ∧ receipt.requestId = entry.1 ∧ answer.requestId = entry.1 ∧
        receipt.message.IsRequest requestCodec request ∧ answer.message.IsResponse responseCodec entry.2

theorem Correlated.traced (held : Correlated requestCodec responseCodec state) :
    state.Traced requestCodec responseCodec := by
  intro entry member
  obtain ⟨answer, answered, answerId, carried⟩ := held.returned entry member
  obtain ⟨receipt, received, server, receiptId⟩ := held.answered answer answered
  obtain ⟨request, listed, whole⟩ := held.received receipt received
  rw [receiptId, answerId] at listed
  refine ⟨request, fun sent => ⟨fun other => ?_, fun same => same ▸ listed⟩, receipt, received, answer, answered,
    server, receiptId.trans answerId, answerId, whole, carried⟩
  exact held.unique _ other _ listed rfl

theorem responses_correlate (dds : Rustdds) {requestCodec : CdrCodec Request} {responseCodec : CdrCodec Response}
    (requestLaw : requestCodec.RoundTrips) (responseLaw : responseCodec.RoundTrips) :
    (∀ state, (serviceSystem dds requestCodec responseCodec).Reachable state →
      state.Traced requestCodec responseCodec) ∧
    ∀ (wrapper : RequestWrapper Request) (info : MessageInfo),
      wrapper.unwrap dds requestCodec .enhanced info =
        (requestCodec.deserialize wrapper.encoding wrapper.serializedMessage).map fun read =>
          (((RawRequestWrapper.mk wrapper.serializedMessage wrapper.encoding).unwrapRaw info).1, read.1) := by
  refine ⟨?_, RequestWrapper.unwrap_enhanced dds requestCodec⟩
  intro state reachable
  have correlated : Correlated requestCodec responseCodec state := by
    apply reachable.invariant _ .initial
    intro before label after held stepped
    exact held.step requestLaw responseLaw stepped
  exact correlated.traced

def rawAnswer : List (ServiceLabel UInt32 UInt32) :=
  [.createClient countingGuid ⟨0⟩, .createServer .raw, .sendRequest 0 7 (.ok ⟨5⟩), .receiveRequest 0 0,
    .sendResponse 0 ⟨countingGuid, ⟨5⟩⟩ (.raw [0, 1, 0, 0, 8, 0, 0, 0]) (.ok ⟨zeroGuid, ⟨1⟩⟩),
    .receiveResponse 0 ⟨countingGuid, ⟨5⟩⟩ 0]

theorem responses_correlate_raw :
    ∃ state : ServiceState UInt32 UInt32,
      state.returned = [(⟨countingGuid, ⟨5⟩⟩, 8)] ∧ state.Traced cdrWord cdrWord := by
  obtain ⟨state, reachable, returned⟩ := (serviceSystem plainCdr cdrWord cdrWord).reachable_of_check rawAnswer
    (fun state => state.returned = [(⟨countingGuid, ⟨5⟩⟩, 8)]) (by decide)
  exact ⟨state, of_decide_eq_true returned,
    (responses_correlate plainCdr cdrWord_roundTrips cdrWord_roundTrips).1 state reachable⟩

end Ros2Client
