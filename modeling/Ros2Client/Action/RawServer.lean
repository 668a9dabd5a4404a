import Ros2Client.Action.Messages
import Ros2Client.Service.RawEndpoints

open Wire

namespace Ros2Client

structure ActionCodecs (Goal Result Feedback : Type) where
  dds : Rustdds
  sendGoalRequest : CdrCodec (SendGoalRequest Goal)
  sendGoalResponse : CdrCodec SendGoalResponse
  cancelGoalRequest : CdrCodec CancelGoalRequest
  cancelGoalResponse : CdrCodec CancelGoalResponse
  getResultRequest : CdrCodec GetResultRequest
  getResultResponse : CdrCodec (GetResultResponse Result)
  feedbackMessage : CdrCodec (FeedbackMessage Feedback)
  goalStatusArray : CdrCodec (List GoalStatus)

variable {Goal Result Feedback Message : Type}

/-- A publisher of messages of a known type. The outcome of the DDS write is `write`. -/
def Publisher.publish (codec : CdrCodec Message) (message : Message) (write : Except WriteError SampleIdentity) :
    Except WriteError Sample := do
  let payload ← codec.serialize outputEncoding message
  let written ← write
  return ⟨payload, outputEncoding, written, none⟩

inductive ActionServerCall (Goal Result Feedback : Type)
  | receiveGoal (sample : Sample)
  | sendGoalResponse (requestId : RmwRequestId) (response : SendGoalResponse) (write : Except WriteError SampleIdentity)
  | receiveCancelRequest (sample : Sample)
  | sendCancelResponse (requestId : RmwRequestId) (response : CancelGoalResponse)
      (write : Except WriteError SampleIdentity)
  | receiveResultRequest (sample : Sample)
  | sendResult (requestId : RmwRequestId) (response : GetResultResponse Result)
      (write : Except WriteError SampleIdentity)
  | sendFeedback (goalId : GoalId) (feedback : Feedback) (write : Except WriteError SampleIdentity)
  | sendGoalStatuses (statuses : List GoalStatus) (write : Except WriteError SampleIdentity)

inductive ActionServerOutcome (Goal : Type)
  | goal (received : Except ReadError (RmwRequestId × SendGoalRequest Goal))
  | cancel (received : Except ReadError (RmwRequestId × CancelGoalRequest))
  | result (received : Except ReadError (RmwRequestId × GetResultRequest))
  | written (sent : Except WriteError Sample)

namespace ActionServer

variable (codecs : ActionCodecs Goal Result Feedback) (server : Server)

def receiveGoal (sample : Sample) : Except ReadError (RmwRequestId × SendGoalRequest Goal) :=
  server.receiveRequest codecs.dds codecs.sendGoalRequest sample

def sendGoalResponse (requestId : RmwRequestId) (response : SendGoalResponse)
    (write : Except WriteError SampleIdentity) : Except WriteError Sample :=
  server.sendResponse codecs.dds codecs.sendGoalResponse requestId response write

def receiveCancelRequest (sample : Sample) : Except ReadError (RmwRequestId × CancelGoalRequest) :=
  server.receiveRequest codecs.dds codecs.cancelGoalRequest sample

def sendCancelResponse (requestId : RmwRequestId) (response : CancelGoalResponse)
    (write : Except WriteError SampleIdentity) : Except WriteError Sample :=
  server.sendResponse codecs.dds codecs.cancelGoalResponse requestId response write

def receiveResultRequest (sample : Sample) : Except ReadError (RmwRequestId × GetResultRequest) :=
  server.receiveRequest codecs.dds codecs.getResultRequest sample

def sendResult (requestId : RmwRequestId) (response : GetResultResponse Result)
    (write : Except WriteError SampleIdentity) : Except WriteError Sample :=
  server.sendResponse codecs.dds codecs.getResultResponse requestId response write

def sendFeedback (goalId : GoalId) (feedback : Feedback) (write : Except WriteError SampleIdentity) :
    Except WriteError Sample :=
  Publisher.publish codecs.feedbackMessage ⟨goalId, feedback⟩ write

def sendGoalStatuses (statuses : List GoalStatus) (write : Except WriteError SampleIdentity) :
    Except WriteError Sample :=
  Publisher.publish codecs.goalStatusArray statuses write

def perform : ActionServerCall Goal Result Feedback → ActionServerOutcome Goal
  | .receiveGoal sample => .goal (receiveGoal codecs server sample)
  | .sendGoalResponse requestId response write => .written (sendGoalResponse codecs server requestId response write)
  | .receiveCancelRequest sample => .cancel (receiveCancelRequest codecs server sample)
  | .sendCancelResponse requestId response write =>
    .written (sendCancelResponse codecs server requestId response write)
  | .receiveResultRequest sample => .result (receiveResultRequest codecs server sample)
  | .sendResult requestId response write => .written (sendResult codecs server requestId response write)
  | .sendFeedback goalId feedback write => .written (sendFeedback codecs goalId feedback write)
  | .sendGoalStatuses statuses write => .written (sendGoalStatuses codecs statuses write)

end ActionServer

def toStandaloneCdr (codec : CdrCodec Message) (message : Message) : Except WriteError (List UInt8) := do
  let body ← codec.serialize .cdrLe message
  return [0x00, 0x01, 0x00, 0x00] ++ body

/-- The two octets as the debug output of Rust shows them. -/
def shownOctets : List UInt8 → String
  | first :: second :: _ => s!"Some([{first.toNat}, {second.toNat}])"
  | _ => "None"

def repId (message : List UInt8) : Except ReadError RepresentationIdentifier :=
  match message with
  | 0x00 :: 0x00 :: _ => .ok .cdrBe
  | 0x00 :: 0x01 :: _ => .ok .cdrLe
  | other => .error (.deserialization
      ("unsupported CDR encapsulation " ++ shownOctets other ++ " in a raw action message"))

def stripHeader (message : List UInt8) : Except ReadError (List UInt8) :=
  if message.length < 4 then
    .error (.deserialization "a raw action message shorter than its CDR encapsulation header")
  else .ok (message.drop 4)

namespace RawActionServer

variable (codecs : ActionCodecs Goal Result Feedback)

def receiveGoalRequest (sample : Sample) : RmwRequestId × List UInt8 := RawServer.receiveRequest sample

def respondGoal (requestId : RmwRequestId) (accepted : Bool) (stamp : Time)
    (write : Except WriteError SampleIdentity) : Except WriteError Sample := do
  let response ← toStandaloneCdr codecs.sendGoalResponse ⟨accepted, stamp⟩
  RawServer.sendResponse requestId response write

def receiveCancelRequest (sample : Sample) : Except ReadError (RmwRequestId × GoalInfo) := do
  let (requestId, request) ← Server.receiveRequest codecs.dds codecs.cancelGoalRequest ⟨.enhanced⟩ sample
  return (requestId, request.goalInfo)

def respondCancel (requestId : RmwRequestId) (response : CancelGoalResponse)
    (write : Except WriteError SampleIdentity) : Except WriteError Sample :=
  Server.sendResponse codecs.dds codecs.cancelGoalResponse ⟨.enhanced⟩ requestId response write

def receiveResultRequest (sample : Sample) : Except ReadError (RmwRequestId × GoalId) := do
  let (requestId, bytes) := RawServer.receiveRequest sample
  let body ← stripHeader bytes
  let encoding ← repId bytes
  let (request, _consumed) ← codecs.getResultRequest.deserialize encoding body
  return (requestId, request.goalId)

def respondResultRaw (requestId : RmwRequestId) (cdrResponse : List UInt8)
    (write : Except WriteError SampleIdentity) : Except WriteError Sample :=
  RawServer.sendResponse requestId cdrResponse write

def publishFeedbackRaw (cdrMessage : List UInt8) (write : Except WriteError SampleIdentity) :
    Except WriteError Sample :=
  RawPublisher.publish cdrMessage write

def publishStatuses (statuses : List GoalStatus) (write : Except WriteError SampleIdentity) :
    Except WriteError Sample :=
  Publisher.publish codecs.goalStatusArray statuses write

/-- What an application does that knows the types at runtime: it decodes the bytes it gets and builds the bytes it
    gives. -/
def perform : ActionServerCall Goal Result Feedback → ActionServerOutcome Goal
  | .receiveGoal sample =>
    let (requestId, bytes) := receiveGoalRequest sample
    .goal ((decodeStandalone codecs.sendGoalRequest bytes).map fun request => (requestId, request))
  | .sendGoalResponse requestId response write =>
    .written (respondGoal codecs requestId response.accepted response.stamp write)
  | .receiveCancelRequest sample =>
    .cancel ((receiveCancelRequest codecs sample).map fun received => (received.1, ⟨received.2⟩))
  | .sendCancelResponse requestId response write => .written (respondCancel codecs requestId response write)
  | .receiveResultRequest sample =>
    .result ((receiveResultRequest codecs sample).map fun received => (received.1, ⟨received.2⟩))
  | .sendResult requestId response write => .written do
    let cdrResponse ← toStandaloneCdr codecs.getResultResponse response
    respondResultRaw requestId cdrResponse write
  | .sendFeedback goalId feedback write => .written do
    let cdrMessage ← toStandaloneCdr codecs.feedbackMessage ⟨goalId, feedback⟩
    publishFeedbackRaw cdrMessage write
  | .sendGoalStatuses statuses write => .written (publishStatuses codecs statuses write)

end RawActionServer

/-- The readers of `rustdds` take samples of these two encodings only. -/
def Sample.Readable (sample : Sample) : Prop := sample.encoding = .cdrLe ∨ sample.encoding = .cdrBe

def ActionServerCall.Readable : ActionServerCall Goal Result Feedback → Prop
  | .receiveGoal sample | .receiveResultRequest sample => sample.Readable
  | _ => True

section Receiving

variable {encoding : RepresentationIdentifier} {sample : Sample}

theorem repId_encapsulated (body : List UInt8) (known : encoding = .cdrLe ∨ encoding = .cdrBe) :
    repId (encapsulated encoding body) = .ok encoding := by
  rcases known with rfl | rfl <;> rfl

theorem stripHeader_encapsulated (encoding : RepresentationIdentifier) (body : List UInt8) :
    stripHeader (encapsulated encoding body) = .ok body := by
  have header : (encapsulationHeader encoding).length = 4 := by
    unfold encapsulationHeader
    split <;> rfl
  have long : ¬(encapsulated encoding body).length < 4 := by
    rw [encapsulated, List.length_append, header]
    omega
  rw [stripHeader, if_neg long, encapsulated, ← header, List.drop_left]

theorem receiveRequest_enhanced (dds : Rustdds) (codec : CdrCodec Message) (sample : Sample) :
    Server.receiveRequest dds codec ⟨.enhanced⟩ sample =
      (codec.deserialize sample.encoding sample.payload).map fun read =>
        ((RawServer.receiveRequest sample).1, read.1) :=
  RequestWrapper.unwrap_enhanced dds codec _ _

/-- The bytes of a request are decoded to what the typed server gets, whether this is a request or an error. -/
theorem decode_received (dds : Rustdds) (codec : CdrCodec Message) (readable : sample.Readable) :
    ((decodeStandalone codec (RawServer.receiveRequest sample).2).map fun request =>
      ((RawServer.receiveRequest sample).1, request)) = Server.receiveRequest dds codec ⟨.enhanced⟩ sample := by
  have decoded := decodeStandalone_received codec sample.payload readable
  rw [receiveRequest_enhanced]
  show (decodeStandalone codec (encapsulated sample.encoding sample.payload)).map _ = _
  rw [decoded]
  cases codec.deserialize sample.encoding sample.payload <;> rfl

/-- The header of a request that a raw server hands over is never refused. -/
theorem receiveResultRequest_eq (codecs : ActionCodecs Goal Result Feedback) (readable : sample.Readable) :
    RawActionServer.receiveResultRequest codecs sample =
      (ActionServer.receiveResultRequest codecs ⟨.enhanced⟩ sample).map fun received =>
        (received.1, received.2.goalId) := by
  have bytes : RawServer.receiveRequest sample =
    ((RawServer.receiveRequest sample).1, encapsulated sample.encoding sample.payload) := rfl
  rw [ActionServer.receiveResultRequest, receiveRequest_enhanced, RawActionServer.receiveResultRequest, bytes]
  simp only [stripHeader_encapsulated, repId_encapsulated sample.payload readable, bind, Except.bind]
  cases codecs.getResultRequest.deserialize sample.encoding sample.payload <;> rfl

end Receiving

section Sending

variable {message : List UInt8} {value : Message} {requestId : RmwRequestId} {written : SampleIdentity}

/-- The octets that the raw endpoints write of a message: all behind the header, whatever this one says. -/
def writtenBody (message : List UInt8) : List UInt8 := if 4 ≤ message.length then message.drop 4 else message

theorem toStandaloneCdr_bind {Outcome : Type} (codec : CdrCodec Message) (value : Message)
    (next : List UInt8 → Except WriteError Outcome) :
    (toStandaloneCdr codec value >>= next) =
      codec.serialize .cdrLe value >>= fun body => next ([0x00, 0x01, 0x00, 0x00] ++ body) := by
  rw [toStandaloneCdr]
  cases codec.serialize .cdrLe value <;> rfl

theorem sendResponse_enhanced (dds : Rustdds) (codec : CdrCodec Message) (requestId : RmwRequestId) (value : Message)
    (write : Except WriteError SampleIdentity) :
    Server.sendResponse dds codec ⟨.enhanced⟩ requestId value write =
      codec.serialize .cdrLe value >>= fun body =>
        RawServer.sendResponse requestId ([0x00, 0x01, 0x00, 0x00] ++ body) write := by
  cases serialized : codec.serialize .cdrLe value with
  | error error =>
    simp only [Server.sendResponse, ResponseWrapper.new, ResponseWrapper.header, serialized, bind, Except.bind, pure,
      Except.pure]
  | ok body => exact (sendResponse_standalone dds requestId write (0, 0) serialized).symm

theorem publish_standalone (codec : CdrCodec Message) (value : Message) (write : Except WriteError SampleIdentity) :
    Publisher.publish codec value write =
      codec.serialize .cdrLe value >>= fun body => RawPublisher.publish ([0x00, 0x01, 0x00, 0x00] ++ body) write := by
  rw [Publisher.publish, outputEncoding]
  cases codec.serialize .cdrLe value with
  | error error => rfl
  | ok body => cases write <;> rfl

/-- A message that the caller has built is sent like a typed one if and only if it spells that one. -/
theorem sendResponse_iff (dds : Rustdds) (codec : CdrCodec Message) :
    RawServer.sendResponse requestId message (.ok written) =
        Server.sendResponse dds codec ⟨.enhanced⟩ requestId value (.ok written) ↔
      codec.serialize .cdrLe value = .ok (writtenBody message) := by
  have raw : RawServer.sendResponse requestId message (.ok written) =
    .ok ⟨writtenBody message, outputEncoding, written, some (.ofRequestId requestId)⟩ := rfl
  rw [raw, sendResponse_enhanced]
  cases codec.serialize .cdrLe value with
  | error error => simp [bind, Except.bind]
  | ok body =>
    have typed : RawServer.sendResponse requestId ([0x00, 0x01, 0x00, 0x00] ++ body) (.ok written) =
      .ok ⟨body, outputEncoding, written, some (.ofRequestId requestId)⟩ := rfl
    show _ = RawServer.sendResponse requestId ([0x00, 0x01, 0x00, 0x00] ++ body) (.ok written) ↔ _
    rw [typed]
    simp [eq_comm]

theorem publish_iff (codec : CdrCodec Message) :
    RawPublisher.publish message (.ok written) = Publisher.publish codec value (.ok written) ↔
      codec.serialize .cdrLe value = .ok (writtenBody message) := by
  have raw : RawPublisher.publish message (.ok written) =
    .ok ⟨writtenBody message, outputEncoding, written, none⟩ := rfl
  rw [raw, publish_standalone]
  cases codec.serialize .cdrLe value with
  | error error => simp [bind, Except.bind]
  | ok body =>
    have typed : RawPublisher.publish ([0x00, 0x01, 0x00, 0x00] ++ body) (.ok written) =
      .ok ⟨body, outputEncoding, written, none⟩ := rfl
    show _ = RawPublisher.publish ([0x00, 0x01, 0x00, 0x00] ++ body) (.ok written) ↔ _
    rw [typed]
    simp [eq_comm]

end Sending

theorem perform_eq (codecs : ActionCodecs Goal Result Feedback) {call : ActionServerCall Goal Result Feedback}
    (readable : call.Readable) :
    RawActionServer.perform codecs call = ActionServer.perform codecs ⟨.enhanced⟩ call := by
  cases call with
  | receiveGoal sample => exact congrArg _ (decode_received codecs.dds codecs.sendGoalRequest readable)
  | sendGoalResponse requestId response write =>
    apply congrArg ActionServerOutcome.written
    rw [RawActionServer.respondGoal, toStandaloneCdr_bind, ActionServer.sendGoalResponse, sendResponse_enhanced]
  | receiveCancelRequest sample =>
    apply congrArg ActionServerOutcome.cancel
    rw [RawActionServer.receiveCancelRequest, ActionServer.receiveCancelRequest]
    cases Server.receiveRequest codecs.dds codecs.cancelGoalRequest ⟨.enhanced⟩ sample <;> rfl
  | sendCancelResponse => rfl
  | receiveResultRequest sample =>
    apply congrArg ActionServerOutcome.result
    rw [receiveResultRequest_eq codecs readable]
    cases ActionServer.receiveResultRequest codecs ⟨.enhanced⟩ sample <;> rfl
  | sendResult requestId response write =>
    apply congrArg ActionServerOutcome.written
    rw [toStandaloneCdr_bind, ActionServer.sendResult, sendResponse_enhanced]
    rfl
  | sendFeedback goalId feedback write =>
    apply congrArg ActionServerOutcome.written
    rw [toStandaloneCdr_bind, ActionServer.sendFeedback, publish_standalone]
    rfl
  | sendGoalStatuses => rfl

/-- On the wire a raw action server is a typed one under the Enhanced mapping, if the application that uses it knows
    the codecs. What the application builds in another way does for a result or for feedback if and only if the octets
    behind the header spell it. -/
theorem raw_action_server_speaks_typed (codecs : ActionCodecs Goal Result Feedback) :
    (∀ call : ActionServerCall Goal Result Feedback, call.Readable →
      RawActionServer.perform codecs call = ActionServer.perform codecs ⟨.enhanced⟩ call) ∧
    (∀ requestId cdrResponse response written,
      RawActionServer.respondResultRaw requestId cdrResponse (.ok written) =
          ActionServer.sendResult codecs ⟨.enhanced⟩ requestId response (.ok written) ↔
        codecs.getResultResponse.serialize .cdrLe response = .ok (writtenBody cdrResponse)) ∧
    ∀ cdrMessage goalId feedback written,
      RawActionServer.publishFeedbackRaw cdrMessage (.ok written) =
          ActionServer.sendFeedback codecs goalId feedback (.ok written) ↔
        codecs.feedbackMessage.serialize .cdrLe ⟨goalId, feedback⟩ = .ok (writtenBody cdrMessage) :=
  ⟨fun _ => perform_eq codecs, fun _ _ _ _ => sendResponse_iff codecs.dds codecs.getResultResponse,
    fun _ _ _ _ => publish_iff codecs.feedbackMessage⟩

end Ros2Client
