import Ros2Client.Zenoh.Payload
import Ros2Client.Action.Messages

open Wire

namespace Ros2Client

def GoalStatusEnum.discriminant : GoalStatusEnum → Int8
  | .unknown => 0
  | .accepted => 1
  | .executing => 2
  | .canceling => 3
  | .succeeded => 4
  | .canceled => 5
  | .aborted => 6

def GoalStatusEnum.ofDiscriminant (number : Int8) : Except String GoalStatusEnum :=
  if number = 0 then .ok .unknown
  else if number = 1 then .ok .accepted
  else if number = 2 then .ok .executing
  else if number = 3 then .ok .canceling
  else if number = 4 then .ok .succeeded
  else if number = 5 then .ok .canceled
  else if number = 6 then .ok .aborted
  else .error s!"invalid value: {number}, expected one of: 0, 1, 2, 3, 4, 5, 6"

def cdrOctet : CdrEncoding UInt8 := .fixed 1 (fun _ octet => [octet]) (fun _ bytes => bytes.headD 0) endOfBuffer

def cdrInt8 : CdrEncoding Int8 := cdrOctet.via (fun octet => .ok octet.toInt8) Int8.toUInt8

def cdrBool : CdrEncoding Bool :=
  cdrOctet.via (fun octet => if octet = 0 then .ok false else if octet = 1 then .ok true else .error "bad bool")
    (fun flag => if flag then 1 else 0)

def cdrInteger32 : CdrEncoding Int32 := cdrWord32.via (fun word => .ok word.toInt32) Int32.toUInt32

def cdrGoalId : CdrEncoding GoalId :=
  .fixed 16 (fun _ goalId => (encodeOctets 16 goalId.toNat).reverse)
    (fun _ bytes => .ofNat 128 (decodeOctets bytes.reverse)) endOfBuffer

def cdrTime : CdrEncoding Time :=
  (cdrInteger32.pair cdrWord32).via (fun fields => .ok (ReprTime.toTime ⟨fields.1, fields.2⟩))
    (fun time => (time.toRepr.sec, time.toRepr.nanosec))

def cdrGoalStatus : CdrEncoding GoalStatusEnum := cdrInt8.via GoalStatusEnum.ofDiscriminant GoalStatusEnum.discriminant

theorem cdrOctet_roundTrips : cdrOctet.RoundTrips := Codec.fixed_roundTrips (fun _ _ => rfl) (fun _ _ => rfl)

theorem cdrInt8_roundTrips : cdrInt8.RoundTrips := cdrOctet_roundTrips.via (fun _ => rfl)

theorem cdrBool_roundTrips : cdrBool.RoundTrips :=
  cdrOctet_roundTrips.via (fun flag => by cases flag <;> rfl)

theorem cdrWord32_roundTrips : cdrWord32.RoundTrips := Codec.word_roundTrips _ _

theorem cdrInteger32_roundTrips : cdrInteger32.RoundTrips := cdrWord32_roundTrips.via (fun number => by simp)

theorem cdrGoalId_roundTrips : cdrGoalId.RoundTrips := by
  apply Codec.fixed_roundTrips
  · intro _ goalId
    rw [List.length_reverse, length_encodeOctets]
  · intro _ goalId
    rw [List.reverse_reverse, decodeOctets_encodeOctets goalId.isLt, BitVec.ofNat_toNat, BitVec.setWidth_eq]

theorem cdrTime_carries (time : Time) : cdrTime.Carries cdrTime time time.toRepr.toTime := by
  have carried := (cdrInteger32_roundTrips.pair cdrWord32_roundTrips).carries (time.toRepr.sec, time.toRepr.nanosec)
  exact .writeVia (.readVia carried rfl) rfl

structure Payload (α : Type) where
  write : ByteOrder → α → List UInt8
  read : ByteOrder → List UInt8 → Except String (α × Nat)
  read_write : ∀ order value rest, read order (write order value ++ rest) = .ok (value, (write order value).length)

def Payload.codec {α : Type} (payload : Payload α) : CdrEncoding α where
  serialize order value := .ok (payload.write order value)
  deserialize := payload.read

theorem Payload.roundTrips {α : Type} (payload : Payload α) : payload.codec.RoundTrips := by
  intro order value bytes rest written
  cases written
  exact payload.read_write order value rest

variable {Goal Result Feedback : Type}

def SendGoalRequest.codec (goal : Payload Goal) : CdrEncoding (SendGoalRequest Goal) :=
  (cdrGoalId.pair goal.codec).via (fun fields => .ok ⟨fields.1, fields.2⟩)
    (fun message => (message.goalId, message.goal))

def SendGoalResponse.codec : CdrEncoding SendGoalResponse :=
  (cdrBool.pair cdrTime).via (fun fields => .ok ⟨fields.1, fields.2⟩) (fun message => (message.accepted, message.stamp))

def GetResultRequest.codec : CdrEncoding GetResultRequest := cdrGoalId.via (fun goalId => .ok ⟨goalId⟩) (·.goalId)

def GetResultResponse.codec (result : Payload Result) : CdrEncoding (GetResultResponse Result) :=
  (cdrGoalStatus.pair result.codec).via (fun fields => .ok ⟨fields.1, fields.2⟩)
    (fun message => (message.status, message.result))

def FeedbackMessage.codec (feedback : Payload Feedback) : CdrEncoding (FeedbackMessage Feedback) :=
  (cdrGoalId.pair feedback.codec).via (fun fields => .ok ⟨fields.1, fields.2⟩)
    (fun message => (message.goalId, message.feedback))

namespace Zenoh

def goalStatus.executing : Int8 := 2

def goalStatus.succeeded : Int8 := 4

def goalStatus.aborted : Int8 := 5

def goalStatus.canceled : Int8 := 6

structure SendGoalRequest (Goal : Type) where
  goalId : GoalId
  goal : Goal
deriving DecidableEq

structure SendGoalResponse where
  accepted : Bool
  stamp : Time
deriving DecidableEq

structure GetResultRequest where
  goalId : GoalId
deriving DecidableEq

structure GetResultResponse (Result : Type) where
  status : Int8
  result : Result
deriving DecidableEq

structure FeedbackMessage (Feedback : Type) where
  goalId : GoalId
  feedback : Feedback
deriving DecidableEq

def SendGoalRequest.codec (goal : Payload Goal) : CdrEncoding (SendGoalRequest Goal) :=
  (cdrGoalId.pair goal.codec).via (fun fields => .ok ⟨fields.1, fields.2⟩)
    (fun message => (message.goalId, message.goal))

def SendGoalResponse.codec : CdrEncoding SendGoalResponse :=
  (cdrBool.pair cdrTime).via (fun fields => .ok ⟨fields.1, fields.2⟩) (fun message => (message.accepted, message.stamp))

def GetResultRequest.codec : CdrEncoding GetResultRequest := cdrGoalId.via (fun goalId => .ok ⟨goalId⟩) (·.goalId)

def GetResultResponse.codec (result : Payload Result) : CdrEncoding (GetResultResponse Result) :=
  (cdrInt8.pair result.codec).via (fun fields => .ok ⟨fields.1, fields.2⟩)
    (fun message => (message.status, message.result))

def FeedbackMessage.codec (feedback : Payload Feedback) : CdrEncoding (FeedbackMessage Feedback) :=
  (cdrGoalId.pair feedback.codec).via (fun fields => .ok ⟨fields.1, fields.2⟩)
    (fun message => (message.goalId, message.feedback))

def goalStatus.named : GoalEndStatus → Int8
  | .succeeded => goalStatus.succeeded
  | .aborted => goalStatus.aborted
  | .canceled => goalStatus.canceled

end Zenoh

structure Payloads (Goal Result Feedback : Type) where
  goal : Payload Goal
  result : Payload Result
  feedback : Payload Feedback

/-- What an action message says, whichever backend sends it. -/
inductive ActionMessage (Goal Result Feedback : Type)
  | sendGoalRequest (goalId : GoalId) (goal : Goal)
  | sendGoalResponse (accepted : Bool) (stamp : Time)
  | getResultRequest (goalId : GoalId)
  | getResultResponse (outcome : GoalEndStatus) (result : Result)
  | feedbackMessage (goalId : GoalId) (feedback : Feedback)
deriving DecidableEq

def Exchanged {α β : Type} (left : CdrEncoding α) (right : CdrEncoding β) (message : α) (other : β) : Prop :=
  left.Carries right message other ∧ right.Carries left other message

def ActionMessage.MeansTheSame (payloads : Payloads Goal Result Feedback) :
    ActionMessage Goal Result Feedback → Prop
  | .sendGoalRequest goalId goal =>
    Exchanged (Zenoh.SendGoalRequest.codec payloads.goal) (SendGoalRequest.codec payloads.goal)
      ⟨goalId, goal⟩ ⟨goalId, goal⟩
  | .sendGoalResponse accepted stamp =>
    Exchanged Zenoh.SendGoalResponse.codec SendGoalResponse.codec ⟨accepted, stamp⟩ ⟨accepted, stamp⟩
  | .getResultRequest goalId =>
    Exchanged Zenoh.GetResultRequest.codec GetResultRequest.codec ⟨goalId⟩ ⟨goalId⟩
  | .getResultResponse outcome result =>
    Exchanged (Zenoh.GetResultResponse.codec payloads.result) (GetResultResponse.codec payloads.result)
      ⟨Zenoh.goalStatus.named outcome, result⟩ ⟨outcome.toStatus, result⟩
  | .feedbackMessage goalId feedback =>
    Exchanged (Zenoh.FeedbackMessage.codec payloads.feedback) (FeedbackMessage.codec payloads.feedback)
      ⟨goalId, feedback⟩ ⟨goalId, feedback⟩

/-- The outcome has one code on both backends, and the wire has room for the stamp. -/
def ActionMessage.CodesMatch : ActionMessage Goal Result Feedback → Prop
  | .sendGoalResponse _ stamp => stamp.FitsRepr
  | .getResultResponse outcome _ => outcome = .succeeded
  | _ => True

variable (payloads : Payloads Goal Result Feedback)

theorem sendGoalRequest_exchanged (goalId : GoalId) (goal : Goal) :
    (ActionMessage.sendGoalRequest goalId goal).MeansTheSame payloads := by
  have carried := (cdrGoalId_roundTrips.pair payloads.goal.roundTrips).carries (goalId, goal)
  exact ⟨.writeVia (.readVia carried rfl) rfl, .writeVia (.readVia carried rfl) rfl⟩

theorem getResultRequest_exchanged (goalId : GoalId) :
    (ActionMessage.getResultRequest goalId).MeansTheSame payloads := by
  have carried := cdrGoalId_roundTrips.carries goalId
  exact ⟨.writeVia (.readVia carried rfl) rfl, .writeVia (.readVia carried rfl) rfl⟩

theorem feedbackMessage_exchanged (goalId : GoalId) (feedback : Feedback) :
    (ActionMessage.feedbackMessage goalId feedback).MeansTheSame payloads := by
  have carried := (cdrGoalId_roundTrips.pair payloads.feedback.roundTrips).carries (goalId, feedback)
  exact ⟨.writeVia (.readVia carried rfl) rfl, .writeVia (.readVia carried rfl) rfl⟩

theorem sendGoalResponse_exchanged_iff (accepted : Bool) (stamp : Time) :
    (ActionMessage.sendGoalResponse accepted stamp).MeansTheSame payloads ↔ stamp.FitsRepr := by
  have carried := (cdrBool_roundTrips.carries accepted).pair (cdrTime_carries stamp)
  have arrives : Zenoh.SendGoalResponse.codec.Carries SendGoalResponse.codec ⟨accepted, stamp⟩
      ⟨accepted, stamp.toRepr.toTime⟩ := .writeVia (.readVia carried rfl) rfl
  rw [← Time.toTime_toRepr_iff]
  constructor
  · intro exchanged
    have written : Zenoh.SendGoalResponse.codec.serialize .littleEndian ⟨accepted, stamp⟩ = .ok _ := rfl
    have same := arrives.unique exchanged.1 written
    exact congrArg SendGoalResponse.stamp same
  · intro same
    rw [same] at arrives carried
    exact ⟨arrives, .writeVia (.readVia carried rfl) rfl⟩

theorem zenoh_response_arrives (payload : Payload Result) (code : Int8) {status : GoalStatusEnum}
    (named : GoalStatusEnum.ofDiscriminant code = .ok status) (result : Result) :
    (Zenoh.GetResultResponse.codec payload).Carries (GetResultResponse.codec payload) ⟨code, result⟩
      ⟨status, result⟩ := by
  have read : cdrInt8.Carries cdrGoalStatus code status := (cdrInt8_roundTrips.carries code).readVia named
  exact .writeVia (.readVia (read.pair (payload.roundTrips.carries result)) rfl) rfl

theorem dds_response_arrives (payload : Payload Result) (status : GoalStatusEnum) (result : Result) :
    (GetResultResponse.codec payload).Carries (Zenoh.GetResultResponse.codec payload) ⟨status, result⟩
      ⟨status.discriminant, result⟩ := by
  have read : cdrGoalStatus.Carries cdrInt8 status status.discriminant :=
    (cdrInt8_roundTrips.carries status.discriminant).writeVia rfl
  exact .writeVia (.readVia (read.pair (payload.roundTrips.carries result)) rfl) rfl

theorem not_exchanged_of_misread {outcome : GoalEndStatus} {status : GoalStatusEnum}
    (misread : GoalStatusEnum.ofDiscriminant (Zenoh.goalStatus.named outcome) = .ok status)
    (other : status ≠ outcome.toStatus) (result : Result) :
    ¬(ActionMessage.getResultResponse outcome result).MeansTheSame payloads := by
  intro exchanged
  have arrives := zenoh_response_arrives payloads.result (Zenoh.goalStatus.named outcome) misread result
  have written : (Zenoh.GetResultResponse.codec payloads.result).serialize .littleEndian
    ⟨Zenoh.goalStatus.named outcome, result⟩ = .ok _ := rfl
  have same := arrives.unique exchanged.1 written
  exact other (congrArg GetResultResponse.status same)

theorem getResultResponse_exchanged_iff (outcome : GoalEndStatus) (result : Result) :
    (ActionMessage.getResultResponse outcome result).MeansTheSame payloads ↔ outcome = .succeeded := by
  cases outcome with
  | succeeded =>
    have arrives := zenoh_response_arrives payloads.result (Zenoh.goalStatus.named .succeeded) rfl result
    have returns := dds_response_arrives payloads.result .succeeded result
    exact iff_of_true ⟨arrives, returns⟩ rfl
  | aborted =>
    have misread : GoalStatusEnum.ofDiscriminant (Zenoh.goalStatus.named .aborted) = .ok .canceled := rfl
    exact iff_of_false (not_exchanged_of_misread payloads misread (by decide) result) (by decide)
  | canceled =>
    have misread : GoalStatusEnum.ofDiscriminant (Zenoh.goalStatus.named .canceled) = .ok .aborted := rfl
    exact iff_of_false (not_exchanged_of_misread payloads misread (by decide) result) (by decide)

theorem meansTheSame_iff_codesMatch (message : ActionMessage Goal Result Feedback) :
    message.MeansTheSame payloads ↔ message.CodesMatch := by
  cases message with
  | sendGoalRequest goalId goal => exact iff_of_true (sendGoalRequest_exchanged payloads goalId goal) trivial
  | sendGoalResponse accepted stamp => exact sendGoalResponse_exchanged_iff payloads accepted stamp
  | getResultRequest goalId => exact iff_of_true (getResultRequest_exchanged payloads goalId) trivial
  | getResultResponse outcome result => exact getResultResponse_exchanged_iff payloads outcome result
  | feedbackMessage goalId feedback => exact iff_of_true (feedbackMessage_exchanged payloads goalId feedback) trivial

def octetPayload : Payload UInt8 where
  write _ octet := [octet]
  read order bytes := cdrOctet.deserialize order bytes
  read_write := fun order octet rest => cdrOctet_roundTrips order octet [octet] rest rfl

def octetPayloads : Payloads UInt8 UInt8 UInt8 := ⟨octetPayload, octetPayload, octetPayload⟩

theorem aborted_result_read_as_canceled :
    (Zenoh.GetResultResponse.codec octetPayload).Carries (GetResultResponse.codec octetPayload)
        ⟨Zenoh.goalStatus.aborted, 7⟩ ⟨.canceled, 7⟩ ∧
      ¬(ActionMessage.getResultResponse .aborted 7).MeansTheSame octetPayloads := by
  have misread : GoalStatusEnum.ofDiscriminant (Zenoh.goalStatus.named .aborted) = .ok .canceled := rfl
  constructor
  · exact zenoh_response_arrives octetPayload Zenoh.goalStatus.aborted misread 7
  · exact not_exchanged_of_misread octetPayloads misread (by decide) 7

end Ros2Client
