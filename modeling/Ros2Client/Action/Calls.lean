import Ros2Client.Action.Server
import Ros2Client.Transition.Runs

namespace Ros2Client

inductive Outcome (Goal : Type)
  | newGoal (result : Except GoalError NewGoalHandle)
  | goal (found : Option Goal)
  | accepted (result : Except GoalError AcceptedGoalHandle)
  | rejected (result : Except GoalError Unit)
  | executing (result : Except GoalError ExecutingGoalHandle)
  | feedback (result : Except GoalError Unit)
  | result (goalId : GoalId) (result : Except GoalError Unit)
  | aborted (goalId : GoalId) (result : Except GoalError Unit)
  | cancelRequest (result : Except GoalError CancelHandle)
  | cancelResponse (result : Except GoalError Unit)

inductive AfterPublish
  | acceptGoal (handle : NewGoalHandle) (now : Time)
  | startExecutingGoal (handle : AcceptedGoalHandle)
  | sendResultResponse (goalId : GoalId)
  | abortGoal (goalId : GoalId)
  | respondToCancelRequests (handle : CancelHandle) (canceling : List GoalInfo)

/-- A call of an `AsyncActionServer` method, by the point between two critical sections or at an
    await where it stands. `done` and `dropped` calls stay in the list of calls, so that a call
    is named by its position and the handles it returned can be told from invented ones. -/
inductive Call (Goal Result Feedback : Type)
  | receiveNewGoal
  | getNewGoal (handle : NewGoalHandle)
  | getNewGoalFlushed (handle : NewGoalHandle)
  | acceptGoal (handle : NewGoalHandle)
  | acceptRespond (handle : NewGoalHandle) (now : Time)
  | rejectGoal (handle : NewGoalHandle)
  | rejectStamp (handle : NewGoalHandle)
  | rejectRespond (handle : NewGoalHandle) (now : Time)
  | startExecutingGoal (handle : AcceptedGoalHandle)
  | publishFeedback (handle : ExecutingGoalHandle) (feedback : Feedback)
  | sendResultResponse (handle : ExecutingGoalHandle) (status : GoalEndStatus) (result : Result)
  | resultStream (handle : ExecutingGoalHandle) (status : GoalEndStatus) (result : Result)
  | resultWait (handle : ExecutingGoalHandle) (status : GoalEndStatus) (result : Result)
  | resultTaken (handle : ExecutingGoalHandle) (status : GoalEndStatus) (result : Result)
      (reqId : RmwRequestId) (goalId : GoalId)
  | resultFinish (handle : ExecutingGoalHandle) (status : GoalEndStatus) (result : Result)
      (reqId : RmwRequestId)
  | abortGoal (goalId : GoalId)
  | markGoalFinished (goalId : GoalId) (outcome : Outcome Goal)
  | receiveCancelRequest
  | cancelSelect (reqId : RmwRequestId) (goalInfo : GoalInfo)
  | cancelCollect (handle : CancelHandle) (goalsToCancel : List GoalId) (canceling : List GoalInfo)
  | cancelSet (handle : CancelHandle) (remaining canceling : List GoalInfo)
  | cancelRespond (handle : CancelHandle) (canceling : List GoalInfo)
  | publishStatuses (next : AfterPublish)
  | publishSend (statusList : List GoalStatus) (next : AfterPublish)
  | done (outcome : Outcome Goal)
  | dropped

inductive Input (Goal : Type)
  | silent
  | now (time : Time)
  | written (ok : Bool)
  | goalRequest (reqId : RmwRequestId) (request : SendGoalRequest Goal)
  | resultRequest (reqId : RmwRequestId) (goalId : GoalId)
  | cancelRequest (reqId : RmwRequestId) (goalInfo : GoalInfo)
  | readError

/-- What happened, in order: the goals accepted and the samples that were written. -/
inductive Event (Result Feedback : Type)
  | goalAccepted (goalId : GoalId)
  | goalResponse (reqId : RmwRequestId) (response : SendGoalResponse)
  | feedback (message : FeedbackMessage Feedback)
  | resultResponse (goalId : GoalId) (reqId : RmwRequestId) (response : GetResultResponse Result)
  | cancelResponse (reqId : RmwRequestId) (response : CancelGoalResponse)
  | statuses (statusList : List GoalStatus)

inductive Operation (Result Feedback : Type)
  | receiveNewGoal
  | getNewGoal (handle : NewGoalHandle)
  | acceptGoal (handle : NewGoalHandle)
  | rejectGoal (handle : NewGoalHandle)
  | startExecutingGoal (handle : AcceptedGoalHandle)
  | publishFeedback (handle : ExecutingGoalHandle) (feedback : Feedback)
  | sendResultResponse (handle : ExecutingGoalHandle) (status : GoalEndStatus) (result : Result)
  | abortExecutingGoal (handle : ExecutingGoalHandle)
  | abortAcceptedGoal (handle : AcceptedGoalHandle)
  | receiveCancelRequest
  | respondToCancelRequests (handle : CancelHandle) (goalsToCancel : List GoalId)

variable {Goal Result Feedback : Type}

def Operation.call : Operation Result Feedback → Call Goal Result Feedback
  | .receiveNewGoal => .receiveNewGoal
  | .getNewGoal handle => .getNewGoal handle
  | .acceptGoal handle => .acceptGoal handle
  | .rejectGoal handle => .rejectGoal handle
  | .startExecutingGoal handle => .startExecutingGoal handle
  | .publishFeedback handle feedback => .publishFeedback handle feedback
  | .sendResultResponse handle status result => .sendResultResponse handle status result
  | .abortExecutingGoal handle => .abortGoal handle.goalId
  | .abortAcceptedGoal handle => .abortGoal handle.goalId
  | .receiveCancelRequest => .receiveCancelRequest
  | .respondToCancelRequests handle goalsToCancel => .cancelCollect handle goalsToCancel []

def newGoalHandles (calls : List (Call Goal Result Feedback)) : List NewGoalHandle :=
  calls.filterMap fun | .done (.newGoal (.ok handle)) => some handle | _ => none

def acceptedGoalHandles (calls : List (Call Goal Result Feedback)) : List AcceptedGoalHandle :=
  calls.filterMap fun | .done (.accepted (.ok handle)) => some handle | _ => none

def executingGoalHandles (calls : List (Call Goal Result Feedback)) : List ExecutingGoalHandle :=
  calls.filterMap fun | .done (.executing (.ok handle)) => some handle | _ => none

def cancelHandles (calls : List (Call Goal Result Feedback)) : List CancelHandle :=
  calls.filterMap fun | .done (.cancelRequest (.ok handle)) => some handle | _ => none

/-- Handles have private fields: the application has only those that calls have returned, and
    copies of them. -/
def Operation.HasHandle (calls : List (Call Goal Result Feedback)) : Operation Result Feedback → Prop
  | .getNewGoal handle | .acceptGoal handle | .rejectGoal handle => handle ∈ newGoalHandles calls
  | .startExecutingGoal handle | .abortAcceptedGoal handle => handle ∈ acceptedGoalHandles calls
  | .publishFeedback handle _ | .sendResultResponse handle _ _ | .abortExecutingGoal handle =>
    handle ∈ executingGoalHandles calls
  | .respondToCancelRequests handle _ => handle ∈ cancelHandles calls
  | .receiveNewGoal | .receiveCancelRequest => True

instance (calls : List (Call Goal Result Feedback)) (operation : Operation Result Feedback) :
    Decidable (operation.HasHandle calls) :=
  match operation with
  | .getNewGoal handle | .acceptGoal handle | .rejectGoal handle =>
    inferInstanceAs (Decidable (handle ∈ newGoalHandles calls))
  | .startExecutingGoal handle | .abortAcceptedGoal handle =>
    inferInstanceAs (Decidable (handle ∈ acceptedGoalHandles calls))
  | .publishFeedback handle _ | .sendResultResponse handle _ _ | .abortExecutingGoal handle =>
    inferInstanceAs (Decidable (handle ∈ executingGoalHandles calls))
  | .respondToCancelRequests handle _ => inferInstanceAs (Decidable (handle ∈ cancelHandles calls))
  | .receiveNewGoal | .receiveCancelRequest => inferInstanceAs (Decidable True)

end Ros2Client
