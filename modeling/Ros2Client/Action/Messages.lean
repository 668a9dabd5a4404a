import Ros2Client.Service.Identity

namespace Ros2Client

/-- `unique_identifier_msgs::UUID`; the order of the octets is the order of the number. -/
abbrev GoalId := BitVec 128

def GoalId.zero : GoalId := 0

structure GoalInfo where
  goalId : GoalId
  stamp : Time
deriving DecidableEq

structure CancelGoalRequest where
  goalInfo : GoalInfo
deriving DecidableEq

/-- `unknown` also stands for a goal that is new. -/
inductive GoalStatusEnum
  | unknown
  | accepted
  | executing
  | canceling
  | succeeded
  | canceled
  | aborted
deriving DecidableEq

structure GoalStatus where
  goalInfo : GoalInfo
  status : GoalStatusEnum
deriving DecidableEq

inductive CancelGoalResponseEnum
  | none
  | rejected
  | unknownGoal
  | goalTerminated
deriving DecidableEq

structure CancelGoalResponse where
  returnCode : CancelGoalResponseEnum
  goalsCanceling : List GoalInfo
deriving DecidableEq

structure SendGoalRequest (Goal : Type) where
  goalId : GoalId
  goal : Goal
deriving DecidableEq

structure SendGoalResponse where
  accepted : Bool
  stamp : Time
deriving DecidableEq

structure GetResultRequest where
  goalId : GoalId
deriving DecidableEq

structure GetResultResponse (Result : Type) where
  status : GoalStatusEnum
  result : Result
deriving DecidableEq

structure FeedbackMessage (Feedback : Type) where
  goalId : GoalId
  feedback : Feedback
deriving DecidableEq

inductive GoalEndStatus
  | succeeded
  | aborted
  | canceled
deriving DecidableEq

def GoalEndStatus.toStatus : GoalEndStatus → GoalStatusEnum
  | .succeeded => .succeeded
  | .aborted => .aborted
  | .canceled => .canceled

inductive GoalError
  | noSuchGoal
  | wrongGoalState
  | ddsReadError
  | ddsWriteError
deriving DecidableEq

end Ros2Client
