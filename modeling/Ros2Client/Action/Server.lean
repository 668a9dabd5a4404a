import Std.Data.TreeMap.Lemmas
import Ros2Client.Action.Messages

open Std (TreeMap)

namespace Ros2Client

structure AsyncGoal (Goal : Type) where
  status : GoalStatusEnum
  acceptedTime : Option Time
  goal : Goal

structure NewGoalHandle where
  goalId : GoalId
  reqId : RmwRequestId
deriving DecidableEq

structure AcceptedGoalHandle where
  goalId : GoalId
deriving DecidableEq

structure ExecutingGoalHandle where
  goalId : GoalId
deriving DecidableEq

structure CancelHandle where
  reqId : RmwRequestId
  goals : List GoalId
deriving DecidableEq

structure AsyncActionServer (Goal : Type) where
  goals : TreeMap GoalId (AsyncGoal Goal)
  finishedGoals : List GoalId
  resultRequests : TreeMap GoalId RmwRequestId

namespace AsyncActionServer

variable {Goal : Type}

def new : AsyncActionServer Goal := ⟨∅, [], ∅⟩

def statusOf (server : AsyncActionServer Goal) (goalId : GoalId) : Option GoalStatusEnum :=
  server.goals[goalId]?.map (·.status)

def setStatus (server : AsyncActionServer Goal) (goalId : GoalId) (status : GoalStatusEnum) :
    AsyncActionServer Goal :=
  { server with goals := server.goals.modify goalId fun goal => { goal with status := status } }

def markGoalFinished (server : AsyncActionServer Goal) (goalId : GoalId) : AsyncActionServer Goal :=
  { server with finishedGoals := server.finishedGoals ++ [goalId] }

/-- The status of a flushed goal is only looked at by a debug assertion. -/
def flushFinisehdGoals (server : AsyncActionServer Goal) : AsyncActionServer Goal :=
  { server with
    goals := server.finishedGoals.foldl (fun goals goalId => goals.erase goalId) server.goals
    finishedGoals := [] }

def getNewGoal (server : AsyncActionServer Goal) (handle : NewGoalHandle) : Option Goal :=
  server.goals[handle.goalId]?.map (·.goal)

/-- The critical section of `receive_new_goal`: a duplicate goal id is discarded. -/
def insertNewGoal (server : AsyncActionServer Goal) (request : SendGoalRequest Goal) :
    Option (AsyncActionServer Goal) :=
  match server.goals[request.goalId]? with
  | none => some { server with goals := server.goals.insert request.goalId ⟨.unknown, none, request.goal⟩ }
  | some _ => none

def acceptGoal (server : AsyncActionServer Goal) (handle : NewGoalHandle) (now : Time) :
    Except GoalError (AsyncActionServer Goal) :=
  match server.goals[handle.goalId]? with
  | none => .error .noSuchGoal
  | some goal =>
    match goal.status with
    | .unknown => .ok { server with
        goals := server.goals.modify handle.goalId fun goal =>
          { goal with status := .accepted, acceptedTime := some now } }
    | _ => .error .wrongGoalState

def rejectGoal (server : AsyncActionServer Goal) (handle : NewGoalHandle) :
    Except GoalError (AsyncActionServer Goal) :=
  match server.statusOf handle.goalId with
  | none => .error .noSuchGoal
  | some .unknown => .ok { server with goals := server.goals.erase handle.goalId }
  | some _ => .error .wrongGoalState

def startExecutingGoal (server : AsyncActionServer Goal) (handle : AcceptedGoalHandle) :
    Except GoalError (AsyncActionServer Goal) :=
  match server.statusOf handle.goalId with
  | none => .error .noSuchGoal
  | some .accepted => .ok (server.setStatus handle.goalId .executing)
  | some _ => .error .wrongGoalState

def checkFeedback (server : AsyncActionServer Goal) (handle : ExecutingGoalHandle) : Except GoalError Unit :=
  match server.statusOf handle.goalId with
  | none => .error .noSuchGoal
  | some .executing => .ok ()
  | some _ => .error .wrongGoalState

def finishGoal (server : AsyncActionServer Goal) (goalId : GoalId) (status : GoalEndStatus) :
    Except GoalError (AsyncActionServer Goal) :=
  match server.statusOf goalId with
  | none => .error .noSuchGoal
  | some .accepted | some .executing | some .canceling => .ok (server.setStatus goalId status.toStatus)
  | some _ => .error .wrongGoalState

def abortGoal (server : AsyncActionServer Goal) (goalId : GoalId) :
    Except GoalError (AsyncActionServer Goal) :=
  match server.statusOf goalId with
  | none => .error .noSuchGoal
  | some .accepted | some .executing => .ok (server.setStatus goalId .aborted)
  | some _ => .error .wrongGoalState

def goalFilter (goalInfo : GoalInfo) (goalId : GoalId) (goal : AsyncGoal Goal) : Bool :=
  if goalInfo.goalId = GoalId.zero ∧ goalInfo.stamp = Time.zero then true
  else if goalInfo.goalId = GoalId.zero then
    (goal.acceptedTime.map fun accepted => decide (accepted < goalInfo.stamp)).getD false
  else if goalInfo.stamp = Time.zero then goalInfo.goalId = goalId
  else goalInfo.goalId = goalId ∨
    (goal.acceptedTime.map fun accepted => decide (accepted < goalInfo.stamp)).getD false

def cancelableGoals (server : AsyncActionServer Goal) (goalInfo : GoalInfo) : List GoalId :=
  server.goals.toList.filterMap fun (goalId, goal) =>
    if (goal.status = .executing ∨ goal.status = .accepted) ∧ goalFilter goalInfo goalId goal then
      some goalId
    else none

/-- One turn of the `filter_map` in `respond_to_cancel_requests`. Only the acceptance time is
    asked for, not the status. -/
def cancelingInfo (server : AsyncActionServer Goal) (goalId : GoalId) : Option GoalInfo :=
  server.goals[goalId]?.bind fun goal => goal.acceptedTime.map fun stamp => ⟨goalId, stamp⟩

def statusArray (server : AsyncActionServer Goal) : List GoalStatus :=
  server.goals.toList.map fun (goalId, goal) =>
    ⟨⟨goalId, goal.acceptedTime.getD Time.zero⟩, goal.status⟩

theorem modify_goals (server : AsyncActionServer Goal) (goalId other : GoalId)
    (change : AsyncGoal Goal → AsyncGoal Goal) :
    (server.goals.modify goalId change)[other]? =
      if goalId = other then server.goals[other]?.map change else server.goals[other]? := by
  rw [TreeMap.getElem?_modify]
  simp only [Std.compare_eq_iff_eq]
  split
  · rename_i same
    rw [same]
  · rfl

@[simp] theorem setStatus_goals (server : AsyncActionServer Goal) (goalId other : GoalId)
    (status : GoalStatusEnum) :
    (server.setStatus goalId status).goals[other]? =
      if goalId = other then server.goals[other]?.map fun goal => { goal with status := status }
      else server.goals[other]? :=
  server.modify_goals goalId other _

theorem flushFinisehdGoals_goals (server : AsyncActionServer Goal) (goalId : GoalId) :
    server.flushFinisehdGoals.goals[goalId]? =
      if goalId ∈ server.finishedGoals then none else server.goals[goalId]? := by
  have flushed : ∀ (finished : List GoalId) (goals : TreeMap GoalId (AsyncGoal Goal)),
      (finished.foldl (fun goals goalId => goals.erase goalId) goals)[goalId]? =
        if goalId ∈ finished then none else goals[goalId]? := by
    intro finished
    induction finished with
    | nil => simp
    | cons first rest ih =>
      intro goals
      rw [List.foldl_cons, ih, TreeMap.getElem?_erase]
      simp only [Std.compare_eq_iff_eq, List.mem_cons]
      by_cases same : first = goalId <;> by_cases member : goalId ∈ rest <;> grind
  exact flushed _ _

theorem insertNewGoal_some {server after : AsyncActionServer Goal} {request : SendGoalRequest Goal}
    (inserted : server.insertNewGoal request = some after) :
    server.goals[request.goalId]? = none ∧
      after = { server with goals := server.goals.insert request.goalId ⟨.unknown, none, request.goal⟩ } := by
  unfold insertNewGoal at inserted
  split at inserted
  · rename_i absent
    exact ⟨absent, (Option.some.inj inserted).symm⟩
  · cases inserted

theorem acceptGoal_ok {server after : AsyncActionServer Goal} {handle : NewGoalHandle} {now : Time}
    (accepted : server.acceptGoal handle now = .ok after) :
    server.statusOf handle.goalId = some .unknown ∧
      after = { server with
        goals := server.goals.modify handle.goalId fun goal =>
          { goal with status := .accepted, acceptedTime := some now } } := by
  unfold acceptGoal at accepted
  split at accepted
  · cases accepted
  · rename_i goal found
    split at accepted
    · rename_i status
      exact ⟨by simp [statusOf, found, status], (Except.ok.inj accepted).symm⟩
    · cases accepted

theorem rejectGoal_ok {server after : AsyncActionServer Goal} {handle : NewGoalHandle}
    (rejected : server.rejectGoal handle = .ok after) :
    server.statusOf handle.goalId = some .unknown ∧
      after = { server with goals := server.goals.erase handle.goalId } := by
  unfold rejectGoal at rejected
  split at rejected
  · cases rejected
  · rename_i status
    exact ⟨status, (Except.ok.inj rejected).symm⟩
  · cases rejected

theorem startExecutingGoal_ok {server after : AsyncActionServer Goal} {handle : AcceptedGoalHandle}
    (started : server.startExecutingGoal handle = .ok after) :
    server.statusOf handle.goalId = some .accepted ∧ after = server.setStatus handle.goalId .executing := by
  unfold startExecutingGoal at started
  split at started
  · cases started
  · rename_i status
    exact ⟨status, (Except.ok.inj started).symm⟩
  · cases started

theorem finishGoal_ok {server after : AsyncActionServer Goal} {goalId : GoalId} {status : GoalEndStatus}
    (finished : server.finishGoal goalId status = .ok after) :
    (server.statusOf goalId = some .accepted ∨ server.statusOf goalId = some .executing ∨
      server.statusOf goalId = some .canceling) ∧ after = server.setStatus goalId status.toStatus := by
  unfold finishGoal at finished
  split at finished
  · cases finished
  · rename_i status
    exact ⟨.inl status, (Except.ok.inj finished).symm⟩
  · rename_i status
    exact ⟨.inr (.inl status), (Except.ok.inj finished).symm⟩
  · rename_i status
    exact ⟨.inr (.inr status), (Except.ok.inj finished).symm⟩
  · cases finished

theorem finishGoal_error {server : AsyncActionServer Goal} {goalId : GoalId} {status : GoalEndStatus}
    {error : GoalError}
    (refused : server.finishGoal goalId status = .error error) : error = .noSuchGoal ∨ error = .wrongGoalState := by
  unfold finishGoal at refused
  split at refused
  · exact .inl (Except.error.inj refused).symm
  · cases refused
  · cases refused
  · cases refused
  · exact .inr (Except.error.inj refused).symm

theorem abortGoal_ok {server after : AsyncActionServer Goal} {goalId : GoalId}
    (aborted : server.abortGoal goalId = .ok after) :
    (server.statusOf goalId = some .accepted ∨ server.statusOf goalId = some .executing) ∧
      after = server.setStatus goalId .aborted := by
  unfold abortGoal at aborted
  split at aborted
  · cases aborted
  · rename_i status
    exact ⟨.inl status, (Except.ok.inj aborted).symm⟩
  · rename_i status
    exact ⟨.inr status, (Except.ok.inj aborted).symm⟩
  · cases aborted

structure SameBuffers (server after : AsyncActionServer Goal) : Prop where
  finishedGoals : after.finishedGoals = server.finishedGoals
  resultRequests : after.resultRequests = server.resultRequests

theorem insertNewGoal_buffers {server after : AsyncActionServer Goal} {request : SendGoalRequest Goal}
    (inserted : server.insertNewGoal request = some after) : SameBuffers server after := by
  obtain ⟨_, rfl⟩ := insertNewGoal_some inserted
  exact ⟨rfl, rfl⟩

theorem acceptGoal_buffers {server after : AsyncActionServer Goal} {handle : NewGoalHandle} {now : Time}
    (accepted : server.acceptGoal handle now = .ok after) : SameBuffers server after := by
  obtain ⟨_, rfl⟩ := acceptGoal_ok accepted
  exact ⟨rfl, rfl⟩

theorem rejectGoal_buffers {server after : AsyncActionServer Goal} {handle : NewGoalHandle}
    (rejected : server.rejectGoal handle = .ok after) : SameBuffers server after := by
  obtain ⟨_, rfl⟩ := rejectGoal_ok rejected
  exact ⟨rfl, rfl⟩

theorem startExecutingGoal_buffers {server after : AsyncActionServer Goal} {handle : AcceptedGoalHandle}
    (started : server.startExecutingGoal handle = .ok after) : SameBuffers server after := by
  obtain ⟨_, rfl⟩ := startExecutingGoal_ok started
  exact ⟨rfl, rfl⟩

theorem finishGoal_buffers {server after : AsyncActionServer Goal} {goalId : GoalId} {status : GoalEndStatus}
    (finished : server.finishGoal goalId status = .ok after) : SameBuffers server after := by
  obtain ⟨_, rfl⟩ := finishGoal_ok finished
  exact ⟨rfl, rfl⟩

theorem abortGoal_buffers {server after : AsyncActionServer Goal} {goalId : GoalId}
    (aborted : server.abortGoal goalId = .ok after) : SameBuffers server after := by
  obtain ⟨_, rfl⟩ := abortGoal_ok aborted
  exact ⟨rfl, rfl⟩

end AsyncActionServer

end Ros2Client
