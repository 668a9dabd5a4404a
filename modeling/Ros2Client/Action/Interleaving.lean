import Ros2Client.Action.Calls

open Transition

namespace Ros2Client

variable {Goal Result Feedback : Type}

structure Advance (Goal Result Feedback : Type) where
  server : AsyncActionServer Goal
  call : Call Goal Result Feedback
  events : List (Event Result Feedback)

def CancelGoalResponse.ofCanceling (canceling : List GoalInfo) : CancelGoalResponse :=
  ⟨if canceling.isEmpty then .rejected else .none, canceling⟩

def AfterPublish.call : AfterPublish → Call Goal Result Feedback
  | .acceptGoal handle now => .acceptRespond handle now
  | .startExecutingGoal handle => .done (.executing (.ok ⟨handle.goalId⟩))
  | .sendResultResponse goalId => .markGoalFinished goalId (.result goalId (.ok ()))
  | .abortGoal goalId => .markGoalFinished goalId (.aborted goalId (.ok ()))
  | .respondToCancelRequests handle canceling => .cancelRespond handle canceling

/-- The steps of each method, from one critical section or await to the next. A call that waits
    for something its input does not bring takes no step. -/
def advance (server : AsyncActionServer Goal) :
    Call Goal Result Feedback → Input Goal → Option (Advance Goal Result Feedback)
  | .receiveNewGoal, .readError => some ⟨server, .done (.newGoal (.error .ddsReadError)), []⟩
  | .receiveNewGoal, .goalRequest reqId request =>
    match server.insertNewGoal request with
    | some after => some ⟨after, .done (.newGoal (.ok ⟨request.goalId, reqId⟩)), []⟩
    | none => some ⟨server, .receiveNewGoal, []⟩
  | .getNewGoal handle, .silent => some ⟨server.flushFinisehdGoals, .getNewGoalFlushed handle, []⟩
  | .getNewGoalFlushed handle, .silent => some ⟨server, .done (.goal (server.getNewGoal handle)), []⟩
  | .acceptGoal handle, .now time =>
    match server.acceptGoal handle time with
    | .ok after => some ⟨after, .publishStatuses (.acceptGoal handle time), [.goalAccepted handle.goalId]⟩
    | .error error => some ⟨server, .done (.accepted (.error error)), []⟩
  | .acceptRespond handle time, .written ok =>
    if ok then some ⟨server, .done (.accepted (.ok ⟨handle.goalId⟩)), [.goalResponse handle.reqId ⟨true, time⟩]⟩
    else some ⟨server, .done (.accepted (.error .ddsWriteError)), []⟩
  | .rejectGoal handle, .silent =>
    match server.rejectGoal handle with
    | .ok after => some ⟨after, .rejectStamp handle, []⟩
    | .error error => some ⟨server, .done (.rejected (.error error)), []⟩
  | .rejectStamp handle, .now time => some ⟨server, .rejectRespond handle time, []⟩
  | .rejectRespond handle time, .written ok =>
    if ok then some ⟨server, .done (.rejected (.ok ())), [.goalResponse handle.reqId ⟨false, time⟩]⟩
    else some ⟨server, .done (.rejected (.error .ddsWriteError)), []⟩
  | .startExecutingGoal handle, .silent =>
    match server.startExecutingGoal handle with
    | .ok after => some ⟨after, .publishStatuses (.startExecutingGoal handle), []⟩
    | .error error => some ⟨server, .done (.executing (.error error)), []⟩
  | .publishFeedback handle feedback, .written ok =>
    match server.checkFeedback handle with
    | .ok () =>
      if ok then some ⟨server, .done (.feedback (.ok ())), [.feedback ⟨handle.goalId, feedback⟩]⟩
      else some ⟨server, .done (.feedback (.error .ddsWriteError)), []⟩
    | .error error => some ⟨server, .done (.feedback (.error error)), []⟩
  -- First look into the buffer, where a call for another goal may have put the request.
  | .sendResultResponse handle status result, .silent =>
    match server.resultRequests[handle.goalId]? with
    | some reqId => some ⟨server, .resultFinish handle status result reqId, []⟩
    | none => some ⟨server, .resultStream handle status result, []⟩
  | .resultStream handle status result, .silent => some ⟨server, .resultWait handle status result, []⟩
  | .resultWait handle _ _, .readError =>
    some ⟨server, .done (.result handle.goalId (.error .ddsReadError)), []⟩
  | .resultWait handle status result, .resultRequest reqId goalId =>
    some ⟨server, .resultTaken handle status result reqId goalId, []⟩
  | .resultTaken handle status result reqId goalId, .silent =>
    if goalId = handle.goalId then some ⟨server, .resultFinish handle status result reqId, []⟩
    else some ⟨{ server with resultRequests := server.resultRequests.insert goalId reqId },
      .resultWait handle status result, []⟩
  -- The response is written under the lock, after the status has been set.
  | .resultFinish handle status result reqId, .written ok =>
    match server.finishGoal handle.goalId status with
    | .ok after =>
      if ok then some ⟨after, .publishStatuses (.sendResultResponse handle.goalId),
        [.resultResponse handle.goalId reqId ⟨status.toStatus, result⟩]⟩
      else some ⟨after, .done (.result handle.goalId (.error .ddsWriteError)), []⟩
    | .error error => some ⟨server, .done (.result handle.goalId (.error error)), []⟩
  | .abortGoal goalId, .silent =>
    match server.abortGoal goalId with
    | .ok after => some ⟨after, .publishStatuses (.abortGoal goalId), []⟩
    | .error error => some ⟨server, .done (.aborted goalId (.error error)), []⟩
  | .markGoalFinished goalId outcome, .silent => some ⟨server.markGoalFinished goalId, .done outcome, []⟩
  | .receiveCancelRequest, .readError => some ⟨server, .done (.cancelRequest (.error .ddsReadError)), []⟩
  | .receiveCancelRequest, .cancelRequest reqId goalInfo => some ⟨server, .cancelSelect reqId goalInfo, []⟩
  | .cancelSelect reqId goalInfo, .silent =>
    some ⟨server, .done (.cancelRequest (.ok ⟨reqId, server.cancelableGoals goalInfo⟩)), []⟩
  | .cancelCollect handle [] canceling, .silent => some ⟨server, .cancelSet handle canceling canceling, []⟩
  | .cancelCollect handle (goalId :: goalIds) canceling, .silent =>
    some ⟨server, .cancelCollect handle goalIds (canceling ++ (server.cancelingInfo goalId).toList), []⟩
  | .cancelSet handle [] canceling, .silent =>
    some ⟨server, .publishStatuses (.respondToCancelRequests handle canceling), []⟩
  | .cancelSet handle (goalInfo :: goalInfos) canceling, .silent =>
    some ⟨server.setStatus goalInfo.goalId .canceling, .cancelSet handle goalInfos canceling, []⟩
  | .cancelRespond handle canceling, .written ok =>
    if ok then some ⟨server, .done (.cancelResponse (.ok ())),
      [.cancelResponse handle.reqId (.ofCanceling canceling)]⟩
    else some ⟨server, .done (.cancelResponse (.error .ddsWriteError)), []⟩
  | .publishStatuses next, .silent => some ⟨server, .publishSend server.statusArray next, []⟩
  -- A failed status write is logged and otherwise ignored.
  | .publishSend statusList next, .written ok =>
    some ⟨server, next.call, if ok then [.statuses statusList] else []⟩
  | _, _ => none

inductive Advances (server : AsyncActionServer Goal) :
    Call Goal Result Feedback → Input Goal → Advance Goal Result Feedback → Prop
  | newGoalUnread : Advances server .receiveNewGoal .readError ⟨server, .done (.newGoal (.error .ddsReadError)), []⟩
  | received {reqId request after} (inserted : server.insertNewGoal request = some after) :
      Advances server .receiveNewGoal (.goalRequest reqId request)
        ⟨after, .done (.newGoal (.ok ⟨request.goalId, reqId⟩)), []⟩
  | duplicate {reqId request} (known : server.insertNewGoal request = none) :
      Advances server .receiveNewGoal (.goalRequest reqId request) ⟨server, .receiveNewGoal, []⟩
  | flushed {handle} :
      Advances server (.getNewGoal handle) .silent ⟨server.flushFinisehdGoals, .getNewGoalFlushed handle, []⟩
  | gotNewGoal {handle} :
      Advances server (.getNewGoalFlushed handle) .silent ⟨server, .done (.goal (server.getNewGoal handle)), []⟩
  | accepted {handle time after} (accepted : server.acceptGoal handle time = .ok after) :
      Advances server (.acceptGoal handle) (.now time)
        ⟨after, .publishStatuses (.acceptGoal handle time), [.goalAccepted handle.goalId]⟩
  | acceptRefused {handle time error} (refused : server.acceptGoal handle time = .error error) :
      Advances server (.acceptGoal handle) (.now time) ⟨server, .done (.accepted (.error error)), []⟩
  | acceptAnswered {handle time} :
      Advances server (.acceptRespond handle time) (.written true)
        ⟨server, .done (.accepted (.ok ⟨handle.goalId⟩)), [.goalResponse handle.reqId ⟨true, time⟩]⟩
  | acceptUnanswered {handle time} :
      Advances server (.acceptRespond handle time) (.written false)
        ⟨server, .done (.accepted (.error .ddsWriteError)), []⟩
  | rejected {handle after} (rejected : server.rejectGoal handle = .ok after) :
      Advances server (.rejectGoal handle) .silent ⟨after, .rejectStamp handle, []⟩
  | rejectRefused {handle error} (refused : server.rejectGoal handle = .error error) :
      Advances server (.rejectGoal handle) .silent ⟨server, .done (.rejected (.error error)), []⟩
  | rejectStamped {handle time} :
      Advances server (.rejectStamp handle) (.now time) ⟨server, .rejectRespond handle time, []⟩
  | rejectAnswered {handle time} :
      Advances server (.rejectRespond handle time) (.written true)
        ⟨server, .done (.rejected (.ok ())), [.goalResponse handle.reqId ⟨false, time⟩]⟩
  | rejectUnanswered {handle time} :
      Advances server (.rejectRespond handle time) (.written false)
        ⟨server, .done (.rejected (.error .ddsWriteError)), []⟩
  | started {handle after} (started : server.startExecutingGoal handle = .ok after) :
      Advances server (.startExecutingGoal handle) .silent
        ⟨after, .publishStatuses (.startExecutingGoal handle), []⟩
  | startRefused {handle error} (refused : server.startExecutingGoal handle = .error error) :
      Advances server (.startExecutingGoal handle) .silent ⟨server, .done (.executing (.error error)), []⟩
  | feedbackSent {handle feedback} (checked : server.checkFeedback handle = .ok ()) :
      Advances server (.publishFeedback handle feedback) (.written true)
        ⟨server, .done (.feedback (.ok ())), [.feedback ⟨handle.goalId, feedback⟩]⟩
  | feedbackUnsent {handle feedback} (checked : server.checkFeedback handle = .ok ()) :
      Advances server (.publishFeedback handle feedback) (.written false)
        ⟨server, .done (.feedback (.error .ddsWriteError)), []⟩
  | feedbackRefused {handle feedback ok error} (refused : server.checkFeedback handle = .error error) :
      Advances server (.publishFeedback handle feedback) (.written ok) ⟨server, .done (.feedback (.error error)), []⟩
  | requestFound {handle status result reqId} (found : server.resultRequests[handle.goalId]? = some reqId) :
      Advances server (.sendResultResponse handle status result) .silent
        ⟨server, .resultFinish handle status result reqId, []⟩
  | requestMissing {handle status result} (missing : server.resultRequests[handle.goalId]? = none) :
      Advances server (.sendResultResponse handle status result) .silent
        ⟨server, .resultStream handle status result, []⟩
  | streamed {handle status result} :
      Advances server (.resultStream handle status result) .silent ⟨server, .resultWait handle status result, []⟩
  | requestUnread {handle status result} :
      Advances server (.resultWait handle status result) .readError
        ⟨server, .done (.result handle.goalId (.error .ddsReadError)), []⟩
  | requestTaken {handle status result reqId goalId} :
      Advances server (.resultWait handle status result) (.resultRequest reqId goalId)
        ⟨server, .resultTaken handle status result reqId goalId, []⟩
  | requestOwn {handle status result reqId} :
      Advances server (.resultTaken handle status result reqId handle.goalId) .silent
        ⟨server, .resultFinish handle status result reqId, []⟩
  | requestStored {handle status result reqId goalId} (foreign : goalId ≠ handle.goalId) :
      Advances server (.resultTaken handle status result reqId goalId) .silent
        ⟨{ server with resultRequests := server.resultRequests.insert goalId reqId },
          .resultWait handle status result, []⟩
  | resultSent {handle status result reqId after} (finished : server.finishGoal handle.goalId status = .ok after) :
      Advances server (.resultFinish handle status result reqId) (.written true)
        ⟨after, .publishStatuses (.sendResultResponse handle.goalId),
          [.resultResponse handle.goalId reqId ⟨status.toStatus, result⟩]⟩
  | resultUnsent {handle status result reqId after} (finished : server.finishGoal handle.goalId status = .ok after) :
      Advances server (.resultFinish handle status result reqId) (.written false)
        ⟨after, .done (.result handle.goalId (.error .ddsWriteError)), []⟩
  | resultRefused {handle status result reqId ok error}
      (refused : server.finishGoal handle.goalId status = .error error) :
      Advances server (.resultFinish handle status result reqId) (.written ok)
        ⟨server, .done (.result handle.goalId (.error error)), []⟩
  | aborted {goalId after} (aborted : server.abortGoal goalId = .ok after) :
      Advances server (.abortGoal goalId) .silent ⟨after, .publishStatuses (.abortGoal goalId), []⟩
  | abortRefused {goalId error} (refused : server.abortGoal goalId = .error error) :
      Advances server (.abortGoal goalId) .silent ⟨server, .done (.aborted goalId (.error error)), []⟩
  | marked {goalId outcome} :
      Advances server (.markGoalFinished goalId outcome) .silent ⟨server.markGoalFinished goalId, .done outcome, []⟩
  | cancelUnread :
      Advances server .receiveCancelRequest .readError ⟨server, .done (.cancelRequest (.error .ddsReadError)), []⟩
  | cancelReceived {reqId goalInfo} :
      Advances server .receiveCancelRequest (.cancelRequest reqId goalInfo) ⟨server, .cancelSelect reqId goalInfo, []⟩
  | cancelSelected {reqId goalInfo} :
      Advances server (.cancelSelect reqId goalInfo) .silent
        ⟨server, .done (.cancelRequest (.ok ⟨reqId, server.cancelableGoals goalInfo⟩)), []⟩
  | collected {handle canceling} :
      Advances server (.cancelCollect handle [] canceling) .silent ⟨server, .cancelSet handle canceling canceling, []⟩
  | collecting {handle goalId goalIds canceling} :
      Advances server (.cancelCollect handle (goalId :: goalIds) canceling) .silent
        ⟨server, .cancelCollect handle goalIds (canceling ++ (server.cancelingInfo goalId).toList), []⟩
  | cancelsSet {handle canceling} :
      Advances server (.cancelSet handle [] canceling) .silent
        ⟨server, .publishStatuses (.respondToCancelRequests handle canceling), []⟩
  | cancelSet {handle goalInfo goalInfos canceling} :
      Advances server (.cancelSet handle (goalInfo :: goalInfos) canceling) .silent
        ⟨server.setStatus goalInfo.goalId .canceling, .cancelSet handle goalInfos canceling, []⟩
  | cancelAnswered {handle canceling} :
      Advances server (.cancelRespond handle canceling) (.written true)
        ⟨server, .done (.cancelResponse (.ok ())), [.cancelResponse handle.reqId (.ofCanceling canceling)]⟩
  | cancelUnanswered {handle canceling} :
      Advances server (.cancelRespond handle canceling) (.written false)
        ⟨server, .done (.cancelResponse (.error .ddsWriteError)), []⟩
  | publishing {next} :
      Advances server (.publishStatuses next) .silent ⟨server, .publishSend server.statusArray next, []⟩
  | published {statusList next} :
      Advances server (.publishSend statusList next) (.written true) ⟨server, next.call, [.statuses statusList]⟩
  | unpublished {statusList next} :
      Advances server (.publishSend statusList next) (.written false) ⟨server, next.call, []⟩

theorem advance_cases {server : AsyncActionServer Goal} {call : Call Goal Result Feedback} {input : Input Goal}
    {next : Advance Goal Result Feedback} (stepped : advance server call input = some next) :
    Advances server call input next := by
  unfold advance at stepped
  split at stepped
  all_goals (repeat' split at stepped)
  all_goals cases stepped
  all_goals try simp only [Bool.not_eq_true] at *
  all_goals subst_vars
  all_goals constructor
  all_goals assumption

/-- The awaits at which an executor may drop the future. -/
def Call.Suspended : Call Goal Result Feedback → Bool
  | .receiveNewGoal | .resultWait .. | .receiveCancelRequest | .cancelRespond .. => true
  | _ => false

structure ServerState (Goal Result Feedback : Type) where
  server : AsyncActionServer Goal
  calls : List (Call Goal Result Feedback)
  events : List (Event Result Feedback)

inductive ServerLabel (Goal Result Feedback : Type)
  | start (operation : Operation Result Feedback)
  | advance (call : Nat) (input : Input Goal)
  | drop (call : Nat)

abbrev ServerPast (Goal Result Feedback : Type) :=
  List (ServerState Goal Result Feedback × ServerLabel Goal Result Feedback)

def ServerState.step (state : ServerState Goal Result Feedback) :
    ServerLabel Goal Result Feedback → Option (ServerState Goal Result Feedback)
  | .start operation =>
    if operation.HasHandle state.calls then some { state with calls := state.calls ++ [operation.call] }
    else none
  | .advance index input =>
    state.calls[index]?.bind fun call =>
      (Ros2Client.advance state.server call input).map fun next =>
        { server := next.server
          calls := state.calls.set index next.call
          events := state.events ++ next.events }
  | .drop index =>
    state.calls[index]?.bind fun call =>
      if call.Suspended then some { state with calls := state.calls.set index .dropped } else none

theorem ServerState.step_cases {state after : ServerState Goal Result Feedback}
    {label : ServerLabel Goal Result Feedback} (stepped : state.step label = some after) :
    (∃ operation, label = .start operation ∧ operation.HasHandle state.calls ∧
      after = { state with calls := state.calls ++ [operation.call] }) ∨
    (∃ index input call next, label = .advance index input ∧ state.calls[index]? = some call ∧
      Ros2Client.advance state.server call input = some next ∧
      after = ⟨next.server, state.calls.set index next.call, state.events ++ next.events⟩) ∨
    (∃ index call, label = .drop index ∧ state.calls[index]? = some call ∧ call.Suspended = true ∧
      after = { state with calls := state.calls.set index .dropped }) := by
  cases label with
  | start operation =>
    simp only [step, Option.ite_none_right_eq_some, Option.some.injEq] at stepped
    exact .inl ⟨operation, rfl, stepped.1, stepped.2.symm⟩
  | advance index input =>
    obtain ⟨call, found, advanced⟩ := Option.bind_eq_some_iff.mp stepped
    obtain ⟨next, moved, same⟩ := Option.map_eq_some_iff.mp advanced
    exact .inr (.inl ⟨index, input, call, next, rfl, found, moved, same.symm⟩)
  | drop index =>
    obtain ⟨call, found, dropped⟩ := Option.bind_eq_some_iff.mp stepped
    simp only [Option.ite_none_right_eq_some, Option.some.injEq] at dropped
    exact .inr (.inr ⟨index, call, rfl, found, dropped.1, dropped.2.symm⟩)

/-- Any number of calls of one `AsyncActionServer`, in any interleaving of their steps. -/
def actionServer (Goal Result Feedback : Type) :
    System (ServerState Goal Result Feedback) (ServerLabel Goal Result Feedback) where
  initial := ⟨.new, [], []⟩
  step := ServerState.step

def exampleRequest (number : Int64) : RmwRequestId := ⟨⟨List.replicate 16 1, rfl⟩, ⟨number⟩⟩

end Ros2Client
