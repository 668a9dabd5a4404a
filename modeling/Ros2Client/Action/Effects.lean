import Ros2Client.Action.Interleaving

open Std (TreeMap)

namespace Ros2Client

variable {Goal Result Feedback : Type}

def Event.accepts : Event Result Feedback → Option GoalId
  | .goalAccepted goalId => some goalId
  | _ => none

def Event.answers : Event Result Feedback → Option GoalId
  | .resultResponse goalId _ _ => some goalId
  | _ => none

@[simp] theorem goalAccepted_accepts (goalId : GoalId) :
    (Event.goalAccepted goalId : Event Result Feedback).accepts = some goalId := rfl

@[simp] theorem goalAccepted_answers (goalId : GoalId) :
    (Event.goalAccepted goalId : Event Result Feedback).answers = none := rfl

@[simp] theorem resultResponse_accepts (goalId : GoalId) (reqId : RmwRequestId)
    (response : GetResultResponse Result) :
    (Event.resultResponse goalId reqId response : Event Result Feedback).accepts = none := rfl

@[simp] theorem resultResponse_answers (goalId : GoalId) (reqId : RmwRequestId)
    (response : GetResultResponse Result) :
    (Event.resultResponse goalId reqId response : Event Result Feedback).answers = some goalId := rfl

def Unmentioned (goalId : GoalId) (events : List (Event Result Feedback)) : Prop :=
  ∀ event ∈ events, event.accepts ≠ some goalId ∧ event.answers ≠ some goalId

/-- Everything one step of a call can do to the entry of one goal. -/
inductive GoalEffect (call : Call Goal Result Feedback) (finishedGoals : List GoalId) (goalId : GoalId) :
    Option (AsyncGoal Goal) → Option (AsyncGoal Goal) → List (Event Result Feedback) → Prop
  | same {entry events} (unmentioned : Unmentioned goalId events) :
      GoalEffect call finishedGoals goalId entry entry events
  | received {goal} : GoalEffect call finishedGoals goalId none (some ⟨.unknown, none, goal⟩) []
  | accepted {entry} (now : Time) (status : entry.status = .unknown) :
      GoalEffect call finishedGoals goalId (some entry)
        (some { entry with status := .accepted, acceptedTime := some now }) [.goalAccepted goalId]
  | rejected {entry} (status : entry.status = .unknown) :
      GoalEffect call finishedGoals goalId (some entry) none []
  | started {entry} (status : entry.status = .accepted) :
      GoalEffect call finishedGoals goalId (some entry) (some { entry with status := .executing }) []
  | finished {entry events} (final : GoalEndStatus)
      (status : entry.status = .accepted ∨ entry.status = .executing ∨ entry.status = .canceling)
      (written : events = [] ∨ ∃ reqId response, events = [.resultResponse goalId reqId response]) :
      GoalEffect call finishedGoals goalId (some entry) (some { entry with status := final.toStatus }) events
  | aborted {entry} (status : entry.status = .accepted ∨ entry.status = .executing) :
      GoalEffect call finishedGoals goalId (some entry) (some { entry with status := .aborted }) []
  | canceling {entry handle goalInfo goalInfos all}
      (setting : call = .cancelSet handle (goalInfo :: goalInfos) all) (named : goalInfo.goalId = goalId) :
      GoalEffect call finishedGoals goalId (some entry) (some { entry with status := .canceling }) []
  | flushed {entry handle} (flushing : call = .getNewGoal handle) (marked : goalId ∈ finishedGoals) :
      GoalEffect call finishedGoals goalId (some entry) none []

theorem unmentioned_nil (goalId : GoalId) : Unmentioned goalId ([] : List (Event Result Feedback)) := by
  simp [Unmentioned]

theorem Unmentioned.singleton {goalId : GoalId} {event : Event Result Feedback}
    (accepts : event.accepts ≠ some goalId) (answers : event.answers ≠ some goalId) :
    Unmentioned goalId [event] := by
  intro other member
  rw [List.mem_singleton.mp member]
  exact ⟨accepts, answers⟩

theorem statusOf_some {server : AsyncActionServer Goal} {goalId : GoalId} {status : GoalStatusEnum}
    (found : server.statusOf goalId = some status) :
    ∃ entry, server.goals[goalId]? = some entry ∧ entry.status = status :=
  Option.map_eq_some_iff.mp found

section Effects

variable {call : Call Goal Result Feedback} {finishedGoals : List GoalId} {server after : AsyncActionServer Goal}

theorem insert_effect {request : SendGoalRequest Goal} (inserted : server.insertNewGoal request = some after)
    (goalId : GoalId) :
    GoalEffect call finishedGoals goalId server.goals[goalId]? after.goals[goalId]? [] := by
  obtain ⟨absent, rfl⟩ := AsyncActionServer.insertNewGoal_some inserted
  simp only [TreeMap.getElem?_insert, Std.compare_eq_iff_eq]
  by_cases same : request.goalId = goalId
  · subst same
    rw [absent, if_pos rfl]
    exact .received
  · rw [if_neg same]
    exact .same (unmentioned_nil goalId)

theorem accept_effect {handle : NewGoalHandle} {now : Time}
    (accepted : server.acceptGoal handle now = .ok after) (goalId : GoalId) :
    GoalEffect call finishedGoals goalId server.goals[goalId]? after.goals[goalId]?
      [.goalAccepted handle.goalId] := by
  obtain ⟨status, rfl⟩ := AsyncActionServer.acceptGoal_ok accepted
  simp only [AsyncActionServer.modify_goals]
  by_cases same : handle.goalId = goalId
  · subst same
    obtain ⟨entry, found, unknown⟩ := statusOf_some status
    rw [found, if_pos rfl]
    exact .accepted now unknown
  · rw [if_neg same]
    exact .same (.singleton (by simpa using same) (by simp))

theorem reject_effect {handle : NewGoalHandle} (rejected : server.rejectGoal handle = .ok after)
    (goalId : GoalId) :
    GoalEffect call finishedGoals goalId server.goals[goalId]? after.goals[goalId]? [] := by
  obtain ⟨status, rfl⟩ := AsyncActionServer.rejectGoal_ok rejected
  simp only [TreeMap.getElem?_erase, Std.compare_eq_iff_eq]
  by_cases same : handle.goalId = goalId
  · subst same
    obtain ⟨entry, found, unknown⟩ := statusOf_some status
    rw [found, if_pos rfl]
    exact .rejected unknown
  · rw [if_neg same]
    exact .same (unmentioned_nil goalId)

theorem start_effect {handle : AcceptedGoalHandle} (started : server.startExecutingGoal handle = .ok after)
    (goalId : GoalId) :
    GoalEffect call finishedGoals goalId server.goals[goalId]? after.goals[goalId]? [] := by
  obtain ⟨status, rfl⟩ := AsyncActionServer.startExecutingGoal_ok started
  rw [AsyncActionServer.setStatus_goals]
  by_cases same : handle.goalId = goalId
  · subst same
    obtain ⟨entry, found, accepted⟩ := statusOf_some status
    rw [found, if_pos rfl]
    exact .started accepted
  · rw [if_neg same]
    exact .same (unmentioned_nil goalId)

theorem finish_effect {finishedId : GoalId} {final : GoalEndStatus} {events : List (Event Result Feedback)}
    (finished : server.finishGoal finishedId final = .ok after)
    (written : events = [] ∨ ∃ reqId response, events = [.resultResponse finishedId reqId response])
    (goalId : GoalId) :
    GoalEffect call finishedGoals goalId server.goals[goalId]? after.goals[goalId]? events := by
  obtain ⟨status, rfl⟩ := AsyncActionServer.finishGoal_ok finished
  rw [AsyncActionServer.setStatus_goals]
  by_cases same : finishedId = goalId
  · subst same
    have present : ∃ entry, server.goals[finishedId]? = some entry ∧
        (entry.status = .accepted ∨ entry.status = .executing ∨ entry.status = .canceling) := by
      rcases status with status | status | status
      all_goals
        obtain ⟨entry, found, reached⟩ := statusOf_some status
        exact ⟨entry, found, by simp [reached]⟩
    obtain ⟨entry, found, unfinished⟩ := present
    rw [found, if_pos rfl]
    exact .finished final unfinished written
  · rw [if_neg same]
    apply GoalEffect.same
    rcases written with rfl | ⟨reqId, response, rfl⟩
    · exact unmentioned_nil goalId
    · exact .singleton (by simp) (by simpa using same)

theorem abort_effect {abortedId : GoalId} (aborted : server.abortGoal abortedId = .ok after) (goalId : GoalId) :
    GoalEffect call finishedGoals goalId server.goals[goalId]? after.goals[goalId]? [] := by
  obtain ⟨status, rfl⟩ := AsyncActionServer.abortGoal_ok aborted
  rw [AsyncActionServer.setStatus_goals]
  by_cases same : abortedId = goalId
  · subst same
    have present : ∃ entry, server.goals[abortedId]? = some entry ∧
        (entry.status = .accepted ∨ entry.status = .executing) := by
      rcases status with status | status
      all_goals
        obtain ⟨entry, found, reached⟩ := statusOf_some status
        exact ⟨entry, found, by simp [reached]⟩
    obtain ⟨entry, found, unfinished⟩ := present
    rw [found, if_pos rfl]
    exact .aborted unfinished
  · rw [if_neg same]
    exact .same (unmentioned_nil goalId)

theorem cancel_effect {handle : CancelHandle} {goalInfo : GoalInfo} {goalInfos all : List GoalInfo}
    (goalId : GoalId) :
    GoalEffect (.cancelSet handle (goalInfo :: goalInfos) all : Call Goal Result Feedback) finishedGoals goalId
      server.goals[goalId]? (server.setStatus goalInfo.goalId .canceling).goals[goalId]? [] := by
  rw [AsyncActionServer.setStatus_goals]
  by_cases same : goalInfo.goalId = goalId
  · rw [if_pos same]
    cases found : server.goals[goalId]? with
    | none => exact .same (unmentioned_nil goalId)
    | some entry => exact .canceling rfl same
  · rw [if_neg same]
    exact .same (unmentioned_nil goalId)

theorem flush_effect {handle : NewGoalHandle} (goalId : GoalId) :
    GoalEffect (.getNewGoal handle : Call Goal Result Feedback) server.finishedGoals goalId
      server.goals[goalId]? server.flushFinisehdGoals.goals[goalId]? [] := by
  rw [AsyncActionServer.flushFinisehdGoals_goals]
  by_cases marked : goalId ∈ server.finishedGoals
  · rw [if_pos marked]
    cases found : server.goals[goalId]? with
    | none => exact .same (unmentioned_nil goalId)
    | some entry => exact .flushed rfl marked
  · rw [if_neg marked]
    exact .same (unmentioned_nil goalId)

end Effects

/-- Each step changes each goal in one of the listed ways. -/
theorem advance_effect {server : AsyncActionServer Goal} {call : Call Goal Result Feedback}
    {input : Input Goal} {next : Advance Goal Result Feedback}
    (stepped : advance server call input = some next) (goalId : GoalId) :
    GoalEffect call server.finishedGoals goalId server.goals[goalId]? next.server.goals[goalId]? next.events := by
  cases advance_cases stepped with
  | received inserted => exact insert_effect inserted goalId
  | accepted accepted => exact accept_effect accepted goalId
  | rejected rejected => exact reject_effect rejected goalId
  | started started => exact start_effect started goalId
  | resultSent finished => exact finish_effect finished (.inr ⟨_, _, rfl⟩) goalId
  | resultUnsent finished => exact finish_effect finished (.inl rfl) goalId
  | aborted aborted => exact abort_effect aborted goalId
  | cancelSet => exact cancel_effect goalId
  | flushed => exact flush_effect goalId
  | acceptAnswered | rejectAnswered | feedbackSent | cancelAnswered | published =>
    exact .same (.singleton (by simp [Event.accepts]) (by simp [Event.answers]))
  -- Every other step leaves the table as it is and writes nothing.
  | _ => exact .same (unmentioned_nil goalId)

end Ros2Client
