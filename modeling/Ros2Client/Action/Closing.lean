import Ros2Client.Action.Promises

open Transition
open Std (TreeMap)

namespace Ros2Client

variable {Goal Result Feedback : Type}

def AsyncActionServer.Closed (server : AsyncActionServer Goal) (goalId : GoalId) : Prop :=
  ∀ status, server.statusOf goalId = some status → status ≠ .unknown ∧ status ≠ .accepted ∧ status ≠ .executing

theorem AsyncActionServer.Closed.not_executing {server : AsyncActionServer Goal} {goalId : GoalId}
    (closed : server.Closed goalId) : server.statusOf goalId ≠ some .executing :=
  fun executing => (closed _ executing).2.2 rfl

theorem GoalEffect.closed {call : Call Goal Result Feedback} {finishedGoals : List GoalId} {goalId : GoalId}
    {before after : Option (AsyncGoal Goal)} {events : List (Event Result Feedback)}
    (effect : GoalEffect call finishedGoals goalId before after events)
    (closed : ∀ status, before.map (·.status) = some status →
      status ≠ .unknown ∧ status ≠ .accepted ∧ status ≠ .executing) :
    (∀ status, after.map (·.status) = some status →
      status ≠ .unknown ∧ status ≠ .accepted ∧ status ≠ .executing) ∨ (before = none ∧ after ≠ none) := by
  cases effect with
  | same _ => exact .inl closed
  | received => exact .inr ⟨rfl, by simp⟩
  | accepted _ status | rejected status => exact absurd status (closed _ rfl).1
  | started status => exact absurd status (closed _ rfl).2.1
  | finished final _ _ =>
    left
    rintro status ⟨⟩
    cases final <;> simp [GoalEndStatus.toStatus]
  | aborted _ | canceling _ _ =>
    left
    rintro status ⟨⟩
    simp
  | flushed _ _ =>
    left
    rintro status ⟨⟩

def AfterPublish.Cancels (goalId : GoalId) : AfterPublish → Prop
  | .respondToCancelRequests _ canceling => goalId ∈ canceling.map (·.goalId)
  | _ => False

/-- The call has set the status of the goal to canceling and will name the goal in its answer. -/
def Call.Cancels (goalId : GoalId) : Call Goal Result Feedback → Prop
  | .cancelSet _ remaining canceling => goalId ∈ canceling.map (·.goalId) ∧ goalId ∉ remaining.map (·.goalId)
  | .cancelRespond _ canceling => goalId ∈ canceling.map (·.goalId)
  | .publishStatuses next | .publishSend _ next => next.Cancels goalId
  | _ => False

theorem advance_cancels {server : AsyncActionServer Goal} {call : Call Goal Result Feedback} {input : Input Goal}
    {next : Advance Goal Result Feedback} (stepped : advance server call input = some next) {goalId : GoalId}
    (cancels : next.call.Cancels goalId) :
    call.Cancels goalId ∨
      (next.server = server.setStatus goalId .canceling ∧ goalId ∈ call.canceling.map (·.goalId)) := by
  cases advance_cases stepped with
  | collected => exact absurd cancels.1 cancels.2
  | @cancelSet handle goalInfo goalInfos canceling =>
    by_cases own : goalInfo.goalId = goalId
    · subst own
      exact .inr ⟨rfl, cancels.1⟩
    · refine .inl ⟨cancels.1, ?_⟩
      rw [List.map_cons, List.mem_cons, not_or]
      exact ⟨Ne.symm own, cancels.2⟩
  | cancelsSet => exact .inl ⟨cancels, List.not_mem_nil⟩
  | publishing => exact .inl cancels
  | @published _ following | @unpublished _ following =>
    cases following with
    | respondToCancelRequests => exact .inl cancels
    | _ => exact cancels.elim
  | _ => exact cancels.elim

/-- The goal has been requested once and for all, and is closed. -/
structure ServerState.Retired (state : ServerState Goal Result Feedback) (past : ServerPast Goal Result Feedback)
    (goalId : GoalId) : Prop where
  requested : goalId ∈ requestedGoals past
  closed : state.server.Closed goalId

def CancelGoalResponse.Names (response : CancelGoalResponse) (goalId : GoalId) : Prop :=
  goalId ∈ response.goalsCanceling.map (·.goalId)

structure ServerState.Closing (state : ServerState Goal Result Feedback) (past : ServerPast Goal Result Feedback) :
    Prop where
  present : ∀ goalId, state.server.goals[goalId]? ≠ none → goalId ∈ requestedGoals past
  named : ∀ call ∈ state.calls, ∀ goalId ∈ call.canceling.map (·.goalId), goalId ∈ requestedGoals past
  setting : ∀ call ∈ state.calls, ∀ goalId, call.Cancels goalId → state.Retired past goalId
  ended : ∀ goalId reqId response, .resultResponse goalId reqId response ∈ state.events → state.Retired past goalId
  canceled : ∀ goalId reqId response, .cancelResponse reqId response ∈ state.events → response.Names goalId →
    state.Retired past goalId

section Steps

variable {state after : ServerState Goal Result Feedback} {past : ServerPast Goal Result Feedback}
  {label : ServerLabel Goal Result Feedback} {goalId : GoalId}

theorem requested_later (requested : goalId ∈ requestedGoals past)
    (entry : ServerState Goal Result Feedback × ServerLabel Goal Result Feedback) :
    goalId ∈ requestedGoals (entry :: past) :=
  ((goalRequests_cons entry).map _).subset requested

theorem dates_present {server : AsyncActionServer Goal} {goalInfo : GoalInfo} (dated : server.Dates goalInfo) :
    server.goals[goalInfo.goalId]? ≠ none := by
  obtain ⟨entry, found, _⟩ := dated
  simp [found]

theorem status_present {server : AsyncActionServer Goal} {status : GoalStatusEnum}
    (found : server.statusOf goalId = some status) : server.goals[goalId]? ≠ none := by
  obtain ⟨entry, present, _⟩ := statusOf_some found
  simp [present]

/-- Goal ids are not requested twice, so that a retired goal does not come back. -/
theorem ServerState.Retired.step (retired : state.Retired past goalId)
    (distinct : (requestedGoals ((state, label) :: past)).Nodup) (stepped : state.step label = some after) :
    after.Retired ((state, label) :: past) goalId := by
  refine ⟨requested_later retired.requested _, ?_⟩
  rcases step_moves stepped with ⟨same, _, _⟩ | ⟨index, input, call, next, rfl, _, moved, same, _⟩
  · rw [same]
    exact retired.closed
  · rw [same]
    rcases (advance_effect moved goalId).closed retired.closed with closed | ⟨absent, present⟩
    · exact closed
    · obtain ⟨reqId, request, rfl, rfl⟩ := advance_appears moved absent present
      exact absurd retired.requested (distinct_request distinct)

theorem setStatus_closed (server : AsyncActionServer Goal) : (server.setStatus goalId .canceling).Closed goalId := by
  intro status found
  obtain ⟨entry, present, rfl⟩ := statusOf_some found
  rw [AsyncActionServer.setStatus_goals, if_pos rfl] at present
  obtain ⟨entry', _, rfl⟩ := Option.map_eq_some_iff.mp present
  simp

theorem finishGoal_closed {server after : AsyncActionServer Goal} {status : GoalEndStatus}
    (finished : server.finishGoal goalId status = .ok after) :
    server.goals[goalId]? ≠ none ∧ after.Closed goalId := by
  obtain ⟨unfinished, rfl⟩ := AsyncActionServer.finishGoal_ok finished
  refine ⟨by rcases unfinished with found | found | found <;> exact status_present found, ?_⟩
  intro status' found
  obtain ⟨entry, present, rfl⟩ := statusOf_some found
  rw [AsyncActionServer.setStatus_goals, if_pos rfl] at present
  obtain ⟨entry', _, rfl⟩ := Option.map_eq_some_iff.mp present
  cases status <;> simp [GoalEndStatus.toStatus]

theorem ServerState.Closing.present_step (closing : state.Closing past) (stepped : state.step label = some after)
    (present : after.server.goals[goalId]? ≠ none) : goalId ∈ requestedGoals ((state, label) :: past) := by
  by_cases absent : state.server.goals[goalId]? = none
  · rcases step_moves stepped with ⟨same, _, _⟩ | ⟨index, input, call, next, rfl, _, moved, same, _⟩
    · rw [same] at present
      exact absurd absent present
    · rw [same] at present
      obtain ⟨reqId, request, rfl, rfl⟩ := advance_appears moved absent present
      exact (arrived_request reqId request).requested
  · exact requested_later (closing.present goalId absent) _

theorem ServerState.Closing.named_step (closing : state.Closing past) (stepped : state.step label = some after) :
    ∀ call ∈ after.calls, ∀ goalId ∈ call.canceling.map (·.goalId),
      goalId ∈ requestedGoals ((state, label) :: past) := by
  intro call member goalId listed
  obtain ⟨goalInfo, named, rfl⟩ := List.mem_map.mp listed
  rcases step_call stepped member with
    earlier | ⟨operation, rfl, _, rfl⟩ | ⟨index, input, moving, next, rfl, present, moved, rfl, _, _⟩ | rfl
  · exact requested_later (closing.named call earlier _ listed) _
  · cases operation <;> cases named
  · rcases advance_canceling moved named with earlier | dated
    · exact requested_later (closing.named moving present _ (List.mem_map_of_mem earlier)) _
    · exact requested_later (closing.present _ (dates_present dated)) _
  · cases named

theorem ServerState.Closing.setting_step (closing : state.Closing past)
    (distinct : (requestedGoals ((state, label) :: past)).Nodup) (stepped : state.step label = some after) :
    ∀ call ∈ after.calls, ∀ goalId, call.Cancels goalId → after.Retired ((state, label) :: past) goalId := by
  intro call member goalId cancels
  rcases step_call stepped member with
    earlier | ⟨operation, rfl, _, rfl⟩ | ⟨index, input, moving, next, rfl, present, moved, rfl, same, _⟩ | rfl
  · exact (closing.setting call earlier goalId cancels).step distinct stepped
  · cases operation <;> exact cancels.elim
  · rcases advance_cancels moved cancels with earlier | ⟨set, listed⟩
    · exact (closing.setting moving present goalId earlier).step distinct stepped
    · refine ⟨requested_later (closing.named moving present goalId listed) _, ?_⟩
      rw [same, set]
      exact setStatus_closed state.server
  · exact cancels.elim

theorem ServerState.Closing.ended_step (closing : state.Closing past)
    (distinct : (requestedGoals ((state, label) :: past)).Nodup) (stepped : state.step label = some after) :
    ∀ goalId reqId response, .resultResponse goalId reqId response ∈ after.events →
      after.Retired ((state, label) :: past) goalId := by
  intro goalId reqId response member
  rcases event_origin stepped member with earlier | new
  · exact (closing.ended goalId reqId response earlier).step distinct stepped
  · cases new with
    | result _ finished =>
      obtain ⟨present, closed⟩ := finishGoal_closed finished
      exact ⟨requested_later (closing.present _ present) _, closed⟩

theorem ServerState.Closing.canceled_step (closing : state.Closing past)
    (distinct : (requestedGoals ((state, label) :: past)).Nodup) (stepped : state.step label = some after) :
    ∀ goalId reqId response, .cancelResponse reqId response ∈ after.events → response.Names goalId →
      after.Retired ((state, label) :: past) goalId := by
  intro goalId reqId response member names
  rcases event_origin stepped member with earlier | new
  · exact (closing.canceled goalId reqId response earlier names).step distinct stepped
  · cases new with
    | cancels found => exact (closing.setting _ (List.mem_of_getElem? found) goalId names).step distinct stepped

theorem ServerState.Closing.step (closing : state.Closing past)
    (distinct : (requestedGoals ((state, label) :: past)).Nodup) (stepped : state.step label = some after) :
    after.Closing ((state, label) :: past) where
  present _ present := closing.present_step stepped present
  named := closing.named_step stepped
  setting := closing.setting_step distinct stepped
  ended := closing.ended_step distinct stepped
  canceled := closing.canceled_step distinct stepped

theorem closing_reachable (reachable : (actionServer Goal Result Feedback).traced.Reachable (state, past))
    (distinct : (requestedGoals past).Nodup) : state.Closing past := by
  refine reachable.traced_invariant_of (fun past => (requestedGoals past).Nodup) (fun _ _ => distinct_earlier)
    ServerState.Closing ?_ ?_ distinct
  · refine ⟨?_, ?_, ?_, ?_, ?_⟩
    · intro goalId present
      simp [actionServer, AsyncActionServer.new] at present
    · intro call member
      cases member
    · intro call member
      cases member
    · intro goalId reqId response member
      cases member
    · intro goalId reqId response member
      cases member
  · intro before label after past _ distinct held stepped
    exact held.step distinct stepped

end Steps

end Ros2Client
