import Ros2Client.Action.Closing

open Transition
open Std (TreeMap)

namespace Ros2Client

variable {Goal Result Feedback : Type}

/-- What has to be written before a message: feedback and results come after the answer that accepts the
    goal, and feedback comes before its result and before any cancel answer that names it. -/
def Event.Follows (past : ServerPast Goal Result Feedback) (front : List (Event Result Feedback)) :
    Event Result Feedback → Prop
  | .feedback message => Told past front message.goalId ∧
      (∀ reqId response, .resultResponse message.goalId reqId response ∉ front) ∧
      ∀ reqId response, .cancelResponse reqId response ∈ front → ¬ response.Names message.goalId
  | .resultResponse goalId _ _ => Told past front goalId
  | _ => True

structure ServerState.Exclusive (state : ServerState Goal Result Feedback) (past : ServerPast Goal Result Feedback) :
    Prop where
  recorded : ∀ handle now, AcceptedAt past handle now → .goalAccepted handle.goalId ∈ state.events
  known : ∀ goalId, .goalAccepted goalId ∈ state.events →
    goalId ∈ requestedGoals past ∧ state.server.statusOf goalId ≠ some .unknown
  rejecting : ∀ call ∈ state.calls, ∀ handle, call.decision = some (handle, false) →
    .goalAccepted handle.goalId ∉ state.events
  rejected : ∀ handle response, (handle, response) ∈ goalAnswers past → response.accepted = false →
    .goalAccepted handle.goalId ∉ state.events

section Steps

variable {state after : ServerState Goal Result Feedback} {past : ServerPast Goal Result Feedback}
  {label : ServerLabel Goal Result Feedback} {goalId : GoalId}

theorem Follows.later {front : List (Event Result Feedback)} {event : Event Result Feedback}
    (follows : event.Follows past front)
    (entry : ServerState Goal Result Feedback × ServerLabel Goal Result Feedback) :
    event.Follows (entry :: past) front := by
  cases event with
  | feedback => exact ⟨follows.1.later entry fun _ member => member, follows.2⟩
  | resultResponse => exact Told.later follows entry fun _ member => member
  | _ => trivial

/-- An acceptance finds the goal new, and is the only step that records one. -/
theorem step_accepts (stepped : state.step label = some after) (accepted : .goalAccepted goalId ∈ after.events) :
    .goalAccepted goalId ∈ state.events ∨
      ∃ index now handle, label = .advance index (.now now) ∧ state.calls[index]? = some (.acceptGoal handle) ∧
        handle.goalId = goalId ∧ state.server.acceptGoal handle now = .ok after.server := by
  rcases event_origin stepped accepted with earlier | new
  · exact .inl earlier
  · cases new with
    | @accepts index handle now found accepts => exact .inr ⟨index, now, handle, rfl, found, rfl, accepts⟩

theorem ServerState.Exclusive.recorded_step (exclusive : state.Exclusive past) (stepped : state.step label = some after)
    (handle : NewGoalHandle) (now : Time) (accepted : AcceptedAt ((state, label) :: past) handle now) :
    .goalAccepted handle.goalId ∈ after.events := by
  obtain ⟨before, index, server, member, found, accepts⟩ := accepted
  rcases List.mem_cons.mp member with new | earlier
  · cases new
    have moved : advance state.server (.acceptGoal handle : Call Goal Result Feedback) (.now now) =
        some ⟨server, .publishStatuses (.acceptGoal handle now), [.goalAccepted handle.goalId]⟩ := by
      simp [advance, accepts]
    rw [ServerState.step, found, Option.bind_some, moved] at stepped
    cases stepped
    simp
  · exact step_events stepped (exclusive.recorded handle now ⟨before, index, server, earlier, found, accepts⟩)

theorem ServerState.Exclusive.known_step (exclusive : state.Exclusive past) (closing : state.Closing past)
    (distinct : (requestedGoals ((state, label) :: past)).Nodup) (stepped : state.step label = some after)
    (goalId : GoalId) (accepted : .goalAccepted goalId ∈ after.events) :
    goalId ∈ requestedGoals ((state, label) :: past) ∧ after.server.statusOf goalId ≠ some .unknown := by
  rcases step_accepts stepped accepted with earlier | ⟨index, now, handle, rfl, _, rfl, accepts⟩
  · obtain ⟨requested, known⟩ := exclusive.known goalId earlier
    refine ⟨requested_later requested _, ?_⟩
    rcases step_moves stepped with ⟨same, _, _⟩ | ⟨index, input, call, next, rfl, _, moved, same, _⟩
    · rw [same]
      exact known
    · rw [same]
      intro unknown
      rcases (advance_effect moved goalId).unknown_before unknown with absent | still
      · obtain ⟨reqId, request, rfl, rfl⟩ := advance_appears moved absent (status_present unknown)
        exact distinct_request distinct requested
      · exact known still
  · let next : Advance Goal Result Feedback := ⟨after.server, .dropped, []⟩
    have decides : state.server.acceptGoal handle now = .ok next.server := accepts
    obtain ⟨unknown, known⟩ := acceptGoal_decides decides
    refine ⟨requested_later (closing.present _ (status_present unknown)) _, ?_⟩
    rw [known]
    simp

/-- A goal that is not new stays unaccepted. -/
theorem unaccepted_step (stepped : state.step label = some after) (known : state.server.statusOf goalId ≠ some .unknown)
    (unaccepted : .goalAccepted goalId ∉ state.events) : .goalAccepted goalId ∉ after.events := by
  intro accepted
  rcases step_accepts stepped accepted with earlier | ⟨index, now, handle, _, _, rfl, accepts⟩
  · exact unaccepted earlier
  · exact known (AsyncActionServer.acceptGoal_ok accepts).1

theorem ServerState.Exclusive.rejecting_step (exclusive : state.Exclusive past) (answering : state.Answering past)
    (stepped : state.step label = some after) :
    ∀ call ∈ after.calls, ∀ handle, call.decision = some (handle, false) →
      .goalAccepted handle.goalId ∉ after.events := by
  intro call member handle decides
  have old : ∀ call ∈ state.calls, call.decision = some (handle, false) →
      .goalAccepted handle.goalId ∉ after.events := by
    intro call present decides
    exact unaccepted_step stepped (answering.decided call present handle false decides).1.known
      (exclusive.rejecting call present handle decides)
  rcases step_call stepped member with
    earlier | ⟨operation, rfl, _, rfl⟩ | ⟨index, input, moving, next, rfl, present, moved, rfl, _, events⟩ | rfl
  · exact old call earlier decides
  · cases operation <;> cases decides
  · cases advance_answers moved with
    | receives _ undecided _ _ | answers _ _ _ undecided _ _ =>
      rw [undecided] at decides
      cases decides
    | accepts _ _ _ publishes _ =>
      rw [publishes] at decides
      cases decides
    | rejects _ _ rejected stamps silent =>
      rw [stamps] at decides
      cases decides
      intro accepted
      rw [events, silent, List.append_nil] at accepted
      exact (exclusive.known _ accepted).2 (AsyncActionServer.rejectGoal_ok rejected).1
    | moves _ _ decision _ _ _ =>
      rcases decision with none | same
      · rw [none] at decides
        cases decides
      · exact old moving present (same.symm.trans decides)
  · cases decides

theorem ServerState.Exclusive.rejected_step (exclusive : state.Exclusive past) (answering : state.Answering past)
    (stepped : state.step label = some after) (handle : NewGoalHandle) (response : SendGoalResponse)
    (member : (handle, response) ∈ goalAnswers ((state, label) :: past)) (rejected : response.accepted = false) :
    .goalAccepted handle.goalId ∉ after.events := by
  have old : (handle, response) ∈ goalAnswers past → .goalAccepted handle.goalId ∉ after.events := by
    intro earlier
    exact unaccepted_step stepped (answering.answered handle response earlier).known
      (exclusive.rejected handle response earlier rejected)
  cases answered : state.answer label with
  | none =>
    rw [goalAnswers_none answered] at member
    exact old member
  | some answer =>
    rw [goalAnswers_some answered] at member
    rcases List.mem_cons.mp member with rfl | earlier
    · cases label with
      | start | drop => cases answered
      | advance index input =>
        obtain ⟨call, found, answers, _⟩ := answer_eq answered
        have decides := answer_decision answers
        rw [rejected] at decides
        have present := List.mem_of_getElem? found
        exact unaccepted_step stepped (answering.decided call present handle false decides).1.known
          (exclusive.rejecting call present handle decides)
    · exact old earlier

theorem ServerState.Exclusive.step (exclusive : state.Exclusive past) (answering : state.Answering past)
    (closing : state.Closing past) (distinct : (requestedGoals ((state, label) :: past)).Nodup)
    (stepped : state.step label = some after) : after.Exclusive ((state, label) :: past) where
  recorded := exclusive.recorded_step stepped
  known := exclusive.known_step closing distinct stepped
  rejecting := exclusive.rejecting_step answering stepped
  rejected := exclusive.rejected_step answering stepped

/-- The step lemma of the order in which messages are written. -/
theorem ordered_step (promised : state.Promised past) (closing : state.Closing past)
    (ordered : Ordered (fun front event => Event.Follows past front event) state.events)
    (stepped : state.step label = some after) :
    Ordered (fun front event => Event.Follows ((state, label) :: past) front event) after.events := by
  have kept := ordered.mono fun front event follows => Follows.later follows (state, label)
  rcases step_moves stepped with ⟨_, same, _⟩ | ⟨index, input, call, next, rfl, found, moved, _, more⟩
  · rw [same]
    exact kept
  · have told : ∀ goalId, call.told = some goalId →
        Told ((state, .advance index input) :: past) state.events goalId := by
      intro goalId has
      exact (promised.told call (List.mem_of_getElem? found) goalId has).later _ fun _ member => member
    rw [more]
    apply kept.append
    cases advance_writes moved with
    | silent events => exact .inl events
    | @feedback handle feedback calls executing events =>
      subst calls
      refine .inr ⟨_, events, told handle.goalId rfl, ?_, ?_⟩
      · intro reqId response ended
        exact (closing.ended handle.goalId reqId response ended).closed.not_executing executing
      · intro reqId response answered names
        exact (closing.canceled handle.goalId reqId response answered names).closed.not_executing executing
    | @result handle status result reqId calls _ _ events =>
      subst calls
      exact .inr ⟨_, events, told handle.goalId rfl⟩
    | accepts _ _ _ events | answers _ _ events | cancels _ events | statuses _ events =>
      exact .inr ⟨_, events, trivial⟩

end Steps

section Reachable

variable {state : ServerState Goal Result Feedback} {past : ServerPast Goal Result Feedback}

theorem exclusive_reachable (reachable : (actionServer Goal Result Feedback).traced.Reachable (state, past))
    (distinct : (requestedGoals past).Nodup) : state.Exclusive past := by
  refine reachable.traced_invariant_of (fun past => (requestedGoals past).Nodup) (fun _ _ => distinct_earlier)
    ServerState.Exclusive ?_ ?_ distinct
  · refine ⟨?_, ?_, ?_, ?_⟩
    · intro handle now ⟨before, index, server, member, _⟩
      cases member
    · intro goalId accepted
      cases accepted
    · intro call member
      cases member
    · intro handle response member
      cases member
  · intro before label after past reached distinct held stepped
    have earlier := distinct_earlier distinct
    exact held.step (answering_reachable reached earlier) (closing_reachable reached earlier) distinct stepped

theorem ordered_reachable (reachable : (actionServer Goal Result Feedback).traced.Reachable (state, past))
    (distinct : (requestedGoals past).Nodup) :
    Ordered (fun front event => Event.Follows past front event) state.events := by
  refine reachable.traced_invariant_of (fun past => (requestedGoals past).Nodup) (fun _ _ => distinct_earlier)
    (fun state past => Ordered (fun front event => Event.Follows past front event) state.events) .nil ?_ distinct
  intro before label after past reached distinct held stepped
  exact ordered_step (promised_reachable reached) (closing_reachable reached (distinct_earlier distinct)) held stepped

/-- An accepted goal was requested under the request id that its answer has. -/
theorem accepted_arrived (reachable : (actionServer Goal Result Feedback).traced.Reachable (state, past))
    (distinct : (requestedGoals past).Nodup) {handle : NewGoalHandle} {now : Time}
    (accepted : AcceptedAt past handle now) : Arrived past handle := by
  obtain ⟨before, index, server, member, found, _⟩ := accepted
  obtain ⟨front, rest, rfl, reached⟩ := reachable.earlier member
  have sub : (goalRequests rest).Sublist (goalRequests (front ++ (before, .advance index (.now now)) :: rest)) :=
    ((List.sublist_cons_self _ rest).trans (List.sublist_append_right front _)).filterMap _
  have answering := answering_reachable reached (distinct.sublist (sub.map _))
  obtain ⟨goal, requested⟩ := answering.arrived _ (List.mem_of_getElem? found) handle rfl
  exact ⟨goal, sub.subset requested⟩

end Reachable

end Ros2Client
