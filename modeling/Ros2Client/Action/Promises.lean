import Ros2Client.Action.GoalAnswers
import Ros2Client.Action.ResultRequests
import Ros2Client.Transition.Components

open Transition
open Std (TreeMap)

namespace Ros2Client

variable {Goal Result Feedback : Type}

/-- Everything one step of a call can write, and what the table is like then. -/
inductive WriteStep (server : AsyncActionServer Goal) (call : Call Goal Result Feedback) (input : Input Goal)
    (next : Advance Goal Result Feedback) : Prop
  | silent (events : next.events = [])
  | accepts {handle : NewGoalHandle} {now : Time} (calls : call = .acceptGoal handle) (reads : input = .now now)
      (accepted : server.acceptGoal handle now = .ok next.server) (events : next.events = [.goalAccepted handle.goalId])
  | answers {handle : NewGoalHandle} {response : SendGoalResponse} (answer : call.answer = some (handle, response))
      (written : input = .written true) (events : next.events = [.goalResponse handle.reqId response])
  | feedback {handle : ExecutingGoalHandle} {feedback : Feedback} (calls : call = .publishFeedback handle feedback)
      (executing : server.statusOf handle.goalId = some .executing)
      (events : next.events = [.feedback ⟨handle.goalId, feedback⟩])
  | result {handle : ExecutingGoalHandle} {status : GoalEndStatus} {result : Result} {reqId : RmwRequestId}
      (calls : call = .resultFinish handle status result reqId) (written : input = .written true)
      (finished : server.finishGoal handle.goalId status = .ok next.server)
      (events : next.events = [.resultResponse handle.goalId reqId ⟨status.toStatus, result⟩])
  | cancels {handle : CancelHandle} {canceling : List GoalInfo} (calls : call = .cancelRespond handle canceling)
      (events : next.events = [.cancelResponse handle.reqId (.ofCanceling canceling)])
  | statuses {statusList : List GoalStatus} {following : AfterPublish}
      (calls : call = .publishSend statusList following)
      (events : next.events = [.statuses statusList])

theorem advance_writes {server : AsyncActionServer Goal} {call : Call Goal Result Feedback} {input : Input Goal}
    {next : Advance Goal Result Feedback} (stepped : advance server call input = some next) :
    WriteStep server call input next := by
  cases advance_cases stepped with
  | accepted accepted => exact .accepts rfl rfl accepted rfl
  | acceptAnswered | rejectAnswered => exact .answers rfl rfl rfl
  | @feedbackSent handle feedback checked =>
    have sent : (.feedback ⟨handle.goalId, feedback⟩ : Event Result Feedback) ∈ [.feedback ⟨handle.goalId, feedback⟩] :=
      List.mem_singleton_self _
    exact .feedback rfl (checkFeedback_ok checked _ sent) rfl
  | resultSent finished => exact .result rfl rfl finished rfl
  | cancelAnswered => exact .cancels rfl rfl
  | published => exact .statuses rfl rfl
  | _ => exact .silent rfl

section Origins

variable {state after : ServerState Goal Result Feedback} {label : ServerLabel Goal Result Feedback}

/-- A call after a step was there before it, has just been started, has just moved or was dropped. -/
theorem step_call (stepped : state.step label = some after) {call : Call Goal Result Feedback}
    (member : call ∈ after.calls) :
    call ∈ state.calls ∨
    (∃ operation, label = .start operation ∧ operation.HasHandle state.calls ∧ call = operation.call) ∨
    (∃ index input old next, label = .advance index input ∧ old ∈ state.calls ∧
      advance state.server old input = some next ∧ call = next.call ∧ after.server = next.server ∧
      after.events = state.events ++ next.events) ∨
    call = .dropped := by
  rcases ServerState.step_cases stepped with
    ⟨operation, same, has, rfl⟩ | ⟨index, input, old, next, same, found, moved, rfl⟩ | ⟨index, old, same, _, _, rfl⟩
  · rcases List.mem_append.mp member with earlier | new
    · exact .inl earlier
    · exact .inr (.inl ⟨operation, same, has, List.mem_singleton.mp new⟩)
  · rcases List.mem_or_eq_of_mem_set member with earlier | new
    · exact .inl earlier
    · exact .inr (.inr (.inl ⟨index, input, old, next, same, List.mem_of_getElem? found, moved, new, rfl, rfl⟩))
  · rcases List.mem_or_eq_of_mem_set member with earlier | new
    · exact .inl earlier
    · exact .inr (.inr (.inr new))

/-- What a step does to the table and to the events, it does by moving a call. -/
theorem step_moves (stepped : state.step label = some after) :
    (after.server = state.server ∧ after.events = state.events ∧ ∀ index input, label ≠ .advance index input) ∨
    ∃ index input call next, label = .advance index input ∧ state.calls[index]? = some call ∧
      advance state.server call input = some next ∧ after.server = next.server ∧
      after.events = state.events ++ next.events := by
  rcases ServerState.step_cases stepped with
    ⟨operation, rfl, _, rfl⟩ | ⟨index, input, call, next, same, found, moved, rfl⟩ | ⟨index, call, rfl, _, _, rfl⟩
  · exact .inl ⟨rfl, rfl, by simp⟩
  · exact .inr ⟨index, input, call, next, same, found, moved, rfl, rfl⟩
  · exact .inl ⟨rfl, rfl, by simp⟩

theorem step_events (stepped : state.step label = some after) {event : Event Result Feedback}
    (member : event ∈ state.events) : event ∈ after.events := by
  rcases step_moves stepped with ⟨_, same, _⟩ | ⟨_, _, _, _, _, _, _, _, more⟩
  · rwa [same]
  · rw [more]
    exact List.mem_append_left _ member

/-- A new event comes from the call that has written it. -/
inductive EventOrigin (state : ServerState Goal Result Feedback) (server : AsyncActionServer Goal) :
    ServerLabel Goal Result Feedback → Event Result Feedback → Prop
  | accepts {index : Nat} {handle : NewGoalHandle} {now : Time} (found : state.calls[index]? = some (.acceptGoal handle))
      (accepted : state.server.acceptGoal handle now = .ok server) :
      EventOrigin state server (.advance index (.now now)) (.goalAccepted handle.goalId)
  | answers {index : Nat} {call : Call Goal Result Feedback} {handle : NewGoalHandle} {response : SendGoalResponse}
      (found : state.calls[index]? = some call) (answer : call.answer = some (handle, response)) :
      EventOrigin state server (.advance index (.written true)) (.goalResponse handle.reqId response)
  | feedback {index : Nat} {input : Input Goal} {handle : ExecutingGoalHandle} {feedback : Feedback}
      (found : state.calls[index]? = some (.publishFeedback handle feedback)) :
      EventOrigin state server (.advance index input) (.feedback ⟨handle.goalId, feedback⟩)
  | result {index : Nat} {handle : ExecutingGoalHandle} {status : GoalEndStatus} {result : Result}
      {reqId : RmwRequestId} (found : state.calls[index]? = some (.resultFinish handle status result reqId))
      (finished : state.server.finishGoal handle.goalId status = .ok server) :
      EventOrigin state server (.advance index (.written true))
        (.resultResponse handle.goalId reqId ⟨status.toStatus, result⟩)
  | cancels {index : Nat} {input : Input Goal} {handle : CancelHandle} {canceling : List GoalInfo}
      (found : state.calls[index]? = some (.cancelRespond handle canceling)) :
      EventOrigin state server (.advance index input) (.cancelResponse handle.reqId (.ofCanceling canceling))
  | statuses {index : Nat} {input : Input Goal} {statusList : List GoalStatus} {following : AfterPublish}
      (found : state.calls[index]? = some (.publishSend statusList following)) :
      EventOrigin state server (.advance index input) (.statuses statusList)

theorem event_origin (stepped : state.step label = some after) {event : Event Result Feedback}
    (member : event ∈ after.events) : event ∈ state.events ∨ EventOrigin state after.server label event := by
  rcases step_moves stepped with ⟨_, same, _⟩ | ⟨index, input, call, next, rfl, found, moved, server, more⟩
  · rw [same] at member
    exact .inl member
  · rw [more] at member
    rcases List.mem_append.mp member with earlier | new
    · exact .inl earlier
    · refine .inr ?_
      rw [server]
      cases advance_writes moved with
      | silent events =>
        rw [events] at new
        cases new
      | accepts calls reads accepted events =>
        rw [events] at new
        cases List.mem_singleton.mp new
        subst calls reads
        exact .accepts found accepted
      | answers answer written events =>
        rw [events] at new
        cases List.mem_singleton.mp new
        subst written
        exact .answers found answer
      | feedback calls _ events =>
        rw [events] at new
        cases List.mem_singleton.mp new
        subst calls
        exact .feedback found
      | result calls written finished events =>
        rw [events] at new
        cases List.mem_singleton.mp new
        subst calls written
        exact .result found finished
      | cancels calls events =>
        rw [events] at new
        cases List.mem_singleton.mp new
        subst calls
        exact .cancels found
      | statuses calls events =>
        rw [events] at new
        cases List.mem_singleton.mp new
        subst calls
        exact .statuses found

end Origins

def AcceptedAt (past : ServerPast Goal Result Feedback) (handle : NewGoalHandle) (now : Time) : Prop :=
  ∃ before index after, (before, .advance index (.now now)) ∈ past ∧
    before.calls[index]? = some (.acceptGoal handle) ∧ before.server.acceptGoal handle now = .ok after

def Told (past : ServerPast Goal Result Feedback) (events : List (Event Result Feedback)) (goalId : GoalId) : Prop :=
  ∃ reqId now, AcceptedAt past ⟨goalId, reqId⟩ now ∧ .goalResponse reqId ⟨true, now⟩ ∈ events

theorem AcceptedAt.later {past : ServerPast Goal Result Feedback} {handle : NewGoalHandle} {now : Time}
    (accepted : AcceptedAt past handle now)
    (entry : ServerState Goal Result Feedback × ServerLabel Goal Result Feedback) :
    AcceptedAt (entry :: past) handle now := by
  obtain ⟨before, index, after, member, rest⟩ := accepted
  exact ⟨before, index, after, List.mem_cons_of_mem _ member, rest⟩

theorem Told.later {past : ServerPast Goal Result Feedback} {events more : List (Event Result Feedback)}
    {goalId : GoalId}
    (told : Told past events goalId) (entry : ServerState Goal Result Feedback × ServerLabel Goal Result Feedback)
    (kept : ∀ event ∈ events, event ∈ more) : Told (entry :: past) more goalId := by
  obtain ⟨reqId, now, accepted, answered⟩ := told
  exact ⟨reqId, now, accepted.later entry, kept _ answered⟩

def AfterPublish.acceptance : AfterPublish → Option (NewGoalHandle × Time)
  | .acceptGoal handle now => some (handle, now)
  | _ => none

def Call.acceptance : Call Goal Result Feedback → Option (NewGoalHandle × Time)
  | .acceptRespond handle now => some (handle, now)
  | .publishStatuses next | .publishSend _ next => next.acceptance
  | _ => none

def Outcome.told : Outcome Goal → Option GoalId
  | .accepted (.ok handle) => some handle.goalId
  | .executing (.ok handle) => some handle.goalId
  | _ => none

def AfterPublish.told : AfterPublish → Option GoalId
  | .startExecutingGoal handle => some handle.goalId
  | _ => none

def Call.told : Call Goal Result Feedback → Option GoalId
  | .startExecutingGoal handle => some handle.goalId
  | .publishFeedback handle _ | .sendResultResponse handle _ _ | .resultStream handle _ _ | .resultWait handle _ _
  | .resultTaken handle _ _ _ _ | .resultFinish handle _ _ _ => some handle.goalId
  | .publishStatuses next | .publishSend _ next => next.told
  | .markGoalFinished _ outcome | .done outcome => outcome.told
  | _ => none

def AfterPublish.canceling : AfterPublish → List GoalInfo
  | .respondToCancelRequests _ canceling => canceling
  | _ => []

def Call.canceling : Call Goal Result Feedback → List GoalInfo
  | .cancelCollect _ _ canceling | .cancelSet _ _ canceling | .cancelRespond _ canceling => canceling
  | .publishStatuses next | .publishSend _ next => next.canceling
  | _ => []

theorem advance_acceptance {server : AsyncActionServer Goal} {call : Call Goal Result Feedback} {input : Input Goal}
    {next : Advance Goal Result Feedback} (stepped : advance server call input = some next) :
    next.call.acceptance = none ∨ next.call.acceptance = call.acceptance ∨
      ∃ handle now after, call = .acceptGoal handle ∧ input = .now now ∧ server.acceptGoal handle now = .ok after ∧
        next.call.acceptance = some (handle, now) := by
  cases advance_cases stepped with
  | accepted accepted => exact .inr (.inr ⟨_, _, _, rfl, rfl, accepted, rfl⟩)
  | publishing => exact .inr (.inl rfl)
  | @published _ following | @unpublished _ following => cases following <;> exact .inr (.inl rfl)
  | _ => exact .inl rfl

theorem advance_told {server : AsyncActionServer Goal} {call : Call Goal Result Feedback} {input : Input Goal}
    {next : Advance Goal Result Feedback} (stepped : advance server call input = some next) :
    next.call.told = none ∨ next.call.told = call.told ∨
      ∃ handle now, call = .acceptRespond handle now ∧ next.call.told = some handle.goalId ∧
        next.events = [.goalResponse handle.reqId ⟨true, now⟩] := by
  cases advance_cases stepped with
  | acceptAnswered => exact .inr (.inr ⟨_, _, rfl, rfl, rfl⟩)
  | started _ | requestFound _ | requestMissing _ | streamed | requestTaken | requestOwn | requestStored _
  | marked | publishing => exact .inr (.inl rfl)
  | @published _ following | @unpublished _ following => cases following <;> exact .inr (.inl rfl)
  | _ => exact .inl rfl

theorem advance_canceling {server : AsyncActionServer Goal} {call : Call Goal Result Feedback} {input : Input Goal}
    {next : Advance Goal Result Feedback} (stepped : advance server call input = some next) {goalInfo : GoalInfo}
    (member : goalInfo ∈ next.call.canceling) :
    goalInfo ∈ call.canceling ∨ server.Dates goalInfo := by
  cases advance_cases stepped with
  | collected | cancelSet | cancelsSet | publishing => exact .inl member
  | collecting =>
    rcases List.mem_append.mp member with old | new
    · exact .inl old
    · exact .inr (cancelingInfo_dates (Option.mem_toList.mp new))
  | @published _ following | @unpublished _ following => cases following <;> exact .inl member
  | _ => cases member

theorem GoalEffect.dated {call : Call Goal Result Feedback} {finishedGoals : List GoalId} {goalId : GoalId}
    {before after : Option (AsyncGoal Goal)} {events : List (Event Result Feedback)}
    (effect : GoalEffect call finishedGoals goalId before after events) {entry : AsyncGoal Goal} {time : Time}
    (found : after = some entry) (dated : entry.acceptedTime = some time) :
    (∃ entry', before = some entry' ∧ entry'.acceptedTime = some time) ∨ events = [.goalAccepted goalId] := by
  cases effect with
  | same _ => exact .inl ⟨entry, found, dated⟩
  | accepted _ _ => exact .inr rfl
  | received =>
    cases found
    cases dated
  | started _ | finished _ _ _ | aborted _ | canceling _ _ =>
    cases found
    exact .inl ⟨_, rfl, dated⟩
  | rejected _ | flushed _ _ => cases found

/-- A goal has its acceptance time from the step that accepted it. -/
theorem advance_dates {server : AsyncActionServer Goal} {call : Call Goal Result Feedback} {input : Input Goal}
    {next : Advance Goal Result Feedback} (stepped : advance server call input = some next) {goalInfo : GoalInfo}
    (dated : next.server.Dates goalInfo) :
    server.Dates goalInfo ∨ ∃ handle after, call = .acceptGoal handle ∧ input = .now goalInfo.stamp ∧
      handle.goalId = goalInfo.goalId ∧ server.acceptGoal handle goalInfo.stamp = .ok after := by
  obtain ⟨goalId, stamp⟩ := goalInfo
  obtain ⟨entry, found, time⟩ := dated
  rcases (advance_effect stepped goalId).dated found time with earlier | event
  · exact .inl earlier
  · cases advance_writes stepped with
    | @accepts handle now calls reads accepted events =>
      rw [events] at event
      cases event
      obtain ⟨_, same⟩ := AsyncActionServer.acceptGoal_ok accepted
      rw [same, AsyncActionServer.modify_goals, if_pos rfl] at found
      obtain ⟨entry', _, rfl⟩ := Option.map_eq_some_iff.mp found
      cases time
      exact .inr ⟨handle, _, calls, reads, rfl, accepted⟩
    | silent events | answers _ _ events | feedback _ _ events | result _ _ _ events | cancels _ events
    | statuses _ events =>
      rw [events] at event
      cases event

/-- What the calls rely on and what has been written. -/
structure ServerState.Promised (state : ServerState Goal Result Feedback) (past : ServerPast Goal Result Feedback) :
    Prop where
  acceptances : ∀ call ∈ state.calls, ∀ handle now, call.acceptance = some (handle, now) → AcceptedAt past handle now
  told : ∀ call ∈ state.calls, ∀ goalId, call.told = some goalId → Told past state.events goalId
  dated : ∀ goalInfo, state.server.Dates goalInfo → ∃ reqId, AcceptedAt past ⟨goalInfo.goalId, reqId⟩ goalInfo.stamp
  canceling : ∀ call ∈ state.calls, ∀ goalInfo ∈ call.canceling,
    ∃ reqId, AcceptedAt past ⟨goalInfo.goalId, reqId⟩ goalInfo.stamp
  answers : ∀ reqId response, .goalResponse reqId response ∈ state.events →
    ∃ handle, handle.reqId = reqId ∧ (handle, response) ∈ goalAnswers past
  accepts : ∀ handle response, (handle, response) ∈ goalAnswers past → response.accepted = true →
    AcceptedAt past handle response.stamp
  cancels : ∀ reqId response, .cancelResponse reqId response ∈ state.events →
    ∃ canceling, response = .ofCanceling canceling ∧
      ∀ goalInfo ∈ canceling, ∃ reqId, AcceptedAt past ⟨goalInfo.goalId, reqId⟩ goalInfo.stamp

section Steps

variable {state after : ServerState Goal Result Feedback} {past : ServerPast Goal Result Feedback}
  {label : ServerLabel Goal Result Feedback}

theorem accepted_now {index : Nat} {handle : NewGoalHandle} {now : Time} {server : AsyncActionServer Goal}
    (found : state.calls[index]? = some (.acceptGoal handle))
    (accepted : state.server.acceptGoal handle now = .ok server) :
    AcceptedAt ((state, .advance index (.now now)) :: past) handle now :=
  ⟨state, index, server, List.mem_cons_self, found, accepted⟩

theorem ServerState.Promised.acceptances_step (promised : state.Promised past)
    (stepped : state.step label = some after) :
    ∀ call ∈ after.calls, ∀ handle now, call.acceptance = some (handle, now) →
      AcceptedAt ((state, label) :: past) handle now := by
  intro call member handle now accepts
  rcases ServerState.step_cases stepped with
    ⟨operation, rfl, _, rfl⟩ | ⟨index, input, old, next, rfl, found, moved, rfl⟩ | ⟨index, old, rfl, _, _, rfl⟩
  · rcases List.mem_append.mp member with earlier | new
    · exact (promised.acceptances call earlier handle now accepts).later _
    · rw [List.mem_singleton.mp new] at accepts
      cases operation <;> cases accepts
  · rcases List.mem_or_eq_of_mem_set member with earlier | rfl
    · exact (promised.acceptances call earlier handle now accepts).later _
    · rcases advance_acceptance moved with none | same | ⟨handle', now', server, rfl, rfl, accepted, has⟩
      · rw [none] at accepts
        cases accepts
      · exact (promised.acceptances old (List.mem_of_getElem? found) handle now (same.symm.trans accepts)).later _
      · rw [has] at accepts
        cases accepts
        exact accepted_now found accepted
  · rcases List.mem_or_eq_of_mem_set member with earlier | rfl
    · exact (promised.acceptances call earlier handle now accepts).later _
    · cases accepts

theorem handle_told (promised : state.Promised past) {goalId : GoalId} {operation : Operation Result Feedback}
    (has : operation.HasHandle state.calls) (told : (operation.call : Call Goal Result Feedback).told = some goalId) :
    Told past state.events goalId := by
  have accepted : ∀ handle ∈ acceptedGoalHandles state.calls, Told past state.events handle.goalId := by
    intro handle member
    obtain ⟨call, present, returned⟩ := List.mem_filterMap.mp member
    apply promised.told call present
    split at returned
    · cases returned
      rfl
    · cases returned
  have executing : ∀ handle ∈ executingGoalHandles state.calls, Told past state.events handle.goalId := by
    intro handle member
    obtain ⟨call, present, returned⟩ := List.mem_filterMap.mp member
    apply promised.told call present
    split at returned
    · cases returned
      rfl
    · cases returned
  cases operation with
  | startExecutingGoal handle =>
    cases told
    exact accepted handle has
  | publishFeedback handle | sendResultResponse handle =>
    cases told
    exact executing handle has
  | _ => cases told

theorem ServerState.Promised.told_step (promised : state.Promised past) (stepped : state.step label = some after) :
    ∀ call ∈ after.calls, ∀ goalId, call.told = some goalId → Told ((state, label) :: past) after.events goalId := by
  intro call member goalId told
  have old : ∀ call ∈ state.calls, call.told = some goalId → Told ((state, label) :: past) after.events goalId := by
    intro call present has
    exact (promised.told call present goalId has).later _ fun _ => step_events stepped
  rcases step_call stepped member with
    earlier | ⟨operation, rfl, has, rfl⟩ | ⟨index, input, moving, next, rfl, present, moved, rfl, _, events⟩ | rfl
  · exact old call earlier told
  · exact (handle_told promised has told).later _ fun _ => step_events stepped
  · rcases advance_told moved with none | same | ⟨handle, now, rfl, own, wrote⟩
    · rw [none] at told
      cases told
    · exact old moving present (same.symm.trans told)
    · rw [own] at told
      cases told
      refine ⟨handle.reqId, now, (promised.acceptances _ present handle now rfl).later _, ?_⟩
      rw [events, wrote]
      exact List.mem_append_right _ (List.mem_singleton_self _)
  · cases told

theorem ServerState.Promised.dated_step (promised : state.Promised past) (stepped : state.step label = some after) :
    ∀ goalInfo, after.server.Dates goalInfo →
      ∃ reqId, AcceptedAt ((state, label) :: past) ⟨goalInfo.goalId, reqId⟩ goalInfo.stamp := by
  intro goalInfo dated
  have old : state.server.Dates goalInfo →
      ∃ reqId, AcceptedAt ((state, label) :: past) ⟨goalInfo.goalId, reqId⟩ goalInfo.stamp := by
    intro earlier
    obtain ⟨reqId, accepted⟩ := promised.dated goalInfo earlier
    exact ⟨reqId, accepted.later _⟩
  rcases step_moves stepped with ⟨same, _, _⟩ | ⟨index, input, call, next, rfl, found, moved, same, _⟩
  · rw [same] at dated
    exact old dated
  · rw [same] at dated
    rcases advance_dates moved dated with earlier | ⟨⟨goalId, reqId⟩, server, rfl, rfl, own, accepted⟩
    · exact old earlier
    · subst own
      exact ⟨reqId, accepted_now found accepted⟩

theorem ServerState.Promised.canceling_step (promised : state.Promised past) (stepped : state.step label = some after) :
    ∀ call ∈ after.calls, ∀ goalInfo ∈ call.canceling,
      ∃ reqId, AcceptedAt ((state, label) :: past) ⟨goalInfo.goalId, reqId⟩ goalInfo.stamp := by
  intro call member goalInfo listed
  have later : (∃ reqId, AcceptedAt past ⟨goalInfo.goalId, reqId⟩ goalInfo.stamp) →
      ∃ reqId, AcceptedAt ((state, label) :: past) ⟨goalInfo.goalId, reqId⟩ goalInfo.stamp := by
    intro ⟨reqId, accepted⟩
    exact ⟨reqId, accepted.later _⟩
  rcases step_call stepped member with
    earlier | ⟨operation, rfl, _, rfl⟩ | ⟨index, input, moving, next, rfl, present, moved, rfl, _, _⟩ | rfl
  · exact later (promised.canceling call earlier goalInfo listed)
  · cases operation <;> cases listed
  · rcases advance_canceling moved listed with earlier | dated
    · exact later (promised.canceling moving present goalInfo earlier)
    · exact later (promised.dated goalInfo dated)
  · cases listed

theorem answer_acceptance {call : Call Goal Result Feedback} {handle : NewGoalHandle} {response : SendGoalResponse}
    (answer : call.answer = some (handle, response)) (accepted : response.accepted = true) :
    call.acceptance = some (handle, response.stamp) := by
  cases call with
  | acceptRespond =>
    cases answer
    rfl
  | rejectRespond =>
    cases answer
    cases accepted
  | _ => cases answer

theorem goalAnswers_later {answer : NewGoalHandle × SendGoalResponse} (member : answer ∈ goalAnswers past)
    (entry : ServerState Goal Result Feedback × ServerLabel Goal Result Feedback) :
    answer ∈ goalAnswers (entry :: past) :=
  ((List.sublist_cons_self entry past).filterMap _).subset member

theorem ServerState.Promised.answers_step (promised : state.Promised past) (stepped : state.step label = some after) :
    ∀ reqId response, .goalResponse reqId response ∈ after.events →
      ∃ handle, handle.reqId = reqId ∧ (handle, response) ∈ goalAnswers ((state, label) :: past) := by
  intro reqId response member
  rcases event_origin stepped member with earlier | new
  · obtain ⟨handle, own, answered⟩ := promised.answers reqId response earlier
    exact ⟨handle, own, goalAnswers_later answered _⟩
  · cases new with
    | @answers index _ handle _ found answer =>
      have now : state.answer (.advance index (.written true)) = some (handle, response) := by
        rw [ServerState.answer, found, Option.bind_some, answer]
      refine ⟨handle, rfl, ?_⟩
      rw [goalAnswers_some now]
      exact List.mem_cons_self

theorem ServerState.Promised.accepts_step (promised : state.Promised past) (handle : NewGoalHandle)
    (response : SendGoalResponse) (member : (handle, response) ∈ goalAnswers ((state, label) :: past))
    (accepted : response.accepted = true) : AcceptedAt ((state, label) :: past) handle response.stamp := by
  cases answered : state.answer label with
  | none =>
    rw [goalAnswers_none answered] at member
    exact (promised.accepts handle response member accepted).later _
  | some answer =>
    rw [goalAnswers_some answered] at member
    rcases List.mem_cons.mp member with rfl | earlier
    · cases label with
      | start | drop => cases answered
      | advance index input =>
        obtain ⟨call, found, answers, _⟩ := answer_eq answered
        exact (promised.acceptances call (List.mem_of_getElem? found) handle response.stamp
          (answer_acceptance answers accepted)).later _
    · exact (promised.accepts handle response earlier accepted).later _

theorem ServerState.Promised.cancels_step (promised : state.Promised past) (stepped : state.step label = some after) :
    ∀ reqId response, .cancelResponse reqId response ∈ after.events →
      ∃ canceling, response = .ofCanceling canceling ∧ ∀ goalInfo ∈ canceling,
        ∃ reqId, AcceptedAt ((state, label) :: past) ⟨goalInfo.goalId, reqId⟩ goalInfo.stamp := by
  intro reqId response member
  have later : ∀ canceling : List GoalInfo, (∀ goalInfo ∈ canceling,
      ∃ reqId, AcceptedAt past ⟨goalInfo.goalId, reqId⟩ goalInfo.stamp) →
      ∀ goalInfo ∈ canceling, ∃ reqId, AcceptedAt ((state, label) :: past) ⟨goalInfo.goalId, reqId⟩ goalInfo.stamp := by
    intro canceling accepted goalInfo listed
    obtain ⟨reqId', accepted'⟩ := accepted goalInfo listed
    exact ⟨reqId', accepted'.later _⟩
  rcases event_origin stepped member with earlier | new
  · obtain ⟨canceling, same, accepted⟩ := promised.cancels reqId response earlier
    exact ⟨canceling, same, later canceling accepted⟩
  · cases new with
    | @cancels _ _ _ canceling found =>
      exact ⟨canceling, rfl, later canceling (promised.canceling _ (List.mem_of_getElem? found))⟩

theorem ServerState.Promised.step (promised : state.Promised past) (stepped : state.step label = some after) :
    after.Promised ((state, label) :: past) where
  acceptances := promised.acceptances_step stepped
  told := promised.told_step stepped
  dated := promised.dated_step stepped
  canceling := promised.canceling_step stepped
  answers := promised.answers_step stepped
  accepts := promised.accepts_step
  cancels := promised.cancels_step stepped

theorem promised_reachable (reachable : (actionServer Goal Result Feedback).traced.Reachable (state, past)) :
    state.Promised past := by
  refine reachable.traced_invariant ServerState.Promised ?_ ?_
  · refine ⟨?_, ?_, ?_, ?_, ?_, ?_, ?_⟩
    · intro call member
      cases member
    · intro call member
      cases member
    · intro goalInfo ⟨entry, found, _⟩
      simp [actionServer, AsyncActionServer.new] at found
    · intro call member
      cases member
    · intro reqId response member
      cases member
    · intro handle response member
      cases member
    · intro reqId response member
      cases member
  · intro before label after past _ held stepped
    exact held.step stepped

end Steps

end Ros2Client
