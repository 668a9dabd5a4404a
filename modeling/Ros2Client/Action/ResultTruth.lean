import Ros2Client.Action.WireOrder

open Transition
open Std (TreeMap)

namespace Ros2Client

variable {Goal Result Feedback : Type}

def Call.gives : Call Goal Result Feedback → Option (ExecutingGoalHandle × GoalEndStatus × Result)
  | .sendResultResponse handle status result | .resultStream handle status result
  | .resultWait handle status result | .resultTaken handle status result _ _
  | .resultFinish handle status result _ => some (handle, status, result)
  | _ => none

def Given (past : ServerPast Goal Result Feedback) (goalId : GoalId) (response : GetResultResponse Result) : Prop :=
  ∃ (before : ServerState Goal Result Feedback) (status : GoalEndStatus),
    (before, .start (.sendResultResponse ⟨goalId⟩ status response.result)) ∈ past ∧ response.status = status.toStatus

theorem advance_gives {server : AsyncActionServer Goal} {call : Call Goal Result Feedback} {input : Input Goal}
    {next : Advance Goal Result Feedback} (stepped : advance server call input = some next) :
    next.call.gives = none ∨ next.call.gives = call.gives := by
  cases advance_cases stepped with
  | requestFound _ | requestMissing _ | streamed | requestTaken | requestOwn | requestStored _ => exact .inr rfl
  | @published _ following | @unpublished _ following => cases following <;> exact .inl rfl
  | _ => exact .inl rfl

structure ServerState.Honest (state : ServerState Goal Result Feedback) (past : ServerPast Goal Result Feedback) :
    Prop where
  buffered : ∀ (goalId : GoalId) (reqId : RmwRequestId), state.server.resultRequests[goalId]? = some reqId →
    reqId ∈ requestsTaken goalId past
  inHand : ∀ call ∈ state.calls, ∀ goalId reqId, call.request = some (goalId, reqId) →
    reqId ∈ requestsTaken goalId past
  given : ∀ call ∈ state.calls, ∀ handle status result, call.gives = some (handle, status, result) →
    ∃ before, (before, .start (.sendResultResponse handle status result)) ∈ past
  written : ∀ goalId reqId response, .resultResponse goalId reqId response ∈ state.events →
    reqId ∈ requestsTaken goalId past ∧ Given past goalId response

section Steps

variable {state after : ServerState Goal Result Feedback} {past : ServerPast Goal Result Feedback}
  {label : ServerLabel Goal Result Feedback} {goalId : GoalId} {reqId : RmwRequestId}

theorem requestsTaken_later (taken : reqId ∈ requestsTaken goalId past)
    (entry : ServerState Goal Result Feedback × ServerLabel Goal Result Feedback) :
    reqId ∈ requestsTaken goalId (entry :: past) :=
  ((List.sublist_cons_self entry past).filterMap _).subset taken

theorem requestsTaken_now (index : Nat) :
    reqId ∈ requestsTaken goalId ((state, .advance index (.resultRequest reqId goalId)) :: past) := by
  rw [requestsTaken_take]
  exact List.mem_cons_self

theorem Given.later {response : GetResultResponse Result} (given : Given past goalId response)
    (entry : ServerState Goal Result Feedback × ServerLabel Goal Result Feedback) :
    Given (entry :: past) goalId response := by
  obtain ⟨before, status, member, same⟩ := given
  exact ⟨before, status, List.mem_cons_of_mem _ member, same⟩

theorem ServerState.Honest.inHand_step (honest : state.Honest past) (stepped : state.step label = some after) :
    ∀ call ∈ after.calls, ∀ goalId reqId, call.request = some (goalId, reqId) →
      reqId ∈ requestsTaken goalId ((state, label) :: past) := by
  intro call member goalId reqId request
  rcases step_call stepped member with
    earlier | ⟨operation, rfl, _, rfl⟩ | ⟨index, input, moving, next, rfl, present, moved, rfl, _, _⟩ | rfl
  · exact requestsTaken_later (honest.inHand call earlier goalId reqId request) _
  · cases operation <;> cases request
  · rcases advance_request moved request with same | rfl | found
    · exact requestsTaken_later (honest.inHand moving present goalId reqId same) _
    · exact requestsTaken_now index
    · exact requestsTaken_later (honest.buffered goalId reqId found) _
  · cases request

theorem ServerState.Honest.given_step (honest : state.Honest past) (stepped : state.step label = some after) :
    ∀ call ∈ after.calls, ∀ handle status result, call.gives = some (handle, status, result) →
      ∃ before, (before, .start (.sendResultResponse handle status result)) ∈ (state, label) :: past := by
  intro call member handle status result gives
  have old : ∀ call ∈ state.calls, call.gives = some (handle, status, result) →
      ∃ before, (before, .start (.sendResultResponse handle status result)) ∈ (state, label) :: past := by
    intro call present gives
    obtain ⟨before, started⟩ := honest.given call present handle status result gives
    exact ⟨before, List.mem_cons_of_mem _ started⟩
  rcases step_call stepped member with
    earlier | ⟨operation, rfl, _, rfl⟩ | ⟨index, input, moving, next, rfl, present, moved, rfl, _, _⟩ | rfl
  · exact old call earlier gives
  · cases operation with
    | sendResultResponse =>
      cases gives
      exact ⟨state, List.mem_cons_self⟩
    | _ => cases gives
  · rcases advance_gives moved with none | same
    · rw [none] at gives
      cases gives
    · exact old moving present (same.symm.trans gives)
  · cases gives

theorem ServerState.Honest.buffered_step (honest : state.Honest past) (stepped : state.step label = some after)
    (goalId : GoalId) (reqId : RmwRequestId) (found : after.server.resultRequests[goalId]? = some reqId) :
    reqId ∈ requestsTaken goalId ((state, label) :: past) := by
  apply requestsTaken_later
  rcases step_moves stepped with ⟨same, _, _⟩ | ⟨index, input, call, next, rfl, looked, moved, same, _⟩
  · rw [same] at found
    exact honest.buffered goalId reqId found
  · rw [same] at found
    rcases advance_resultRequests moved with kept | ⟨handle, status, result, stored, goal, rfl, _, inserted⟩
    · rw [kept] at found
      exact honest.buffered goalId reqId found
    · rw [inserted, TreeMap.getElem?_insert] at found
      simp only [Std.compare_eq_iff_eq] at found
      split at found
      · rename_i own
        subst own
        cases found
        exact honest.inHand _ (List.mem_of_getElem? looked) goal reqId rfl
      · exact honest.buffered goalId reqId found

theorem ServerState.Honest.written_step (honest : state.Honest past) (stepped : state.step label = some after) :
    ∀ goalId reqId response, .resultResponse goalId reqId response ∈ after.events →
      reqId ∈ requestsTaken goalId ((state, label) :: past) ∧ Given ((state, label) :: past) goalId response := by
  intro goalId reqId response member
  rcases event_origin stepped member with earlier | new
  · obtain ⟨taken, given⟩ := honest.written goalId reqId response earlier
    exact ⟨requestsTaken_later taken _, given.later _⟩
  · cases new with
    | @result _ handle status result _ found =>
      have present := List.mem_of_getElem? found
      obtain ⟨before, started⟩ := honest.given _ present handle status result rfl
      exact ⟨requestsTaken_later (honest.inHand _ present handle.goalId reqId rfl) _,
        before, status, List.mem_cons_of_mem _ started, rfl⟩

theorem honest_reachable (reachable : (actionServer Goal Result Feedback).traced.Reachable (state, past)) :
    state.Honest past := by
  refine reachable.traced_invariant ServerState.Honest ?_ ?_
  · refine ⟨?_, ?_, ?_, ?_⟩
    · intro goalId reqId found
      simp [actionServer, AsyncActionServer.new] at found
    · intro call member
      cases member
    · intro call member
      cases member
    · intro goalId reqId response member
      cases member
  · intro before label after past _ held stepped
    exact ⟨held.buffered_step stepped, held.inHand_step stepped, held.given_step stepped, held.written_step stepped⟩

theorem timesAccepted_append (goalId : GoalId) (events more : List (Event Result Feedback)) :
    timesAccepted goalId (events ++ more) = timesAccepted goalId events + timesAccepted goalId more :=
  List.countP_append

theorem timesAccepted_eq_zero {events : List (Event Result Feedback)} (absent : .goalAccepted goalId ∉ events) :
    timesAccepted goalId events = 0 := by
  rw [timesAccepted, List.countP_eq_zero]
  intro event member accepts
  cases event with
  | goalAccepted =>
    cases of_decide_eq_true accepts
    exact absent member
  | _ => cases of_decide_eq_true accepts

/-- An acceptance finds its goal new. -/
theorem timesAccepted_step (known : .goalAccepted goalId ∈ state.events → state.server.statusOf goalId ≠ some .unknown)
    (once : timesAccepted goalId state.events ≤ 1) (stepped : state.step label = some after) :
    timesAccepted goalId after.events ≤ 1 := by
  rcases step_moves stepped with ⟨_, same, _⟩ | ⟨index, input, call, next, rfl, _, moved, _, more⟩
  · rw [same]
    exact once
  · have quiet : .goalAccepted goalId ∉ next.events → timesAccepted goalId after.events ≤ 1 := by
      intro absent
      rw [more, timesAccepted_append, timesAccepted_eq_zero absent]
      exact once
    cases advance_writes moved with
    | @accepts handle now _ _ accepted events =>
      by_cases own : handle.goalId = goalId
      · subst own
        have fresh : .goalAccepted handle.goalId ∉ state.events := fun member =>
          known member (AsyncActionServer.acceptGoal_ok accepted).1
        rw [more, timesAccepted_append, timesAccepted_eq_zero fresh, events, Nat.zero_add]
        exact List.countP_le_length
      · apply quiet
        rw [events, List.mem_singleton]
        intro same
        cases same
        exact own rfl
    | silent events | answers _ _ events | feedback _ _ events | result _ _ _ events | cancels _ events
    | statuses _ events =>
      apply quiet
      simp [events]

/-- A goal whose id is requested once is accepted once. -/
theorem timesAccepted_reachable (reachable : (actionServer Goal Result Feedback).traced.Reachable (state, past))
    (distinct : (requestedGoals past).Nodup) (goalId : GoalId) : timesAccepted goalId state.events ≤ 1 := by
  refine reachable.traced_invariant_of (fun past => (requestedGoals past).Nodup) (fun _ _ => distinct_earlier)
    (fun state _ => timesAccepted goalId state.events ≤ 1) ?_ ?_ distinct
  · exact Nat.zero_le 1
  · intro before label after past reached distinct held stepped
    have known := (exclusive_reachable reached (distinct_earlier distinct)).known goalId
    exact timesAccepted_step (fun accepted => (known accepted).2) held stepped

end Steps

theorem balanced_reachable {state : ServerState Goal Result Feedback} {past : ServerPast Goal Result Feedback}
    (reachable : (actionServer Goal Result Feedback).traced.Reachable (state, past))
    (careful : ∀ before label, (before, label) ∈ past → cancelsUnfinished before label = true) (goalId : GoalId) :
    Balanced goalId (state.server.statusOf goalId) state.events := by
  refine reachable.traced_invariant_of (fun past => ∀ before label, (before, label) ∈ past →
    cancelsUnfinished before label = true) (fun _ _ careful before label member =>
      careful before label (List.mem_cons_of_mem _ member))
    (fun state _ => Balanced goalId (state.server.statusOf goalId) state.events) ?_ ?_ careful
  · simp [actionServer, AsyncActionServer.new, AsyncActionServer.statusOf, Balanced, resultsSinceAccepted,
      resultsWritten, timesAccepted]
  · intro before label after past _ careful held stepped
    exact (ServerState.guarded_step (careful before label List.mem_cons_self) stepped goalId).2 held

theorem eq_of_countP_le_one {Item : Type} {test : Item → Bool} {items : List Item} (once : items.countP test ≤ 1)
    {first second : Item} (member : first ∈ items) (passes : test first = true) (member' : second ∈ items)
    (passes' : test second = true) : first = second := by
  rw [List.countP_eq_length_filter] at once
  have inside := List.mem_filter.mpr ⟨member, passes⟩
  have inside' := List.mem_filter.mpr ⟨member', passes'⟩
  match items.filter test, once, inside, inside' with
  | [], _, empty, _ => cases empty
  | [only], _, here, here' => rw [List.mem_singleton.mp here, List.mem_singleton.mp here']

/-- A goal that is requested once, and not set back to canceling after its end, has one result. -/
theorem one_result {state : ServerState Goal Result Feedback} {past : ServerPast Goal Result Feedback}
    (reachable : (actionServer Goal Result Feedback).traced.Reachable (state, past))
    (distinct : (requestedGoals past).Nodup)
    (careful : ∀ before label, (before, label) ∈ past → cancelsUnfinished before label = true) {goalId : GoalId}
    {reqId reqId' : RmwRequestId} {response response' : GetResultResponse Result}
    (written : .resultResponse goalId reqId response ∈ state.events)
    (written' : .resultResponse goalId reqId' response' ∈ state.events) : reqId = reqId' ∧ response = response' := by
  have once := timesAccepted_reachable reachable distinct goalId
  have bounds := (balanced_reachable reachable careful goalId).bounds
  have same := eq_of_countP_le_one (bounds.2.trans once) written (by simp) written' (by simp)
  cases same
  exact ⟨rfl, rfl⟩

def AfterPublish.cancelId : AfterPublish → Option RmwRequestId
  | .respondToCancelRequests handle _ => some handle.reqId
  | _ => none

def Outcome.cancelId : Outcome Goal → Option RmwRequestId
  | .cancelRequest (.ok handle) => some handle.reqId
  | _ => none

def Call.cancelId : Call Goal Result Feedback → Option RmwRequestId
  | .cancelSelect reqId _ => some reqId
  | .cancelCollect handle _ _ | .cancelSet handle _ _ | .cancelRespond handle _ => some handle.reqId
  | .publishStatuses next | .publishSend _ next => next.cancelId
  | .markGoalFinished _ outcome | .done outcome => outcome.cancelId
  | _ => none

def CancelTaken (past : ServerPast Goal Result Feedback) (reqId : RmwRequestId) : Prop :=
  ∃ before index goalInfo, (before, .advance index (.cancelRequest reqId goalInfo)) ∈ past

theorem advance_cancelId {server : AsyncActionServer Goal} {call : Call Goal Result Feedback} {input : Input Goal}
    {next : Advance Goal Result Feedback} (stepped : advance server call input = some next) :
    next.call.cancelId = none ∨ next.call.cancelId = call.cancelId ∨
      ∃ reqId goalInfo, input = .cancelRequest reqId goalInfo ∧ next.call.cancelId = some reqId := by
  cases advance_cases stepped with
  | cancelReceived => exact .inr (.inr ⟨_, _, rfl, rfl⟩)
  | cancelSelected | collected | collecting | cancelsSet | cancelSet | publishing | marked => exact .inr (.inl rfl)
  | @published _ following | @unpublished _ following => cases following <;> exact .inr (.inl rfl)
  | _ => exact .inl rfl

structure ServerState.CancelsTaken (state : ServerState Goal Result Feedback) (past : ServerPast Goal Result Feedback) :
    Prop where
  calls : ∀ call ∈ state.calls, ∀ reqId, call.cancelId = some reqId → CancelTaken past reqId
  written : ∀ reqId response, .cancelResponse reqId response ∈ state.events → CancelTaken past reqId

section Cancels

variable {state after : ServerState Goal Result Feedback} {past : ServerPast Goal Result Feedback}
  {label : ServerLabel Goal Result Feedback} {reqId : RmwRequestId}

theorem CancelTaken.later (taken : CancelTaken past reqId)
    (entry : ServerState Goal Result Feedback × ServerLabel Goal Result Feedback) :
    CancelTaken (entry :: past) reqId := by
  obtain ⟨before, index, goalInfo, member⟩ := taken
  exact ⟨before, index, goalInfo, List.mem_cons_of_mem _ member⟩

theorem ServerState.CancelsTaken.calls_step (cancels : state.CancelsTaken past)
    (stepped : state.step label = some after) :
    ∀ call ∈ after.calls, ∀ reqId, call.cancelId = some reqId → CancelTaken ((state, label) :: past) reqId := by
  intro call member reqId own
  rcases step_call stepped member with
    earlier | ⟨operation, rfl, has, rfl⟩ | ⟨index, input, moving, next, rfl, present, moved, rfl, _, _⟩ | rfl
  · exact (cancels.calls call earlier reqId own).later _
  · cases operation with
    | respondToCancelRequests handle goalsToCancel =>
      cases own
      obtain ⟨call, present, returned⟩ := List.mem_filterMap.mp has
      refine (cancels.calls call present handle.reqId ?_).later _
      split at returned
      · cases returned
        rfl
      · cases returned
    | _ => cases own
  · rcases advance_cancelId moved with none | same | ⟨taken, goalInfo, rfl, has⟩
    · rw [none] at own
      cases own
    · exact (cancels.calls moving present reqId (same.symm.trans own)).later _
    · rw [has] at own
      cases own
      exact ⟨state, index, goalInfo, List.mem_cons_self⟩
  · cases own

theorem ServerState.CancelsTaken.step (cancels : state.CancelsTaken past) (stepped : state.step label = some after) :
    after.CancelsTaken ((state, label) :: past) := by
  refine ⟨cancels.calls_step stepped, ?_⟩
  intro reqId response member
  rcases event_origin stepped member with earlier | new
  · exact (cancels.written reqId response earlier).later _
  · cases new with
    | @cancels _ _ handle _ found => exact (cancels.calls _ (List.mem_of_getElem? found) handle.reqId rfl).later _

theorem cancelsTaken_reachable (reachable : (actionServer Goal Result Feedback).traced.Reachable (state, past)) :
    state.CancelsTaken past := by
  refine reachable.traced_invariant ServerState.CancelsTaken ?_ ?_
  · refine ⟨?_, ?_⟩
    · intro call member
      cases member
    · intro reqId response member
      cases member
  · intro before label after past _ held stepped
    exact held.step stepped

end Cancels

end Ros2Client
