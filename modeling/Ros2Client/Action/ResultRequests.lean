import Ros2Client.Action.ResultDelivery
import Ros2Client.Transition.Threads
import Ros2Client.Transition.Traces

open Transition
open Std (TreeMap)

namespace Ros2Client

variable {Goal Result Feedback : Type}

def requestsTaken (goalId : GoalId) (past : ServerPast Goal Result Feedback) : List RmwRequestId :=
  past.filterMap fun
    | (_, .advance _ (.resultRequest reqId requested)) => if requested = goalId then some reqId else none
    | _ => none

def requestsAnswered (goalId : GoalId) (events : List (Event Result Feedback)) : List RmwRequestId :=
  events.filterMap fun
    | .resultResponse answered reqId _ => if answered = goalId then some reqId else none
    | _ => none

def WrittenAtEnd (past : ServerPast Goal Result Feedback) (goalId : GoalId) (reqId : RmwRequestId)
    (response : GetResultResponse Result) : Prop :=
  ∃ before index handle status result after, (before, .advance index (.written true)) ∈ past ∧
    before.calls[index]? = some (.resultFinish handle status result reqId) ∧ handle.goalId = goalId ∧
    before.server.finishGoal goalId status = .ok after ∧ response = ⟨status.toStatus, result⟩

/-- In the step with which `send_result_response` returns `Ok`, every request for the goal that was
    taken has its answer, and the buffer has none. -/
def AnswersEveryRequest (system : System (ServerState Goal Result Feedback × ServerPast Goal Result Feedback)
    (ServerLabel Goal Result Feedback)) : Prop :=
  ∀ state past index goalId after, system.Reachable (state, past) →
    state.calls[index]? = some (.markGoalFinished goalId (.result goalId (.ok ()))) →
    system.step (state, past) (.advance index .silent) = some after →
    (∀ reqId ∈ requestsTaken goalId past, ∃ response, .resultResponse goalId reqId response ∈ state.events ∧
      WrittenAtEnd past goalId reqId response) ∧
    after.1.server.resultRequests[goalId]? = none

def AfterPublish.engages : AfterPublish → Option GoalId
  | .sendResultResponse goalId => some goalId
  | _ => none

def Call.engages : Call Goal Result Feedback → Option GoalId
  | .resultTaken handle _ _ _ goalId => if goalId = handle.goalId then some goalId else none
  | .resultFinish handle _ _ _ => some handle.goalId
  | .publishStatuses next | .publishSend _ next => next.engages
  | .markGoalFinished _ (.result goalId _) => some goalId
  | _ => none

def Call.request : Call Goal Result Feedback → Option (GoalId × RmwRequestId)
  | .resultTaken _ _ _ reqId goalId => some (goalId, reqId)
  | .resultFinish handle _ _ reqId => some (handle.goalId, reqId)
  | _ => none

def Call.lost : Call Goal Result Feedback → Option GoalId
  | .done (.result _ (.error .ddsReadError)) => none
  | .done (.result goalId (.error _)) => some goalId
  | _ => none

def Call.Concerns (goalId : GoalId) (call : Call Goal Result Feedback) : Prop :=
  call.engages = some goalId ∨ call.request.map Prod.fst = some goalId ∨ call.lost = some goalId

instance (goalId : GoalId) (call : Call Goal Result Feedback) : Decidable (call.Concerns goalId) :=
  inferInstanceAs (Decidable (_ ∨ _ ∨ _))

/-- A call that looks into the buffer does not find its request there. A call that takes a request
    for its goal is the first to have one, and the buffer has none. A request for another goal is
    not taken while a call for that goal has one. Every other step is left alone. -/
def takesFirst (state : ServerState Goal Result Feedback) : ServerLabel Goal Result Feedback → Bool
  | .advance index .silent =>
    match state.calls[index]? with
    | some (.sendResultResponse handle _ _) => state.server.resultRequests[handle.goalId]?.isNone
    | _ => true
  | .advance index (.resultRequest _ goalId) =>
    match state.calls[index]? with
    | some (.resultWait handle _ _) =>
      if goalId = handle.goalId then
        state.server.resultRequests[goalId]?.isNone && state.calls.all fun call => ¬call.Concerns goalId
      else state.calls.all fun call => call.engages ≠ some goalId
    | _ => true
  | _ => true

section Moves

variable {server : AsyncActionServer Goal} {call : Call Goal Result Feedback} {input : Input Goal}
  {next : Advance Goal Result Feedback} {goalId : GoalId} {reqId : RmwRequestId}

theorem advance_request (stepped : advance server call input = some next)
    (request : next.call.request = some (goalId, reqId)) :
    call.request = some (goalId, reqId) ∨ input = .resultRequest reqId goalId ∨
      server.resultRequests[goalId]? = some reqId := by
  cases advance_cases stepped with
  | requestFound found =>
    cases request
    exact .inr (.inr found)
  | requestTaken =>
    cases request
    exact .inr (.inl rfl)
  | requestOwn => exact .inl request
  | @published _ following | @unpublished _ following => cases following <;> cases request
  | _ => cases request

/-- Every way in which a call comes to have a request for its goal. -/
theorem advance_engages (stepped : advance server call input = some next)
    (engaged : next.call.engages = some goalId) :
    call.engages = some goalId ∨
    (∃ handle status result reqId, call = .resultWait handle status result ∧
      input = .resultRequest reqId handle.goalId ∧ goalId = handle.goalId) ∨
    ∃ handle status result, call = .sendResultResponse handle status result ∧ input = .silent ∧
      goalId = handle.goalId ∧ server.resultRequests[goalId]? ≠ none := by
  cases advance_cases stepped with
  | @requestFound handle status result reqId found =>
    cases engaged
    exact .inr (.inr ⟨handle, status, result, rfl, rfl, rfl, by simp [found]⟩)
  | @requestTaken handle status result reqId requested =>
    dsimp only [Call.engages] at engaged
    split at engaged
    · rename_i own
      cases engaged
      subst own
      exact .inr (.inl ⟨handle, status, result, reqId, rfl, rfl, rfl⟩)
    · cases engaged
  | requestOwn =>
    left
    simpa only [Call.engages, if_true] using engaged
  | resultSent _ | publishing => exact .inl engaged
  | @published _ following | @unpublished _ following =>
    cases following with
    | sendResultResponse goalId => exact .inl engaged
    | _ => cases engaged
  | _ => cases engaged

/-- A call that fails with a request in its hand has lost it. -/
theorem advance_lost (stepped : advance server call input = some next) (lost : next.call.lost = some goalId) :
    call.engages = some goalId := by
  cases advance_cases stepped with
  | resultUnsent _ => exact lost
  | @resultRefused _ _ _ _ _ error _ => cases error <;> first | exact lost | cases lost
  | @marked _ outcome =>
    -- The call has engaged the goal of its outcome, whatever this says.
    cases outcome with
    | result _ ended =>
      cases ended with
      | ok => cases lost
      | error error => cases error <;> first | exact lost | cases lost
    | _ => cases lost
  | @published _ following | @unpublished _ following => cases following <;> cases lost
  | _ => cases lost

/-- A request that a call has in its hand it keeps, answers, puts into the buffer or loses. -/
theorem advance_keeps (stepped : advance server call input = some next)
    (request : call.request = some (goalId, reqId)) :
    next.call.request = some (goalId, reqId) ∨ (∃ response, .resultResponse goalId reqId response ∈ next.events) ∨
      next.server.resultRequests[goalId]? ≠ none ∨ next.call.lost = some goalId := by
  cases advance_cases stepped with
  | requestOwn => exact .inl request
  | requestStored foreign =>
    cases request
    exact .inr (.inr (.inl (by simp)))
  | resultSent finished =>
    cases request
    exact .inr (.inl ⟨_, List.mem_singleton_self _⟩)
  | resultUnsent finished =>
    cases request
    exact .inr (.inr (.inr rfl))
  | resultRefused refused =>
    cases request
    have failed := AsyncActionServer.finishGoal_error refused
    exact .inr (.inr (.inr (by rcases failed with rfl | rfl <;> rfl)))
  | _ => cases request

/-- A call that has lost its request has returned. -/
theorem advance_of_lost (lost : call.lost = some goalId) : advance server call input = none := by
  cases call with
  | done outcome => rfl
  | _ => cases lost

/-- A call that comes to concern a goal takes a request for it, or finds one. -/
theorem advance_concerns (stepped : advance server call input = some next) (concerned : next.call.Concerns goalId) :
    call.Concerns goalId ∨ (∃ reqId, input = .resultRequest reqId goalId) ∨
      server.resultRequests[goalId]? ≠ none := by
  rcases concerned with engaged | request | lost
  · rcases advance_engages stepped engaged with before | ⟨_, _, _, reqId, _, taken, rfl⟩ | ⟨_, _, _, _, _, _, found⟩
    · exact .inl (.inl before)
    · exact .inr (.inl ⟨reqId, taken⟩)
    · exact .inr (.inr found)
  · obtain ⟨⟨goalId, reqId⟩, held, rfl⟩ := Option.map_eq_some_iff.mp request
    rcases advance_request stepped held with before | taken | found
    · exact .inl (.inr (.inl (by rw [before]; rfl)))
    · exact .inr (.inl ⟨reqId, taken⟩)
    · exact .inr (.inr (by simp [found]))
  · exact .inl (.inl (advance_lost stepped lost))

end Moves

section History

variable {state : ServerState Goal Result Feedback} {past : ServerPast Goal Result Feedback}
  {label : ServerLabel Goal Result Feedback} {goalId : GoalId} {reqId : RmwRequestId}

theorem requestsTaken_quiet (quiet : ∀ index reqId, label ≠ .advance index (.resultRequest reqId goalId)) :
    requestsTaken goalId ((state, label) :: past) = requestsTaken goalId past := by
  apply List.filterMap_cons_none
  split
  · rename_i index reqId requested same
    cases same
    by_cases own : requested = goalId
    · subst own
      exact absurd rfl (quiet index reqId)
    · exact if_neg own
  · rfl

theorem requestsTaken_take (index : Nat) :
    requestsTaken goalId ((state, .advance index (.resultRequest reqId goalId)) :: past) =
      reqId :: requestsTaken goalId past := by
  apply List.filterMap_cons_some
  simp

theorem requestsAnswered_later {events more : List (Event Result Feedback)}
    (answered : reqId ∈ requestsAnswered goalId events) : reqId ∈ requestsAnswered goalId (events ++ more) := by
  rw [requestsAnswered, List.filterMap_append]
  exact List.mem_append_left _ answered

theorem requestsAnswered_of_event {events : List (Event Result Feedback)} {response : GetResultResponse Result}
    (member : .resultResponse goalId reqId response ∈ events) : reqId ∈ requestsAnswered goalId events :=
  List.mem_filterMap.mpr ⟨_, member, by simp⟩

theorem exists_response {events : List (Event Result Feedback)} (answered : reqId ∈ requestsAnswered goalId events) :
    ∃ response, .resultResponse goalId reqId response ∈ events := by
  obtain ⟨event, member, answers⟩ := List.mem_filterMap.mp answered
  cases event with
  | resultResponse answered' reqId' response =>
    simp only [Option.ite_none_right_eq_some, Option.some.injEq] at answers
    obtain ⟨rfl, rfl⟩ := answers
    exact ⟨response, member⟩
  | _ => cases answers

theorem WrittenAtEnd.later {response : GetResultResponse Result} (written : WrittenAtEnd past goalId reqId response)
    (entry : ServerState Goal Result Feedback × ServerLabel Goal Result Feedback) :
    WrittenAtEnd (entry :: past) goalId reqId response := by
  obtain ⟨before, index, handle, status, result, after, member, rest⟩ := written
  exact ⟨before, index, handle, status, result, after, List.mem_cons_of_mem _ member, rest⟩

end History

/-- Every request that was taken is answered, lies in the buffer, where nothing is ever removed, or is
    in the hand of a call or lost by one. -/
def ServerState.Accounted (state : ServerState Goal Result Feedback) (past : ServerPast Goal Result Feedback) : Prop :=
  ∀ goalId, ∀ reqId ∈ requestsTaken goalId past, reqId ∈ requestsAnswered goalId state.events ∨
    state.server.resultRequests[goalId]? ≠ none ∨
    ∃ call ∈ state.calls, call.request = some (goalId, reqId) ∨ call.lost = some goalId

/-- While a call for a goal has a request, no other call concerns the goal, and the buffer has no
    request for it. -/
def ServerState.Unshared (state : ServerState Goal Result Feedback) : Prop :=
  ∀ (index : Nat) (call : Call Goal Result Feedback) (goalId : GoalId), state.calls[index]? = some call →
    call.engages = some goalId →
    state.server.resultRequests[goalId]? = none ∧
    ∀ (place : Nat) (other : Call Goal Result Feedback), state.calls[place]? = some other → place ≠ index →
      ¬other.Concerns goalId

section Steps

variable {state after : ServerState Goal Result Feedback} {past : ServerPast Goal Result Feedback}
  {label : ServerLabel Goal Result Feedback} {index : Nat} {input : Input Goal} {call : Call Goal Result Feedback}
  {next : Advance Goal Result Feedback}

theorem operation_idle (operation : Operation Result Feedback) (goalId : GoalId) :
    ¬(operation.call : Call Goal Result Feedback).Concerns goalId := by
  cases operation <;> simp [Operation.call, Call.Concerns, Call.engages, Call.request, Call.lost]

theorem dropped_idle (goalId : GoalId) : ¬(.dropped : Call Goal Result Feedback).Concerns goalId := by
  simp [Call.Concerns, Call.engages, Call.request, Call.lost]

theorem suspended_idle (suspended : call.Suspended = true) (goalId : GoalId) : ¬call.Concerns goalId := by
  cases call with
  | receiveNewGoal | resultWait | receiveCancelRequest | cancelRespond =>
    simp [Call.Concerns, Call.engages, Call.request, Call.lost]
  | _ => cases suspended

theorem Call.Concerns.of_request {goalId : GoalId} {reqId : RmwRequestId}
    (kept : call.request = some (goalId, reqId) ∨ call.lost = some goalId) : call.Concerns goalId := by
  rcases kept with request | lost
  · exact .inr (.inl (by rw [request]; rfl))
  · exact .inr (.inr lost)

theorem requests_kept (moved : advance state.server call input = some next) {goalId : GoalId}
    (buffered : state.server.resultRequests[goalId]? ≠ none) : next.server.resultRequests[goalId]? ≠ none := by
  rcases advance_resultRequests moved with same | ⟨_, _, _, reqId, stored, _, _, inserted⟩
  · rwa [same]
  · rw [inserted, TreeMap.getElem?_insert]
    split
    · simp
    · exact buffered

/-- A request that was taken in this step is in the hand of the call that took it. -/
theorem ServerState.Accounted.advance (accounted : state.Accounted past) (found : state.calls[index]? = some call)
    (moved : advance state.server call input = some next) :
    ServerState.Accounted ⟨next.server, state.calls.set index next.call, state.events ++ next.events⟩
      ((state, .advance index input) :: past) := by
  intro goalId reqId taken
  have inside : index < state.calls.length := (List.getElem?_eq_some_iff.mp found).1
  by_cases now : input = .resultRequest reqId goalId
  · subst now
    cases advance_cases moved with
    | requestTaken => exact .inr (.inr ⟨_, List.mem_set inside _, .inl rfl⟩)
  have earlier : reqId ∈ requestsTaken goalId past := by
    obtain ⟨⟨before, label⟩, member, takes⟩ := List.mem_filterMap.mp taken
    rcases List.mem_cons.mp member with same | old
    · cases same
      split at takes
      · rename_i same
        cases same
        obtain ⟨own, rfl⟩ := by simpa using takes
        exact absurd (by rw [own]) now
      · cases takes
    · exact List.mem_filterMap.mpr ⟨(before, label), old, takes⟩
  rcases accounted goalId reqId earlier with answered | buffered | ⟨holder, member, keeps⟩
  · exact .inl (requestsAnswered_later answered)
  · exact .inr (.inl (requests_kept moved buffered))
  rcases mem_set_of_mem found member next.call with rfl | still
  · rcases keeps with request | lost
    · rcases advance_keeps moved request with held | ⟨response, answer⟩ | stored | lost
      · exact .inr (.inr ⟨_, List.mem_set inside _, .inl held⟩)
      · exact .inl (requestsAnswered_of_event (List.mem_append_right _ answer))
      · exact .inr (.inl stored)
      · exact .inr (.inr ⟨_, List.mem_set inside _, .inr lost⟩)
    · rw [advance_of_lost lost] at moved
      cases moved
  · exact .inr (.inr ⟨holder, still, keeps⟩)

theorem ServerState.Accounted.step (accounted : state.Accounted past) (stepped : state.step label = some after) :
    after.Accounted ((state, label) :: past) := by
  rcases ServerState.step_cases stepped with
    ⟨operation, rfl, _, rfl⟩ | ⟨index, input, call, next, rfl, found, moved, rfl⟩ | ⟨index, call, rfl, found, idle, rfl⟩
  · intro goalId reqId taken
    rw [requestsTaken_quiet (by simp)] at taken
    rcases accounted goalId reqId taken with answered | buffered | ⟨holder, member, keeps⟩
    · exact .inl answered
    · exact .inr (.inl buffered)
    · exact .inr (.inr ⟨holder, List.mem_append_left _ member, keeps⟩)
  · exact accounted.advance found moved
  · intro goalId reqId taken
    rw [requestsTaken_quiet (by simp)] at taken
    rcases accounted goalId reqId taken with answered | buffered | ⟨holder, member, keeps⟩
    · exact .inl answered
    · exact .inr (.inl buffered)
    rcases mem_set_of_mem found member .dropped with rfl | still
    · exact absurd (Call.Concerns.of_request keeps) (suspended_idle idle goalId)
    · exact .inr (.inr ⟨holder, still, keeps⟩)

/-- What the guard says of a step that takes a request. -/
theorem takesFirst_take {handle : ExecutingGoalHandle} {status : GoalEndStatus} {result : Result}
    {reqId : RmwRequestId} {goalId : GoalId}
    (guarded : takesFirst state (.advance index (.resultRequest reqId goalId)) = true)
    (found : state.calls[index]? = some (.resultWait handle status result)) :
    (goalId = handle.goalId → state.server.resultRequests[goalId]? = none ∧
      ∀ other ∈ state.calls, ¬other.Concerns goalId) ∧
    ∀ other ∈ state.calls, other.engages ≠ some goalId := by
  simp only [takesFirst, found] at guarded
  split at guarded
  · simp only [Bool.and_eq_true, Option.isNone_iff_eq_none, List.all_eq_true, decide_eq_true_eq] at guarded
    exact ⟨fun _ => guarded, fun other member engaged => guarded.2 other member (.inl engaged)⟩
  · rename_i foreign
    simp only [List.all_eq_true, decide_eq_true_eq] at guarded
    exact ⟨fun own => absurd own foreign, guarded⟩

theorem takesFirst_missing {handle : ExecutingGoalHandle} {status : GoalEndStatus} {result : Result}
    (guarded : takesFirst state (.advance index .silent) = true)
    (found : state.calls[index]? = some (.sendResultResponse handle status result)) :
    state.server.resultRequests[handle.goalId]? = none := by
  simpa only [takesFirst, found, Option.isNone_iff_eq_none] using guarded

/-- The call that moves comes to have a request for its goal only as the first one. -/
theorem ServerState.Unshared.moves (alone : state.Unshared) (guarded : takesFirst state (.advance index input) = true)
    (found : state.calls[index]? = some call) (moved : advance state.server call input = some next) {goalId : GoalId}
    (engaged : next.call.engages = some goalId) :
    state.server.resultRequests[goalId]? = none ∧
      ∀ (place : Nat) (other : Call Goal Result Feedback), state.calls[place]? = some other → place ≠ index →
        ¬other.Concerns goalId := by
  rcases advance_engages moved engaged with
    before | ⟨handle, status, result, reqId, rfl, rfl, rfl⟩ | ⟨handle, status, result, rfl, rfl, rfl, buffered⟩
  · exact alone index call goalId found before
  · obtain ⟨first, _⟩ := takesFirst_take guarded found
    obtain ⟨unbuffered, free⟩ := first rfl
    exact ⟨unbuffered, fun place other looked _ => free other (List.mem_of_getElem? looked)⟩
  · exact absurd (takesFirst_missing guarded found) buffered

theorem ServerState.Unshared.advance (alone : state.Unshared) (guarded : takesFirst state (.advance index input) = true)
    (found : state.calls[index]? = some call) (moved : advance state.server call input = some next) :
    ServerState.Unshared ⟨next.server, state.calls.set index next.call, state.events ++ next.events⟩ := by
  intro place holder goalId looked engaged
  rcases lookup_set looked with ⟨rfl, rfl⟩ | ⟨apart, before⟩
  · obtain ⟨unbuffered, free⟩ := alone.moves guarded found moved engaged
    refine ⟨?_, ?_⟩
    · show next.server.resultRequests[goalId]? = none
      rcases advance_resultRequests moved with same | ⟨_, _, _, _, _, rfl, foreign, _⟩
      · rwa [same]
      · cases advance_cases moved with
        | requestOwn => exact absurd rfl foreign
        | requestStored _ => cases engaged
    · intro place' other looked' apart'
      rw [List.getElem?_set_ne (Ne.symm apart')] at looked'
      exact free place' other looked' apart'
  · obtain ⟨unbuffered, free⟩ := alone place holder goalId before engaged
    have idle : ¬call.Concerns goalId := free index call found (Ne.symm apart)
    refine ⟨?_, ?_⟩
    · show next.server.resultRequests[goalId]? = none
      rcases advance_resultRequests moved with same | ⟨_, _, _, _, stored, rfl, _, inserted⟩
      · rwa [same]
      · have other : stored ≠ goalId := by
          intro same
          exact idle (.inr (.inl (congrArg some same)))
        rw [inserted, TreeMap.getElem?_insert]
        simp only [Std.compare_eq_iff_eq, other, ite_false]
        exact unbuffered
    · intro place' other looked' apart'
      rcases lookup_set looked' with ⟨rfl, rfl⟩ | ⟨_, before'⟩
      · intro concerned
        rcases advance_concerns moved concerned with old | ⟨reqId, rfl⟩ | buffered
        · exact idle old
        · cases advance_cases moved with
          | requestTaken => exact (takesFirst_take guarded found).2 holder (List.mem_of_getElem? before) engaged
        · exact buffered unbuffered
      · exact free place' other before' apart'

theorem ServerState.Unshared.step (alone : state.Unshared) (guarded : takesFirst state label = true)
    (stepped : state.step label = some after) : after.Unshared := by
  rcases ServerState.step_cases stepped with
    ⟨operation, rfl, _, rfl⟩ | ⟨index, input, call, next, rfl, found, moved, rfl⟩ | ⟨index, call, rfl, _, _, rfl⟩
  · intro place holder goalId looked engaged
    rcases lookup_concat looked with before | ⟨_, rfl⟩
    · obtain ⟨unbuffered, free⟩ := alone place holder goalId before engaged
      refine ⟨unbuffered, ?_⟩
      intro place' other looked' apart
      rcases lookup_concat looked' with before' | ⟨_, rfl⟩
      · exact free place' other before' apart
      · exact operation_idle operation goalId
    · exact absurd (.inl engaged) (operation_idle operation goalId)
  · exact alone.advance guarded found moved
  · intro place holder goalId looked engaged
    rcases lookup_set looked with ⟨_, rfl⟩ | ⟨_, before⟩
    · cases engaged
    · obtain ⟨unbuffered, free⟩ := alone place holder goalId before engaged
      refine ⟨unbuffered, ?_⟩
      intro place' other looked' apart
      rcases lookup_set looked' with ⟨_, rfl⟩ | ⟨_, before'⟩
      · exact dropped_idle goalId
      · exact free place' other before' apart

/-- A response is written only in the step that ends the goal. -/
theorem written_step (written : ∀ goalId reqId response, .resultResponse goalId reqId response ∈ state.events →
      WrittenAtEnd past goalId reqId response) (stepped : state.step label = some after) :
    ∀ goalId reqId response, .resultResponse goalId reqId response ∈ after.events →
      WrittenAtEnd ((state, label) :: past) goalId reqId response := by
  intro goalId reqId response member
  rcases ServerState.step_cases stepped with
    ⟨operation, rfl, _, rfl⟩ | ⟨index, input, call, next, rfl, found, moved, rfl⟩ | ⟨index, call, rfl, _, _, rfl⟩
  · exact (written goalId reqId response member).later _
  · rcases List.mem_append.mp member with old | new
    · exact (written goalId reqId response old).later _
    · cases advance_cases moved with
      | @resultSent handle status result _ after finished =>
        rw [List.mem_singleton] at new
        cases new
        exact ⟨state, index, handle, status, result, after, List.mem_cons_self, found, rfl, finished, rfl⟩
      | _ => simp at new
  · exact (written goalId reqId response member).later _

end Steps

theorem every_request_is_answered (Goal Result Feedback : Type) :
    AnswersEveryRequest ((actionServer Goal Result Feedback).traced.restrict fun traced label =>
      takesFirst traced.1 label = true) := by
  intro state past index goalId after reachable found stepped
  obtain ⟨accounted, alone, written⟩ := reachable.guarded_invariant
    (fun state past => state.Accounted past ∧ state.Unshared ∧
      ∀ goalId reqId response, .resultResponse goalId reqId response ∈ state.events →
        WrittenAtEnd past goalId reqId response)
    (by
      refine ⟨?_, ?_, ?_⟩
      · intro goalId reqId taken
        cases taken
      · intro place holder goalId looked
        cases looked
      · intro goalId reqId response member
        cases member)
    (by
      intro before label after past guarded held moved
      exact ⟨held.1.step moved, held.2.1.step guarded moved, written_step held.2.2 moved⟩)
  obtain ⟨unbuffered, free⟩ := alone index _ goalId found rfl
  refine ⟨?_, ?_⟩
  · intro reqId taken
    rcases accounted goalId reqId taken with answered | buffered | ⟨holder, member, keeps⟩
    · obtain ⟨response, member⟩ := exists_response answered
      exact ⟨response, member, written goalId reqId response member⟩
    · exact absurd unbuffered buffered
    · -- The call that returns has no request in its hand, and no other call concerns the goal.
      obtain ⟨place, looked⟩ := List.mem_iff_getElem?.mp member
      by_cases same : place = index
      · rw [same, found] at looked
        cases looked
        rcases keeps with request | lost
        · cases request
        · cases lost
      · exact absurd (Call.Concerns.of_request keeps) (free place holder looked same)
  · obtain ⟨_, moved⟩ := System.restrict_step.mp stepped
    have returns : state.step (.advance index .silent) = some after.1 := (System.traced_step.mp moved).1
    rcases ServerState.step_cases returns with
      ⟨_, same, _⟩ | ⟨_, _, call, next, same, found', moved, reached⟩ | ⟨_, _, same, _⟩
    · cases same
    · cases same
      rw [found] at found'
      cases found'
      cases moved
      rw [reached]
      exact unbuffered
    · cases same

def Call.returnsResult (goalId : GoalId) : Call Goal Result Feedback → Bool
  | .markGoalFinished marked (.result ended (.ok ())) => marked = goalId ∧ ended = goalId
  | _ => false

theorem found_of_returns {state : ServerState Goal Result Feedback} {index : Nat} {goalId : GoalId}
    (returns : state.calls[index]?.any (Call.returnsResult goalId) = true) :
    state.calls[index]? = some (.markGoalFinished goalId (.result goalId (.ok ()))) := by
  obtain ⟨call, found, returns⟩ := (Option.any_eq_true _ _).mp returns
  rw [found]
  unfold Call.returnsResult at returns
  split at returns
  · obtain ⟨rfl, rfl⟩ := of_decide_eq_true returns
    rfl
  · cases returns

/-- Two goals are executing. The call for goal 1 comes upon the request for goal 2 and puts it into
    the buffer. -/
def storedRequest : List (ServerLabel Nat Nat Nat) :=
  let reqId := exampleRequest
  [.start .receiveNewGoal, .advance 0 (.goalRequest (reqId 1) ⟨1, 10⟩),
   .start .receiveNewGoal, .advance 1 (.goalRequest (reqId 2) ⟨2, 20⟩),
   .start (.acceptGoal ⟨1, reqId 1⟩), .advance 2 (.now ⟨100⟩), .advance 2 .silent, .advance 2 (.written true),
   .advance 2 (.written true),
   .start (.acceptGoal ⟨2, reqId 2⟩), .advance 3 (.now ⟨101⟩), .advance 3 .silent, .advance 3 (.written true),
   .advance 3 (.written true),
   .start (.startExecutingGoal ⟨1⟩), .advance 4 .silent, .advance 4 .silent, .advance 4 (.written true),
   .start (.startExecutingGoal ⟨2⟩), .advance 5 .silent, .advance 5 .silent, .advance 5 (.written true),
   .start (.sendResultResponse ⟨1⟩ .succeeded 11), .advance 6 .silent, .advance 6 .silent,
   .advance 6 (.resultRequest (reqId 3) 2), .advance 6 .silent]

/-- Behind that, the call for goal 1 takes its own request, answers it and is about to return. -/
theorem foreign_request_kept : ∃ state past,
    ((actionServer Nat Nat Nat).traced.restrict fun traced label => takesFirst traced.1 label = true).Reachable
      (state, past) ∧
    state.server.resultRequests[(2 : GoalId)]? ≠ none ∧ exampleRequest 4 ∈ requestsTaken 1 past ∧
    ∃ response, .resultResponse 1 (exampleRequest 4) response ∈ state.events := by
  obtain ⟨⟨state, past⟩, reachable, checked⟩ := System.reachable_of_check
    ((actionServer Nat Nat Nat).traced.restrict fun traced label => takesFirst traced.1 label = true)
    (storedRequest ++ [.advance 6 (.resultRequest (exampleRequest 4) 1), .advance 6 .silent,
      .advance 6 (.written true), .advance 6 .silent, .advance 6 (.written true)])
    (fun traced => traced.1.calls[6]?.any (Call.returnsResult 1) && traced.1.server.resultRequests.contains 2 &&
      (requestsTaken 1 traced.2).contains (exampleRequest 4)) (by decide)
  simp only [Bool.and_eq_true, List.contains_iff_mem] at checked
  obtain ⟨⟨returns, stored⟩, taken⟩ := checked
  have found := found_of_returns returns
  have stepped : ((actionServer Nat Nat Nat).traced.restrict fun traced label =>
      takesFirst traced.1 label = true).step (state, past) (.advance 6 .silent) =
      some (⟨state.server.markGoalFinished 1, state.calls.set 6 (.done (.result 1 (.ok ()))), state.events ++ []⟩,
        (state, .advance 6 .silent) :: past) := by
    apply System.restrict_step.mpr
    refine ⟨by simp [takesFirst, found], System.traced_step.mpr ?_⟩
    simp [actionServer, ServerState.step, found, advance]
  have answered := (every_request_is_answered Nat Nat Nat state past 6 1 _ reachable found stepped).1
  obtain ⟨response, member, _⟩ := answered _ taken
  rw [TreeMap.contains_eq_isSome_getElem?, Option.isSome_iff_ne_none] at stored
  exact ⟨state, past, reachable, stored, taken, response, member⟩

theorem buffered_request_stays : ¬ AnswersEveryRequest (actionServer Nat Nat Nat).traced := by
  intro answers
  -- Then the call for goal 2 finds its request in the buffer.
  obtain ⟨⟨state, past⟩, reachable, checked⟩ := System.reachable_of_check (actionServer Nat Nat Nat).traced
    (storedRequest ++ [.start (.sendResultResponse ⟨2⟩ .succeeded 22), .advance 7 .silent,
      .advance 7 (.written true), .advance 7 .silent, .advance 7 (.written true)])
    (fun traced => traced.1.calls[7]?.any (Call.returnsResult 2) && traced.1.server.resultRequests.contains 2)
    (by decide)
  obtain ⟨returns, stored⟩ := Bool.and_eq_true_iff.mp checked
  have found := found_of_returns returns
  have stepped : (actionServer Nat Nat Nat).traced.step (state, past) (.advance 7 .silent) =
      some (⟨state.server.markGoalFinished 2, state.calls.set 7 (.done (.result 2 (.ok ()))), state.events ++ []⟩,
        (state, .advance 7 .silent) :: past) := by
    apply System.traced_step.mpr
    simp [actionServer, ServerState.step, found, advance]
  have absent := (answers state past 7 2 _ reachable found stepped).2
  rw [TreeMap.contains_eq_isSome_getElem?] at stored
  have kept : state.server.resultRequests[(2 : GoalId)]? = none := absent
  rw [kept] at stored
  cases stored

end Ros2Client
