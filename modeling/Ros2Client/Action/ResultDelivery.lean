import Ros2Client.Action.Interleaving

open Transition
open Std (TreeMap)

namespace Ros2Client

variable {Goal Result Feedback : Type}

def Call.delivers : Call Goal Result Feedback → Option GoalId
  | .sendResultResponse handle _ _ | .resultStream handle _ _ | .resultWait handle _ _
  | .resultTaken handle _ _ _ _ | .resultFinish handle _ _ _ => some handle.goalId
  | .publishStatuses (.sendResultResponse goalId) | .publishSend _ (.sendResultResponse goalId)
  | .markGoalFinished goalId (.result _ _) => some goalId
  | _ => none

/-- The goal for which a call has found no request in the buffer and has not taken one since:
    the call will wait for the next sample. -/
def Call.awaits : Call Goal Result Feedback → Option GoalId
  | .resultStream handle _ _ | .resultWait handle _ _ => some handle.goalId
  | .resultTaken handle _ _ _ goalId => if goalId = handle.goalId then none else some handle.goalId
  | _ => none

/-- Calls of `send_result_response` run at the same time only for different goals. -/
def deliversApart (state : ServerState Goal Result Feedback) : ServerLabel Goal Result Feedback → Bool
  | .start (.sendResultResponse handle _ _) => state.calls.all fun call => call.delivers ≠ some handle.goalId
  | _ => true

/-- In no state does a call wait for the next sample with the request it needs in the buffer. -/
def NeverStranded (system : System (ServerState Goal Result Feedback) (ServerLabel Goal Result Feedback)) : Prop :=
  ∀ state, system.Reachable state → ∀ handle status result,
    Call.resultWait handle status result ∈ state.calls → state.server.resultRequests[handle.goalId]? = none

/-- Whether a step that puts a request for another goal into the buffer does so while no call for
    that goal has looked into the buffer already. Every other step is left alone. -/
def storesUnawaited (state : ServerState Goal Result Feedback) : ServerLabel Goal Result Feedback → Bool
  | .advance index _ =>
    match state.calls[index]? with
    | some (.resultTaken handle _ _ _ goalId) =>
      goalId = handle.goalId || state.calls.all fun call => call.awaits ≠ some goalId
    | _ => true
  | _ => true

theorem advance_resultRequests {server : AsyncActionServer Goal} {call : Call Goal Result Feedback}
    {input : Input Goal} {next : Advance Goal Result Feedback}
    (stepped : advance server call input = some next) :
    next.server.resultRequests = server.resultRequests ∨
    ∃ handle status result reqId goalId, call = .resultTaken handle status result reqId goalId ∧
      goalId ≠ handle.goalId ∧
      next.server.resultRequests = server.resultRequests.insert goalId reqId := by
  cases advance_cases stepped with
  | received inserted => exact .inl (AsyncActionServer.insertNewGoal_buffers inserted).resultRequests
  | accepted accepted => exact .inl (AsyncActionServer.acceptGoal_buffers accepted).resultRequests
  | rejected rejected => exact .inl (AsyncActionServer.rejectGoal_buffers rejected).resultRequests
  | started started => exact .inl (AsyncActionServer.startExecutingGoal_buffers started).resultRequests
  | resultSent finished | resultUnsent finished =>
    exact .inl (AsyncActionServer.finishGoal_buffers finished).resultRequests
  | aborted aborted => exact .inl (AsyncActionServer.abortGoal_buffers aborted).resultRequests
  | requestStored foreign => exact .inr ⟨_, _, _, _, _, rfl, foreign, rfl⟩
  | _ => exact .inl rfl

theorem advance_awaits {server : AsyncActionServer Goal} {call : Call Goal Result Feedback}
    {input : Input Goal} {next : Advance Goal Result Feedback} {goalId : GoalId}
    (stepped : advance server call input = some next) (awaiting : next.call.awaits = some goalId) :
    call.awaits = some goalId ∨
      (server.resultRequests[goalId]? = none ∧ next.server.resultRequests = server.resultRequests) := by
  cases advance_cases stepped with
  | requestMissing missing =>
    cases awaiting
    exact .inr ⟨missing, rfl⟩
  | streamed => exact .inl awaiting
  | requestTaken =>
    dsimp only [Call.awaits] at awaiting
    split at awaiting
    · cases awaiting
    · exact .inl awaiting
  | requestStored foreign =>
    left
    simpa only [Call.awaits, foreign, ite_false] using awaiting
  | @published _ following | @unpublished _ following => cases following <;> cases awaiting
  | _ => cases awaiting

def AwaitedAbsent (state : ServerState Goal Result Feedback) : Prop :=
  ∀ call ∈ state.calls, ∀ goalId, call.awaits = some goalId → state.server.resultRequests[goalId]? = none

theorem operation_awaits (operation : Operation Result Feedback) :
    (operation.call : Call Goal Result Feedback).awaits = none := by
  cases operation <;> rfl

theorem storesUnawaited_stored {state : ServerState Goal Result Feedback} {index : Nat} {input : Input Goal}
    {handle : ExecutingGoalHandle} {status : GoalEndStatus} {result : Result} {reqId : RmwRequestId}
    {goalId : GoalId} (unawaited : storesUnawaited state (.advance index input) = true)
    (found : state.calls[index]? = some (.resultTaken handle status result reqId goalId))
    (foreign : goalId ≠ handle.goalId) : ∀ call ∈ state.calls, call.awaits ≠ some goalId := by
  simp only [storesUnawaited, found, foreign, decide_false, Bool.false_or, List.all_eq_true,
    decide_eq_true_eq] at unawaited
  exact unawaited

theorem AwaitedAbsent.advance {state : ServerState Goal Result Feedback} {index : Nat} {input : Input Goal}
    {call : Call Goal Result Feedback} {next : Advance Goal Result Feedback} (absent : AwaitedAbsent state)
    (unawaited : storesUnawaited state (.advance index input) = true)
    (found : state.calls[index]? = some call) (moved : advance state.server call input = some next) :
    AwaitedAbsent ⟨next.server, state.calls.set index next.call, state.events ++ next.events⟩ := by
  have present : call ∈ state.calls := List.mem_of_getElem? found
  -- Putting a request into the buffer touches no call that awaits it.
  have kept : ∀ goalId, (∃ other ∈ state.calls, other.awaits = some goalId) →
      next.server.resultRequests[goalId]? = none := by
    intro goalId awaited
    obtain ⟨other, member, awaiting⟩ := awaited
    have before := absent other member goalId awaiting
    rcases advance_resultRequests moved with same | ⟨handle, status, result, reqId, stored, rfl, foreign, inserted⟩
    · rw [same]
      exact before
    · have others := storesUnawaited_stored unawaited found foreign
      have apart : stored ≠ goalId := fun same => others other member (same ▸ awaiting)
      rw [inserted, TreeMap.getElem?_insert]
      simp only [Std.compare_eq_iff_eq, apart, ite_false]
      exact before
  intro other member goalId awaiting
  rcases List.mem_or_eq_of_mem_set member with old | rfl
  · exact kept goalId ⟨other, old, awaiting⟩
  · rcases advance_awaits moved awaiting with earlier | ⟨missed, same⟩
    · exact kept goalId ⟨call, present, earlier⟩
    · show next.server.resultRequests[goalId]? = none
      rw [same]
      exact missed

theorem AwaitedAbsent.step {state after : ServerState Goal Result Feedback}
    {label : ServerLabel Goal Result Feedback} (absent : AwaitedAbsent state)
    (unawaited : storesUnawaited state label = true) (stepped : state.step label = some after) :
    AwaitedAbsent after := by
  rcases ServerState.step_cases stepped with
    ⟨operation, rfl, _, rfl⟩ | ⟨index, input, call, next, rfl, found, moved, rfl⟩ | ⟨index, call, rfl, _, _, rfl⟩
  · intro call member goalId awaiting
    rcases List.mem_append.mp member with old | new
    · exact absent call old goalId awaiting
    · rw [List.mem_singleton.mp new, operation_awaits] at awaiting
      cases awaiting
  · exact absent.advance unawaited found moved
  · intro call member goalId awaiting
    rcases List.mem_or_eq_of_mem_set member with old | rfl
    · exact absent call old goalId awaiting
    · cases awaiting

theorem result_requests_reach_waiters (Goal Result Feedback : Type) :
    NeverStranded ((actionServer Goal Result Feedback).restrict fun state label =>
      storesUnawaited state label = true) := by
  intro state reachable handle status result waiting
  have absent : AwaitedAbsent state := by
    refine reachable.invariant AwaitedAbsent ?_ ?_
    · intro call member
      cases member
    · intro before label after holds stepped
      obtain ⟨unawaited, moved⟩ := System.restrict_step.mp stepped
      exact holds.step unawaited moved
  exact absent _ waiting handle.goalId rfl

/-- Two goals are executing and both calls have missed the buffer when the call for goal 1 takes the
    request for goal 2. -/
def crossedRequests : List (ServerLabel Nat Nat Nat) :=
  let reqId := exampleRequest
  [.start .receiveNewGoal, .advance 0 (.goalRequest (reqId 1) ⟨1, 10⟩),
   .start .receiveNewGoal, .advance 1 (.goalRequest (reqId 2) ⟨2, 20⟩),
   .start (.acceptGoal ⟨1, reqId 1⟩), .advance 2 (.now ⟨100⟩), .advance 2 .silent, .advance 2 (.written true),
   .advance 2 (.written true),
   .start (.acceptGoal ⟨2, reqId 2⟩), .advance 3 (.now ⟨101⟩), .advance 3 .silent, .advance 3 (.written true),
   .advance 3 (.written true),
   .start (.startExecutingGoal ⟨1⟩), .advance 4 .silent, .advance 4 .silent, .advance 4 (.written true),
   .start (.startExecutingGoal ⟨2⟩), .advance 5 .silent, .advance 5 .silent, .advance 5 (.written true),
   .start (.sendResultResponse ⟨1⟩ .succeeded 11), .advance 6 .silent, .advance 6 .silent,
   .start (.sendResultResponse ⟨2⟩ .succeeded 22), .advance 7 .silent, .advance 7 .silent,
   .advance 6 (.resultRequest (reqId 3) 2), .advance 6 .silent]

def Call.waitsFor (goalId : GoalId) : Call Goal Result Feedback → Bool
  | .resultWait handle _ _ => handle.goalId = goalId
  | _ => false

theorem crossed_requests_strand_a_call :
    ¬ NeverStranded ((actionServer Nat Nat Nat).restrict fun state label => deliversApart state label = true) := by
  intro never
  obtain ⟨state, reachable, checked⟩ := System.reachable_of_check
    ((actionServer Nat Nat Nat).restrict fun state label => deliversApart state label = true) crossedRequests
    (fun state : ServerState Nat Nat Nat =>
      state.calls.any (Call.waitsFor 2) && state.server.resultRequests.contains 2) (by decide)
  obtain ⟨waiting, stored⟩ := Bool.and_eq_true_iff.mp checked
  obtain ⟨call, member, waits⟩ := List.any_eq_true.mp waiting
  cases call with
  | resultWait handle status result =>
    have absent := never state reachable handle status result member
    rw [of_decide_eq_true waits] at absent
    rw [TreeMap.contains_eq_isSome_getElem?, absent] at stored
    cases stored
  | _ => cases waits

end Ros2Client
