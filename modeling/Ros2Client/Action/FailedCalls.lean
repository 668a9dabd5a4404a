import Ros2Client.Action.Effects

open Std (TreeMap)

namespace Ros2Client

variable {Goal Result Feedback : Type}

/-- A call that runs while no other call does. -/
def runCall (server : AsyncActionServer Goal) (call : Call Goal Result Feedback) :
    List (Input Goal) → Option (Advance Goal Result Feedback)
  | [] => some ⟨server, call, []⟩
  | input :: inputs =>
    (advance server call input).bind fun next =>
      (runCall next.server next.call inputs).map fun last => { last with events := next.events ++ last.events }

def takenRequests (inputs : List (Input Goal)) : List (GoalId × RmwRequestId) :=
  inputs.filterMap fun | .resultRequest reqId goalId => some (goalId, reqId) | _ => none

def Outcome.error? : Outcome Goal → Option GoalError
  | .accepted (.error error) | .rejected (.error error) | .executing (.error error)
  | .result _ (.error error) | .aborted _ (.error error) => some error
  | _ => none

def FailsWith (server : AsyncActionServer Goal) (call : Call Goal Result Feedback) (inputs : List (Input Goal))
    (after : AsyncActionServer Goal) (error : GoalError) : Prop :=
  ∃ outcome events, runCall server call inputs = some ⟨after, .done outcome, events⟩ ∧ outcome.error? = some error

/-- A request that is not answered is in the buffer or still in the reader. What a call leaves in
    the reader is there before and after it. -/
structure Untouched (server after : AsyncActionServer Goal) (taken : List (GoalId × RmwRequestId)) : Prop where
  goals : ∀ goalId : GoalId, after.goals[goalId]? = server.goals[goalId]?
  finishedGoals : after.finishedGoals = server.finishedGoals
  requests : ∀ (goalId : GoalId) (reqId : RmwRequestId), after.resultRequests[goalId]? = some reqId ↔
    server.resultRequests[goalId]? = some reqId ∨ (goalId, reqId) ∈ taken

def Operation.actsOnGoal : Operation Result Feedback → Bool
  | .acceptGoal _ | .rejectGoal _ | .startExecutingGoal _ | .sendResultResponse .. | .abortExecutingGoal _
  | .abortAcceptedGoal _ => true
  | _ => false

/-- The status of the goal forbids the call before anything is changed or written, and a result
    call finds a request for its goal in the buffer. -/
def Operation.Refused (server : AsyncActionServer Goal) : Operation Result Feedback → Prop
  | .acceptGoal handle | .rejectGoal handle => server.statusOf handle.goalId ≠ some .unknown
  | .sendResultResponse handle _ _ =>
    ¬ (server.statusOf handle.goalId = some .accepted ∨ server.statusOf handle.goalId = some .executing ∨
      server.statusOf handle.goalId = some .canceling) ∧ server.resultRequests[handle.goalId]? ≠ none
  | _ => True

section Alone

variable {server after : AsyncActionServer Goal} {call : Call Goal Result Feedback} {inputs : List (Input Goal)}
  {error : GoalError}

theorem FailsWith.done {outcome : Outcome Goal}
    (fails : FailsWith server (.done outcome : Call Goal Result Feedback) inputs after error) :
    inputs = [] ∧ after = server ∧ outcome.error? = some error := by
  obtain ⟨other, events, ran, failed⟩ := fails
  cases inputs with
  | nil =>
    cases ran
    exact ⟨rfl, rfl, failed⟩
  | cons input inputs => cases ran

theorem FailsWith.next (fails : FailsWith server call inputs after error)
    (running : ∀ outcome, call ≠ .done outcome) :
    ∃ input rest next, inputs = input :: rest ∧ Advances server call input next ∧
      FailsWith next.server next.call rest after error := by
  obtain ⟨outcome, events, ran, failed⟩ := fails
  cases inputs with
  | nil =>
    cases ran
    exact absurd rfl (running outcome)
  | cons input rest =>
    obtain ⟨next, moved, later⟩ := Option.bind_eq_some_iff.mp ran
    obtain ⟨last, finished, same⟩ := Option.map_eq_some_iff.mp later
    cases last
    cases same
    exact ⟨input, rest, next, rfl, advance_cases moved, outcome, _, finished, failed⟩

theorem FailsWith.published {following : AfterPublish}
    (fails : FailsWith server (.publishStatuses following : Call Goal Result Feedback) inputs after error) :
    ∃ rest, takenRequests inputs = takenRequests rest ∧
      FailsWith server (following.call : Call Goal Result Feedback) rest after error := by
  obtain ⟨input, rest, next, rfl, moved, later⟩ := fails.next (by simp)
  cases moved with
  | publishing =>
    obtain ⟨input, rest, next, rfl, moved, later⟩ := later.next (by simp)
    cases moved with
    | published | unpublished => exact ⟨rest, rfl, later⟩

theorem FailsWith.marked {goalId : GoalId} {outcome : Outcome Goal}
    (fails : FailsWith server (.markGoalFinished goalId outcome : Call Goal Result Feedback) inputs after error) :
    outcome.error? = some error := by
  obtain ⟨input, rest, next, rfl, moved, later⟩ := fails.next (by simp)
  cases moved with
  | marked => exact later.done.2.2

theorem FailsWith.acceptGoal {handle : NewGoalHandle}
    (fails : FailsWith server (.acceptGoal handle : Call Goal Result Feedback) inputs after error) :
    takenRequests inputs = [] ∧
      ((server.statusOf handle.goalId ≠ some .unknown ∧ after = server) ∨
        ∃ now, server.acceptGoal handle now = .ok after) := by
  obtain ⟨input, rest, next, rfl, moved, later⟩ := fails.next (by simp)
  cases moved with
  | @accepted _ time _ accepted =>
    obtain ⟨rest, taken, later⟩ := later.published
    obtain ⟨input, rest, next, rfl, moved, later⟩ := later.next (by simp [AfterPublish.call])
    cases moved with
    | acceptAnswered =>
      have impossible := later.done.2.2
      cases impossible
    | acceptUnanswered =>
      obtain ⟨rfl, rfl, _⟩ := later.done
      exact ⟨taken, .inr ⟨time, accepted⟩⟩
  | acceptRefused refused =>
    obtain ⟨rfl, rfl, _⟩ := later.done
    refine ⟨rfl, .inl ⟨?_, rfl⟩⟩
    intro unknown
    obtain ⟨entry, found, status⟩ := statusOf_some unknown
    simp [AsyncActionServer.acceptGoal, found, status] at refused

theorem FailsWith.rejectGoal {handle : NewGoalHandle}
    (fails : FailsWith server (.rejectGoal handle : Call Goal Result Feedback) inputs after error) :
    takenRequests inputs = [] ∧
      ((server.statusOf handle.goalId ≠ some .unknown ∧ after = server) ∨
        server.rejectGoal handle = .ok after) := by
  obtain ⟨input, rest, next, rfl, moved, later⟩ := fails.next (by simp)
  cases moved with
  | rejected rejected =>
    obtain ⟨input, rest, next, rfl, moved, later⟩ := later.next (by simp)
    cases moved with
    | rejectStamped =>
      obtain ⟨input, rest, next, rfl, moved, later⟩ := later.next (by simp)
      cases moved with
      | rejectAnswered =>
        have impossible := later.done.2.2
        cases impossible
      | rejectUnanswered =>
        obtain ⟨rfl, rfl, _⟩ := later.done
        exact ⟨rfl, .inr rejected⟩
  | rejectRefused refused =>
    obtain ⟨rfl, rfl, _⟩ := later.done
    refine ⟨rfl, .inl ⟨?_, rfl⟩⟩
    intro unknown
    simp [AsyncActionServer.rejectGoal, unknown] at refused

theorem FailsWith.startExecutingGoal {handle : AcceptedGoalHandle}
    (fails : FailsWith server (.startExecutingGoal handle : Call Goal Result Feedback) inputs after error) :
    takenRequests inputs = [] ∧ after = server := by
  obtain ⟨input, rest, next, rfl, moved, later⟩ := fails.next (by simp)
  cases moved with
  | started _ =>
    obtain ⟨rest, _, later⟩ := later.published
    have impossible := later.done.2.2
    cases impossible
  | startRefused _ =>
    obtain ⟨rfl, rfl, _⟩ := later.done
    exact ⟨rfl, rfl⟩

theorem FailsWith.abortGoal {goalId : GoalId}
    (fails : FailsWith server (.abortGoal goalId : Call Goal Result Feedback) inputs after error) :
    takenRequests inputs = [] ∧ after = server := by
  obtain ⟨input, rest, next, rfl, moved, later⟩ := fails.next (by simp)
  cases moved with
  | aborted _ =>
    obtain ⟨rest, _, later⟩ := later.published
    have impossible := later.marked
    cases impossible
  | abortRefused _ =>
    obtain ⟨rfl, rfl, _⟩ := later.done
    exact ⟨rfl, rfl⟩

theorem FailsWith.resultFinish {handle : ExecutingGoalHandle} {status : GoalEndStatus} {result : Result}
    {reqId : RmwRequestId}
    (fails : FailsWith server (.resultFinish handle status result reqId : Call Goal Result Feedback) inputs after
      error) :
    takenRequests inputs = [] ∧
      ((¬ (server.statusOf handle.goalId = some .accepted ∨ server.statusOf handle.goalId = some .executing ∨
        server.statusOf handle.goalId = some .canceling) ∧ after = server) ∨
        server.finishGoal handle.goalId status = .ok after) := by
  obtain ⟨input, rest, next, rfl, moved, later⟩ := fails.next (by simp)
  cases moved with
  | resultSent finished =>
    obtain ⟨rest, _, later⟩ := later.published
    have impossible := later.marked
    cases impossible
  | resultUnsent finished =>
    obtain ⟨rfl, rfl, _⟩ := later.done
    exact ⟨rfl, .inr finished⟩
  | resultRefused refused =>
    obtain ⟨rfl, rfl, _⟩ := later.done
    refine ⟨rfl, .inl ⟨?_, rfl⟩⟩
    rintro (reached | reached | reached)
    all_goals simp [AsyncActionServer.finishGoal, reached] at refused

/-- The loop over the samples of the reader ends, short of a read error, with a sample for the
    goal of the call. It is nowhere else from then on. -/
theorem FailsWith.resultWait {handle : ExecutingGoalHandle} {status : GoalEndStatus} {result : Result}
    (fails : FailsWith server (.resultWait handle status result : Call Goal Result Feedback) inputs after error)
    (arrived : error ≠ .ddsReadError) :
    after.resultRequests[handle.goalId]? = server.resultRequests[handle.goalId]? ∧
      ∃ reqId, (handle.goalId, reqId) ∈ takenRequests inputs := by
  induction length : inputs.length using Nat.strongRecOn generalizing server inputs with
  | _ count ih =>
    obtain ⟨input, rest, next, rfl, moved, later⟩ := fails.next (by simp)
    cases moved with
    | requestUnread =>
      have read := Option.some.inj later.done.2.2
      exact absurd read.symm arrived
    | @requestTaken _ _ _ reqId goalId =>
      obtain ⟨input, rest, next, rfl, moved, later⟩ := later.next (by simp)
      cases moved with
      | requestOwn =>
        refine ⟨?_, reqId, List.mem_cons_self⟩
        rcases later.resultFinish.2 with ⟨_, rfl⟩ | finished
        · rfl
        · rw [(AsyncActionServer.finishGoal_buffers finished).resultRequests]
      | requestStored foreign =>
        have shorter : rest.length < count := by
          simp only [List.length_cons] at length
          omega
        obtain ⟨same, own, member⟩ := ih rest.length shorter later rfl
        refine ⟨?_, own, List.mem_cons_of_mem _ member⟩
        rw [same, TreeMap.getElem?_insert]
        simp only [Std.compare_eq_iff_eq, foreign, ite_false]

theorem FailsWith.sendResultResponse {handle : ExecutingGoalHandle} {status : GoalEndStatus} {result : Result}
    (fails : FailsWith server (.sendResultResponse handle status result : Call Goal Result Feedback) inputs after error)
    (arrived : error ≠ .ddsReadError) :
    (server.resultRequests[handle.goalId]? ≠ none ∧ takenRequests inputs = [] ∧
      ((¬ (server.statusOf handle.goalId = some .accepted ∨ server.statusOf handle.goalId = some .executing ∨
        server.statusOf handle.goalId = some .canceling) ∧ after = server) ∨
        server.finishGoal handle.goalId status = .ok after)) ∨
    (server.resultRequests[handle.goalId]? = none ∧ after.resultRequests[handle.goalId]? = none ∧
      ∃ reqId, (handle.goalId, reqId) ∈ takenRequests inputs) := by
  obtain ⟨input, rest, next, rfl, moved, later⟩ := fails.next (by simp)
  cases moved with
  | requestFound found => exact .inl ⟨by simp [found], later.resultFinish⟩
  | requestMissing missing =>
    obtain ⟨input, rest, next, rfl, moved, later⟩ := later.next (by simp)
    cases moved with
    | streamed =>
      obtain ⟨same, taken⟩ := later.resultWait arrived
      exact .inr ⟨missing, same.trans missing, taken⟩

end Alone

theorem untouched_refl (server : AsyncActionServer Goal) : Untouched server server [] :=
  ⟨fun _ => rfl, rfl, fun _ _ => by simp⟩

/-- A call that has set a status has touched the table, and so has one that removed the goal. -/
theorem not_untouched {server after : AsyncActionServer Goal} {taken : List (GoalId × RmwRequestId)}
    (goalId : GoalId) (changed : after.statusOf goalId ≠ server.statusOf goalId) : ¬ Untouched server after taken := by
  intro untouched
  apply changed
  rw [AsyncActionServer.statusOf, untouched.goals goalId, AsyncActionServer.statusOf]

theorem acceptGoal_changes {server after : AsyncActionServer Goal} {handle : NewGoalHandle} {now : Time}
    (accepted : server.acceptGoal handle now = .ok after) :
    server.statusOf handle.goalId = some .unknown ∧ after.statusOf handle.goalId = some .accepted := by
  obtain ⟨unknown, rfl⟩ := AsyncActionServer.acceptGoal_ok accepted
  obtain ⟨entry, found, _⟩ := statusOf_some unknown
  exact ⟨unknown, by simp [AsyncActionServer.statusOf, found]⟩

theorem rejectGoal_changes {server after : AsyncActionServer Goal} {handle : NewGoalHandle}
    (rejected : server.rejectGoal handle = .ok after) :
    server.statusOf handle.goalId = some .unknown ∧ after.statusOf handle.goalId = none := by
  obtain ⟨unknown, rfl⟩ := AsyncActionServer.rejectGoal_ok rejected
  exact ⟨unknown, by simp [AsyncActionServer.statusOf]⟩

theorem finishGoal_changes {server after : AsyncActionServer Goal} {goalId : GoalId} {status : GoalEndStatus}
    (finished : server.finishGoal goalId status = .ok after) :
    (server.statusOf goalId = some .accepted ∨ server.statusOf goalId = some .executing ∨
      server.statusOf goalId = some .canceling) ∧ after.statusOf goalId = some status.toStatus := by
  obtain ⟨unfinished, rfl⟩ := AsyncActionServer.finishGoal_ok finished
  refine ⟨unfinished, ?_⟩
  rcases unfinished with reached | reached | reached
  all_goals
    obtain ⟨entry, found, _⟩ := statusOf_some reached
    simp [AsyncActionServer.statusOf, found]

/-- For the six calls that act on a goal, over every state, every order of arrivals and every
    outcome of the writes: which failures leave everything as it was. -/
theorem failed_call_untouched_iff {server after : AsyncActionServer Goal} {operation : Operation Result Feedback}
    {inputs : List (Input Goal)} {error : GoalError} (acts : operation.actsOnGoal = true)
    (fails : FailsWith server (operation.call : Call Goal Result Feedback) inputs after error)
    (arrived : error ≠ .ddsReadError) :
    Untouched server after (takenRequests inputs) ↔ operation.Refused server := by
  cases operation with
  | acceptGoal handle =>
    obtain ⟨taken, ⟨refused, rfl⟩ | ⟨now, accepted⟩⟩ := fails.acceptGoal
    · rw [taken]
      exact iff_of_true (untouched_refl _) refused
    · obtain ⟨unknown, changed⟩ := acceptGoal_changes accepted
      exact iff_of_false (not_untouched _ (by rw [unknown, changed]; decide)) (fun refused => refused unknown)
  | rejectGoal handle =>
    obtain ⟨taken, ⟨refused, rfl⟩ | rejected⟩ := fails.rejectGoal
    · rw [taken]
      exact iff_of_true (untouched_refl _) refused
    · obtain ⟨unknown, changed⟩ := rejectGoal_changes rejected
      exact iff_of_false (not_untouched _ (by rw [unknown, changed]; decide)) (fun refused => refused unknown)
  | startExecutingGoal handle =>
    obtain ⟨taken, rfl⟩ := fails.startExecutingGoal
    rw [taken]
    exact iff_of_true (untouched_refl _) trivial
  | abortExecutingGoal handle | abortAcceptedGoal handle =>
    obtain ⟨taken, rfl⟩ := fails.abortGoal
    rw [taken]
    exact iff_of_true (untouched_refl _) trivial
  | sendResultResponse handle status result =>
    rcases fails.sendResultResponse arrived with
      ⟨buffered, taken, ⟨refused, rfl⟩ | finished⟩ | ⟨missed, missing, reqId, lost⟩
    · rw [taken]
      exact iff_of_true (untouched_refl _) ⟨refused, buffered⟩
    · obtain ⟨unfinished, changed⟩ := finishGoal_changes finished
      have differs : after.statusOf handle.goalId ≠ server.statusOf handle.goalId := by
        rw [changed]
        rcases unfinished with reached | reached | reached
        all_goals
          rw [reached]
          cases status <;> decide
      exact iff_of_false (not_untouched _ differs) (fun refused => refused.1 unfinished)
    · refine iff_of_false ?_ (fun refused => refused.2 missed)
      intro untouched
      have kept := (untouched.requests handle.goalId reqId).mpr (.inr lost)
      rw [missing] at kept
      cases kept
  | _ => cases acts

/-- The goal 7 is executing, the goals 5 and 6 have ended, and the result of 6 was asked for again. -/
def busyServer : AsyncActionServer Nat :=
  { goals := (((∅ : TreeMap GoalId (AsyncGoal Nat)).insert 7 ⟨.executing, some ⟨90⟩, 42⟩).insert 6
      ⟨.succeeded, some ⟨80⟩, 43⟩).insert 5 ⟨.aborted, some ⟨70⟩, 44⟩
    finishedGoals := [5, 6]
    resultRequests := (∅ : TreeMap GoalId RmwRequestId).insert 6 (exampleRequest 3) }

/-- The goal 7 is accepted once more, and then a second result is sent for 6. -/
theorem refused_calls_are_untouched :
    (FailsWith busyServer ((.acceptGoal ⟨7, exampleRequest 1⟩ : Operation Nat Nat).call : Call Nat Nat Nat)
        [.now ⟨100⟩] busyServer .wrongGoalState ∧
      Untouched busyServer busyServer (takenRequests ([.now ⟨100⟩] : List (Input Nat)))) ∧
    FailsWith busyServer ((.sendResultResponse ⟨6⟩ .canceled 9 : Operation Nat Nat).call : Call Nat Nat Nat)
        [.silent, .written true] busyServer .wrongGoalState ∧
      Untouched busyServer busyServer (takenRequests ([.silent, .written true] : List (Input Nat))) := by
  have accept : FailsWith busyServer ((.acceptGoal ⟨7, exampleRequest 1⟩ : Operation Nat Nat).call : Call Nat Nat Nat)
      [.now ⟨100⟩] busyServer .wrongGoalState := ⟨.accepted (.error .wrongGoalState), [], rfl, rfl⟩
  have send : FailsWith busyServer ((.sendResultResponse ⟨6⟩ .canceled 9 : Operation Nat Nat).call : Call Nat Nat Nat)
      [.silent, .written true] busyServer .wrongGoalState := ⟨.result 6 (.error .wrongGoalState), [], rfl, rfl⟩
  refine ⟨⟨accept, (failed_call_untouched_iff rfl accept (by decide)).mpr ?_⟩, send,
    (failed_call_untouched_iff rfl send (by decide)).mpr ⟨?_, ?_⟩⟩
  · show busyServer.statusOf 7 ≠ some .unknown
    decide
  · show ¬ (busyServer.statusOf 6 = some .accepted ∨ busyServer.statusOf 6 = some .executing ∨
      busyServer.statusOf 6 = some .canceling)
    decide
  · show busyServer.resultRequests[6]? ≠ none
    decide

def undecidedGoal : AsyncActionServer Nat :=
  { goals := (∅ : TreeMap GoalId (AsyncGoal Nat)).insert 7 ⟨.unknown, none, 42⟩
    finishedGoals := []
    resultRequests := ∅ }

/-- The statuses are published, but the response to the client cannot be written. -/
def unwrittenResponse : List (Input Nat) := [.now ⟨100⟩, .silent, .written true, .written false]

theorem unwritten_acceptance_stays :
    ∃ after, FailsWith undecidedGoal (.acceptGoal ⟨7, ⟨⟨List.replicate 16 1, rfl⟩, ⟨1⟩⟩⟩ : Call Nat Nat Nat)
        unwrittenResponse after .ddsWriteError ∧
      ¬ Untouched undecidedGoal after (takenRequests unwrittenResponse) := by
  refine ⟨_, ⟨.accepted (.error .ddsWriteError), _, rfl, rfl⟩, ?_⟩
  exact not_untouched 7 (by decide)

end Ros2Client
