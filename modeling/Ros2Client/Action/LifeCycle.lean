import Ros2Client.Action.Effects

open Transition

namespace Ros2Client

variable {Goal Result Feedback : Type}

def GoalStatusEnum.Moves (old new : GoalStatusEnum) : Prop :=
  (old = .unknown ∧ new = .accepted) ∨
  (old = .accepted ∧ new = .executing) ∨
  ((old = .accepted ∨ old = .executing) ∧ new = .canceling) ∨
  ((old = .accepted ∨ old = .executing ∨ old = .canceling) ∧
    (new = .succeeded ∨ new = .aborted ∨ new = .canceled))

def GoalStatusEnum.Terminal (status : GoalStatusEnum) : Prop :=
  status = .succeeded ∨ status = .aborted ∨ status = .canceled

def countResult (goalId : GoalId) (count : Nat) (event : Event Result Feedback) : Nat :=
  if event.accepts = some goalId then 0
  else if event.answers = some goalId then count + 1 else count

def resultsSinceAccepted (goalId : GoalId) (events : List (Event Result Feedback)) : Nat :=
  events.foldl (countResult goalId) 0

def timesAccepted (goalId : GoalId) (events : List (Event Result Feedback)) : Nat :=
  events.countP (·.accepts = some goalId)

def resultsWritten (goalId : GoalId) (events : List (Event Result Feedback)) : Nat :=
  events.countP (·.answers = some goalId)

structure StatusStep (before after : ServerState Goal Result Feedback) (goalId : GoalId) : Prop where
  moves : ∀ old new, before.server.statusOf goalId = some old → after.server.statusOf goalId = some new →
    new = old ∨ old.Moves new
  /-- A terminal status stays until a flush takes the goal out of the table. -/
  final : ∀ old, before.server.statusOf goalId = some old → old.Terminal →
    after.server.statusOf goalId = some old ∨
      (after.server.statusOf goalId = none ∧ goalId ∈ before.server.finishedGoals)

def KeepsLifeCycle (system : System (ServerState Goal Result Feedback) (ServerLabel Goal Result Feedback)) : Prop :=
  ∀ state, system.Reachable state → ∀ goalId,
    (∀ label after, system.step state label = some after → StatusStep state after goalId) ∧
    resultsSinceAccepted goalId state.events ≤ 1 ∧
    resultsWritten goalId state.events ≤ timesAccepted goalId state.events

/-- Whether a step of `respond_to_cancel_requests` that sets a status to canceling finds the goal
    gone, accepted, executing or canceling already. Every other step is left alone. -/
def cancelsUnfinished (state : ServerState Goal Result Feedback) : ServerLabel Goal Result Feedback → Bool
  | .advance index _ =>
    match state.calls[index]? with
    | some (.cancelSet _ (goalInfo :: _) _) =>
      match state.server.statusOf goalInfo.goalId with
      | none | some .accepted | some .executing | some .canceling => true
      | some _ => false
    | _ => true
  | _ => true

theorem cancelsUnfinished_status {state : ServerState Goal Result Feedback} {index : Nat} {input : Input Goal}
    {handle : CancelHandle} {goalInfo : GoalInfo} {goalInfos all : List GoalInfo} {entry : AsyncGoal Goal}
    (unfinished : cancelsUnfinished state (.advance index input) = true)
    (call : state.calls[index]? = some (.cancelSet handle (goalInfo :: goalInfos) all))
    (found : state.server.goals[goalInfo.goalId]? = some entry) :
    entry.status = .accepted ∨ entry.status = .executing ∨ entry.status = .canceling := by
  have status : state.server.statusOf goalInfo.goalId = some entry.status := by
    simp [AsyncActionServer.statusOf, found]
  simp only [cancelsUnfinished, call, status] at unfinished
  cases reached : entry.status <;> simp [reached] at unfinished ⊢

theorem toStatus_terminal (final : GoalEndStatus) : final.toStatus.Terminal := by
  cases final <;> simp [GoalEndStatus.toStatus, GoalStatusEnum.Terminal]

theorem GoalEffect.status {call : Call Goal Result Feedback} {finishedGoals : List GoalId} {goalId : GoalId}
    {before after : Option (AsyncGoal Goal)} {events : List (Event Result Feedback)}
    (effect : GoalEffect call finishedGoals goalId before after events)
    (unfinished : ∀ handle goalInfo goalInfos all entry,
      call = .cancelSet handle (goalInfo :: goalInfos) all → goalInfo.goalId = goalId → before = some entry →
      entry.status = .accepted ∨ entry.status = .executing ∨ entry.status = .canceling) :
    (∀ old new, before.map (·.status) = some old → after.map (·.status) = some new →
      new = old ∨ old.Moves new) ∧
    (∀ old, before.map (·.status) = some old → old.Terminal →
      after.map (·.status) = some old ∨ (after.map (·.status) = none ∧ goalId ∈ finishedGoals)) := by
  cases effect with
  | same unmentioned =>
    refine ⟨fun old new first second => ?_, fun old found _ => .inl found⟩
    exact .inl (Option.some.inj (second.symm.trans first))
  | received => exact ⟨by simp, by simp⟩
  | accepted now status => simp [status, GoalStatusEnum.Moves, GoalStatusEnum.Terminal]
  | rejected status => simp [status, GoalStatusEnum.Terminal]
  | started status => simp [status, GoalStatusEnum.Moves, GoalStatusEnum.Terminal]
  | finished final status written =>
    have terminal := toStatus_terminal final
    rcases status with status | status | status <;>
      simp_all [GoalStatusEnum.Moves, GoalStatusEnum.Terminal]
  | aborted status =>
    rcases status with status | status <;> simp [status, GoalStatusEnum.Moves, GoalStatusEnum.Terminal]
  | @canceling entry handle goalInfo goalInfos all setting named =>
    rcases unfinished handle goalInfo goalInfos all entry setting named rfl with status | status | status <;>
      simp [status, GoalStatusEnum.Moves, GoalStatusEnum.Terminal]
  | flushed flushing marked => simp [marked]

/-- A goal that is accepted, executing or canceling has a result to come; any other has none. -/
def Balanced (goalId : GoalId) (status : Option GoalStatusEnum) (events : List (Event Result Feedback)) : Prop :=
  if status = some .accepted ∨ status = some .executing ∨ status = some .canceling then
    resultsSinceAccepted goalId events = 0 ∧
      resultsWritten goalId events < timesAccepted goalId events
  else
    resultsSinceAccepted goalId events ≤ 1 ∧
      resultsWritten goalId events ≤ timesAccepted goalId events

theorem Unmentioned.foldl_countResult {goalId : GoalId} {events : List (Event Result Feedback)}
    (unmentioned : Unmentioned goalId events) (count : Nat) :
    events.foldl (countResult goalId) count = count := by
  induction events with
  | nil => rfl
  | cons event events ih =>
    have first := unmentioned event (by simp)
    have rest : Unmentioned goalId events := fun other member => unmentioned other (by simp [member])
    rw [List.foldl_cons, countResult, if_neg first.1, if_neg first.2]
    exact ih rest

theorem Unmentioned.balanced {goalId : GoalId} {status : Option GoalStatusEnum}
    {earlier events : List (Event Result Feedback)} (unmentioned : Unmentioned goalId events) :
    Balanced goalId status (earlier ++ events) ↔ Balanced goalId status earlier := by
  have noAcceptance : events.countP (·.accepts = some goalId) = 0 := by
    rw [List.countP_eq_zero]
    intro event member
    simpa using (unmentioned event member).1
  have noResult : events.countP (·.answers = some goalId) = 0 := by
    rw [List.countP_eq_zero]
    intro event member
    simpa using (unmentioned event member).2
  simp only [Balanced, resultsSinceAccepted, resultsWritten, timesAccepted, List.foldl_append,
    List.countP_append, unmentioned.foldl_countResult, noAcceptance, noResult, Nat.add_zero]

theorem Balanced.bounds {goalId : GoalId} {status : Option GoalStatusEnum}
    {events : List (Event Result Feedback)} (balanced : Balanced goalId status events) :
    resultsSinceAccepted goalId events ≤ 1 ∧ resultsWritten goalId events ≤ timesAccepted goalId events := by
  unfold Balanced at balanced
  split at balanced <;> omega

theorem Balanced.weaken {goalId : GoalId} {old new : Option GoalStatusEnum}
    {events : List (Event Result Feedback)} (balanced : Balanced goalId old events)
    (live : new = some .accepted ∨ new = some .executing ∨ new = some .canceling →
      old = some .accepted ∨ old = some .executing ∨ old = some .canceling) :
    Balanced goalId new events := by
  unfold Balanced at balanced ⊢
  split
  · rename_i reached
    rwa [if_pos (live reached)] at balanced
  · split at balanced <;> omega

theorem Balanced.accept {goalId : GoalId} {events : List (Event Result Feedback)}
    (balanced : Balanced goalId (some .unknown) events) :
    Balanced goalId (some .accepted) (events ++ [.goalAccepted goalId]) := by
  have bounds := balanced.bounds
  simp only [Balanced, resultsSinceAccepted, resultsWritten, timesAccepted] at bounds ⊢
  simp only [List.foldl_append, List.foldl_cons, List.foldl_nil, countResult, List.countP_append,
    List.countP_cons, List.countP_nil, goalAccepted_accepts, goalAccepted_answers, true_or, if_true]
  exact ⟨trivial, by simpa using Nat.lt_succ_of_le bounds.2⟩

theorem Balanced.answer {goalId : GoalId} {old : GoalStatusEnum} {final : GoalEndStatus} {reqId : RmwRequestId}
    {response : GetResultResponse Result} {events : List (Event Result Feedback)}
    (balanced : Balanced goalId (some old) events)
    (status : old = .accepted ∨ old = .executing ∨ old = .canceling) :
    Balanced goalId (some final.toStatus) (events ++ [.resultResponse goalId reqId response]) := by
  have live : some old = some .accepted ∨ some old = some .executing ∨ some old = some .canceling := by
    simpa using status
  have finished : ¬(some final.toStatus = some GoalStatusEnum.accepted ∨
      some final.toStatus = some GoalStatusEnum.executing ∨
      some final.toStatus = some GoalStatusEnum.canceling) := by
    cases final <;> simp [GoalEndStatus.toStatus]
  rw [Balanced, if_pos live] at balanced
  rw [Balanced, if_neg finished]
  simp only [resultsSinceAccepted, resultsWritten, timesAccepted] at balanced ⊢
  simp only [List.foldl_append, List.foldl_cons, List.foldl_nil, balanced.1, countResult, List.countP_append,
    List.countP_cons, List.countP_nil, resultResponse_accepts, resultResponse_answers, if_true]
  exact ⟨by simp, by simpa [Nat.succ_le_iff] using balanced.2⟩

theorem GoalEffect.balanced {call : Call Goal Result Feedback} {finishedGoals : List GoalId} {goalId : GoalId}
    {before after : Option (AsyncGoal Goal)} {earlier events : List (Event Result Feedback)}
    (effect : GoalEffect call finishedGoals goalId before after events)
    (unfinished : ∀ handle goalInfo goalInfos all entry,
      call = .cancelSet handle (goalInfo :: goalInfos) all → goalInfo.goalId = goalId → before = some entry →
      entry.status = .accepted ∨ entry.status = .executing ∨ entry.status = .canceling)
    (balanced : Balanced goalId (before.map (·.status)) earlier) :
    Balanced goalId (after.map (·.status)) (earlier ++ events) := by
  cases effect with
  | same unmentioned => exact unmentioned.balanced.mpr balanced
  | received => simpa using balanced.weaken (by simp)
  | accepted now status =>
    rw [Option.map_some, status] at balanced
    exact balanced.accept
  | rejected status => simpa using balanced.weaken (by simp)
  | started status => simpa using balanced.weaken (by simp [status])
  | finished final status written =>
    rcases written with rfl | ⟨reqId, response, rfl⟩
    · simpa using balanced.weaken (by cases final <;> simp [GoalEndStatus.toStatus])
    · exact balanced.answer status
  | aborted status => simpa using balanced.weaken (by simp)
  | @canceling entry handle goalInfo goalInfos all setting named =>
    have status := unfinished handle goalInfo goalInfos all entry setting named rfl
    simpa using balanced.weaken (by simpa using status)
  | flushed flushing marked => simpa using balanced.weaken (by simp)

theorem ServerState.guarded_step {state after : ServerState Goal Result Feedback}
    {label : ServerLabel Goal Result Feedback} (unfinished : cancelsUnfinished state label = true)
    (stepped : state.step label = some after) (goalId : GoalId) :
    StatusStep state after goalId ∧
      (Balanced goalId (state.server.statusOf goalId) state.events →
        Balanced goalId (after.server.statusOf goalId) after.events) := by
  have unchanged : after.server = state.server → StatusStep state after goalId := by
    intro same
    refine ⟨fun old new first second => ?_, fun old found _ => ?_⟩
    · rw [same] at second
      exact .inl (Option.some.inj (second.symm.trans first))
    · rw [same]
      exact .inl found
  rcases ServerState.step_cases stepped with
    ⟨operation, rfl, _, rfl⟩ | ⟨index, input, call, next, rfl, found, moved, rfl⟩ | ⟨index, call, rfl, _, _, rfl⟩
  · exact ⟨unchanged rfl, fun balanced => balanced⟩
  · have effect := advance_effect moved goalId
    have live : ∀ handle goalInfo goalInfos all entry,
        call = .cancelSet handle (goalInfo :: goalInfos) all → goalInfo.goalId = goalId →
        state.server.goals[goalId]? = some entry →
        entry.status = .accepted ∨ entry.status = .executing ∨ entry.status = .canceling := by
      rintro handle goalInfo goalInfos all entry rfl rfl present
      exact cancelsUnfinished_status unfinished found present
    have status := effect.status live
    exact ⟨⟨status.1, status.2⟩, effect.balanced live⟩
  · exact ⟨unchanged rfl, fun balanced => balanced⟩

theorem goal_life_cycle (Goal Result Feedback : Type) :
    KeepsLifeCycle ((actionServer Goal Result Feedback).restrict fun state label =>
      cancelsUnfinished state label = true) := by
  intro state reachable goalId
  have balanced : ∀ goalId, Balanced goalId (state.server.statusOf goalId) state.events := by
    refine reachable.invariant
      (fun state => ∀ goalId, Balanced goalId (state.server.statusOf goalId) state.events) ?_ ?_
    · intro goalId
      simp [System.restrict, actionServer, AsyncActionServer.new, AsyncActionServer.statusOf, Balanced,
        resultsSinceAccepted, resultsWritten, timesAccepted]
    · intro before label after holds stepped goalId
      obtain ⟨unfinished, moved⟩ := System.restrict_step.mp stepped
      exact (ServerState.guarded_step unfinished moved goalId).2 (holds goalId)
  refine ⟨?_, (balanced goalId).bounds⟩
  intro label after stepped
  obtain ⟨unfinished, moved⟩ := System.restrict_step.mp stepped
  exact (ServerState.guarded_step unfinished moved goalId).1

/-- A goal runs to success while a cancel request for it is pending. The application answers the
    cancel request only then, and ends the goal once more through a copy of its handle. -/
def lateCancel : List (ServerLabel Nat Nat Nat) :=
  let handle : NewGoalHandle := ⟨7, exampleRequest 1⟩
  [.start .receiveNewGoal, .advance 0 (.goalRequest (exampleRequest 1) ⟨7, 10⟩),
   .start (.acceptGoal handle), .advance 1 (.now ⟨100⟩), .advance 1 .silent, .advance 1 (.written true),
   .advance 1 (.written true),
   .start (.startExecutingGoal ⟨7⟩), .advance 2 .silent, .advance 2 .silent, .advance 2 (.written true),
   .start .receiveCancelRequest, .advance 3 (.cancelRequest (exampleRequest 2) ⟨7, Time.zero⟩),
   .advance 3 .silent,
   .start (.sendResultResponse ⟨7⟩ .succeeded 55), .advance 4 .silent, .advance 4 .silent,
   .advance 4 (.resultRequest (exampleRequest 3) 7), .advance 4 .silent, .advance 4 (.written true),
   .advance 4 .silent, .advance 4 (.written true), .advance 4 .silent,
   .start (.respondToCancelRequests ⟨exampleRequest 2, [7]⟩ [7]), .advance 5 .silent, .advance 5 .silent,
   .advance 5 .silent,
   .start (.sendResultResponse ⟨7⟩ .canceled 55), .advance 6 .silent, .advance 6 .silent,
   .advance 6 (.resultRequest (exampleRequest 4) 7), .advance 6 .silent, .advance 6 (.written true)]

theorem late_cancel_breaks_life_cycle : ¬ KeepsLifeCycle (actionServer Nat Nat Nat) := by
  intro keeps
  obtain ⟨state, reachable, twice⟩ := System.reachable_of_check (actionServer Nat Nat Nat) lateCancel
    (fun state => resultsSinceAccepted 7 state.events = 2) (by decide)
  have once := (keeps state reachable 7).2.1
  rw [of_decide_eq_true twice] at once
  omega

end Ros2Client
