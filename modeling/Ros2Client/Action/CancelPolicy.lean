import Ros2Client.Action.Interleaving

open Std (TreeMap)

namespace Ros2Client

def AcceptedBy (stamp : Time) : Option Time → Prop
  | some accepted => accepted ≤ stamp
  | none => False

/-- The policy that `CancelGoalRequest` documents, for a goal and the time at which it was accepted. -/
def CancelPolicy (request : GoalInfo) (goalId : GoalId) (accepted : Option Time) : Prop :=
  if request.goalId = GoalId.zero then
    if request.stamp = Time.zero then True else AcceptedBy request.stamp accepted
  else if request.stamp = Time.zero then goalId = request.goalId
  else goalId = request.goalId ∨ AcceptedBy request.stamp accepted

variable {Goal Result Feedback : Type}

def AsyncGoal.Cancelable (goal : AsyncGoal Goal) : Prop := goal.status = .accepted ∨ goal.status = .executing

def SelectsByPolicy (server : AsyncActionServer Goal) (request : GoalInfo) (selected : List GoalId) : Prop :=
  selected.Nodup ∧ ∀ goalId, goalId ∈ selected ↔
    ∃ goal, server.goals[goalId]? = some goal ∧ goal.Cancelable ∧ CancelPolicy request goalId goal.acceptedTime

/-- `receive_cancel_request` with a request that has arrived returns what the policy selects. -/
def ReceivesByPolicy (Result Feedback : Type) (server : AsyncActionServer Goal) (reqId : RmwRequestId)
    (request : GoalInfo) : Prop :=
  ∃ handle, advance server (.cancelSelect reqId request : Call Goal Result Feedback) .silent =
      some ⟨server, .done (.cancelRequest (.ok handle)), []⟩ ∧
    handle.reqId = reqId ∧ SelectsByPolicy server request handle.goals

/-- No goal that could be canceled was accepted at the very stamp of the request, unless the
    request names that goal by its id. -/
def StampBetweenGoals (server : AsyncActionServer Goal) (request : GoalInfo) : Prop :=
  request.stamp ≠ Time.zero → ∀ goalId goal, server.goals[goalId]? = some goal → goal.Cancelable →
    goal.acceptedTime = some request.stamp → request.goalId ≠ GoalId.zero ∧ goalId = request.goalId

theorem acceptedBy_iff (stamp : Time) (accepted : Option Time) :
    AcceptedBy stamp accepted ↔
      (accepted.map fun accepted => decide (accepted < stamp)).getD false = true ∨ accepted = some stamp := by
  cases accepted with
  | none => simp [AcceptedBy]
  | some accepted =>
    have exact := Time.le_refl stamp
    simp only [AcceptedBy, Option.map_some, Option.getD_some, decide_eq_true_eq, Option.some.injEq,
      Time.lt_iff_le_and_ne]
    by_cases same : accepted = stamp
    · simp [same, exact]
    · simp [same]

/-- What the code selects is what the policy selects, short of the goals accepted at the stamp. -/
theorem goalFilter_iff (request : GoalInfo) (goalId : GoalId) (goal : AsyncGoal Goal) :
    AsyncActionServer.goalFilter request goalId goal = true ↔
      CancelPolicy request goalId goal.acceptedTime ∧
        (request.stamp ≠ Time.zero → goal.acceptedTime = some request.stamp →
          request.goalId ≠ GoalId.zero ∧ goalId = request.goalId) := by
  have before : (goal.acceptedTime.map fun accepted => decide (accepted < request.stamp)).getD false = true →
      goal.acceptedTime ≠ some request.stamp := by
    intro earlier same
    simp [same, Time.lt_iff_le_and_ne] at earlier
  simp only [AsyncActionServer.goalFilter, CancelPolicy, acceptedBy_iff]
  by_cases id : request.goalId = GoalId.zero <;> by_cases stamp : request.stamp = Time.zero
  all_goals
    simp only [id, stamp, true_and, and_true, and_false, ite_true, ite_false, decide_eq_true_eq]
    grind

theorem mem_cancelableGoals (server : AsyncActionServer Goal) (request : GoalInfo) (goalId : GoalId) :
    goalId ∈ server.cancelableGoals request ↔
      ∃ goal, server.goals[goalId]? = some goal ∧ goal.Cancelable ∧
        AsyncActionServer.goalFilter request goalId goal = true := by
  simp only [AsyncActionServer.cancelableGoals, List.mem_filterMap, Prod.exists,
    TreeMap.mem_toList_iff_getElem?_eq_some, Option.ite_none_right_eq_some, Option.some.injEq]
  constructor
  · rintro ⟨other, goal, found, ⟨status, filtered⟩, rfl⟩
    exact ⟨goal, found, status.symm, filtered⟩
  · intro ⟨goal, found, status, filtered⟩
    exact ⟨goalId, goal, found, ⟨status.symm, filtered⟩, rfl⟩

theorem cancelableGoals_nodup (server : AsyncActionServer Goal) (request : GoalInfo) :
    (server.cancelableGoals request).Nodup := by
  have distinct := TreeMap.distinct_keys_toList (t := server.goals)
  rw [AsyncActionServer.cancelableGoals, List.Nodup, List.pairwise_filterMap]
  refine distinct.imp ?_
  intro first second apart firstId selected secondId other same
  simp only [Option.ite_none_right_eq_some, Option.some.injEq] at selected other
  apply apart
  rw [selected.2, other.2, same]
  exact Std.ReflCmp.compare_self

theorem selectsByPolicy_iff (server : AsyncActionServer Goal) (request : GoalInfo) :
    SelectsByPolicy server request (server.cancelableGoals request) ↔ StampBetweenGoals server request := by
  simp only [SelectsByPolicy, cancelableGoals_nodup, true_and, mem_cancelableGoals, goalFilter_iff]
  constructor
  · intro agree dated goalId goal found cancelable accepted
    have policy : CancelPolicy request goalId goal.acceptedTime := by
      have due : AcceptedBy request.stamp goal.acceptedTime := (acceptedBy_iff _ _).mpr (.inr accepted)
      unfold CancelPolicy
      split
      · exact due
      · exact .inr due
    obtain ⟨other, same, _, _, named⟩ := (agree goalId).mpr ⟨goal, found, cancelable, policy⟩
    cases found.symm.trans same
    exact named dated accepted
  · intro between goalId
    constructor
    · intro ⟨goal, found, cancelable, policy, _⟩
      exact ⟨goal, found, cancelable, policy⟩
    · intro ⟨goal, found, cancelable, policy⟩
      exact ⟨goal, found, cancelable, policy, fun dated => between dated goalId goal found cancelable⟩

theorem receive_cancel_request_follows_policy_iff (Result Feedback : Type) (server : AsyncActionServer Goal)
    (reqId : RmwRequestId) (request : GoalInfo) :
    ReceivesByPolicy Result Feedback server reqId request ↔ StampBetweenGoals server request := by
  rw [← selectsByPolicy_iff]
  constructor
  · intro ⟨handle, returned, _, selects⟩
    cases returned
    exact selects
  · intro selects
    exact ⟨_, rfl, rfl, selects⟩

def acceptedAtStamp : AsyncActionServer Nat :=
  { goals := (∅ : TreeMap GoalId (AsyncGoal Nat)).insert 7 ⟨.executing, some ⟨100⟩, 42⟩
    finishedGoals := []
    resultRequests := ∅ }

theorem cancel_at_the_stamp_misses_the_goal :
    ¬ ReceivesByPolicy Nat Nat acceptedAtStamp ⟨⟨List.replicate 16 1, rfl⟩, ⟨1⟩⟩ ⟨GoalId.zero, ⟨100⟩⟩ := by
  intro ⟨handle, returned, _, selects⟩
  cases returned
  have between := (selectsByPolicy_iff _ _).mp selects (by decide) 7 ⟨.executing, some ⟨100⟩, 42⟩ rfl
    (.inr rfl) rfl
  exact between.1 rfl

end Ros2Client
