import Ros2Client.Action.NetworkInvariant
import Ros2Client.Action.StatusOrder

open Transition
open Std (TreeMap)

namespace Ros2Client

variable {Goal Result Feedback : Type}

/-- The goal was sent by a client, and the answer that accepts it is among the messages. -/
def ActionNetwork.Accepted (network : ActionNetwork Goal Result Feedback) (events : List (Event Result Feedback))
    (goalId : GoalId) : Prop :=
  ∃ reqId goal now, (reqId, ⟨goalId, goal⟩) ∈ network.goals ∧ .goalResponse reqId ⟨true, now⟩ ∈ events

/-- The server has never accepted the goal, and has written nothing about it but its answer. -/
structure ActionNetwork.Refuses (network : ActionNetwork Goal Result Feedback) (goalId : GoalId) : Prop where
  unaccepted : .goalAccepted goalId ∉ network.server.events
  forgotten : goalId ∉ network.server.server.goals
  silent : ∀ message, message.goalId = goalId → .feedback message ∉ network.server.events
  unfinished : ∀ reqId response, .resultResponse goalId reqId response ∉ network.server.events

/-- One goal is rejected. One is accepted, executed and canceled, and its client is told everything. -/
def canceledGoal : List (NetworkLabel Nat Nat Nat) :=
  let reqId := exampleRequest
  [.createClient, .createClient, .sendGoal (reqId 1) 1 10, .sendGoal (reqId 2) 2 20,
   .start .receiveNewGoal, .takeGoal 0 0, .start .receiveNewGoal, .takeGoal 1 1,
   .start (.acceptGoal ⟨1, reqId 1⟩), .advance 2 (.now ⟨100⟩), .advance 2 .silent, .advance 2 (.written true),
   .advance 2 (.written true),
   .start (.rejectGoal ⟨2, reqId 2⟩), .advance 3 .silent, .advance 3 (.now ⟨101⟩), .advance 3 (.written true),
   .start (.startExecutingGoal ⟨1⟩), .advance 4 .silent, .advance 4 .silent, .advance 4 (.written true),
   .start (.publishFeedback ⟨1⟩ 7), .advance 5 (.written true),
   .cancelGoalRaw (reqId 4) 1 Time.zero, .start .receiveCancelRequest, .takeCancel 6 0, .advance 6 .silent,
   .start (.respondToCancelRequests ⟨reqId 4, [1]⟩ [1]), .advance 7 .silent, .advance 7 .silent, .advance 7 .silent,
   .advance 7 .silent, .advance 7 .silent, .advance 7 (.written true), .advance 7 (.written true),
   .requestResult (reqId 3) 1, .start (.sendResultResponse ⟨1⟩ .canceled 11), .advance 8 .silent, .advance 8 .silent,
   .takeResult 8 0, .advance 8 .silent, .advance 8 (.written true), .advance 8 .silent, .advance 8 (.written true),
   .advance 8 .silent,
   .arrive 0 2, .arrive 0 3, .arrive 0 4, .arrive 0 5, .arrive 0 7, .arrive 0 8, .arrive 1 8,
   .receive 0 (.goalResponse (reqId 1)), .receive 0 (.goalResponse (reqId 2)), .receive 0 (.statusOf 1),
   .receive 0 (.feedback 1), .receive 0 (.cancelResponse (reqId 4)), .receive 0 (.result (reqId 3)),
   .receive 1 (.result (reqId 3))]

def canceledReplies : List (Nat × Reply Nat Nat) :=
  [(0, .goalResponse (exampleRequest 1) ⟨true, ⟨100⟩⟩), (0, .goalResponse (exampleRequest 2) ⟨false, ⟨101⟩⟩),
   (0, .statusOf 1 ⟨⟨1, ⟨100⟩⟩, .executing⟩), (0, .feedback 1 7),
   (0, .cancelResponse (exampleRequest 4) ⟨.none, [⟨1, ⟨100⟩⟩]⟩), (0, .result (exampleRequest 3) .canceled 11),
   (1, .result (exampleRequest 3) .canceled 11)]

theorem canceledGoal_reachable : ∃ network past, (actionNetwork Nat Nat Nat).traced.Reachable (network, past) ∧
    network.returned = canceledReplies ∧ network.results = [(exampleRequest 3, ⟨1⟩)] ∧
    ∀ before label, (before, label) ∈ serverPast past →
      cancelsUnfinished before label = true ∧ readsAlone before label = true := by
  obtain ⟨⟨network, past⟩, reachable, checked⟩ := System.reachable_of_check (actionNetwork Nat Nat Nat).traced
    canceledGoal (fun traced => decide (traced.1.returned = canceledReplies ∧
      traced.1.results = [(exampleRequest 3, ⟨1⟩)]) && (serverPast traced.2).all fun (before, label) =>
        cancelsUnfinished before label && readsAlone before label) (by decide)
  obtain ⟨replied, careful⟩ := Bool.and_eq_true_iff.mp checked
  obtain ⟨returned, results⟩ := of_decide_eq_true replied
  refine ⟨network, past, reachable, returned, results, ?_⟩
  intro before label member
  exact Bool.and_eq_true_iff.mp (List.all_eq_true.mp careful _ member)

section Network

variable {network : ActionNetwork Goal Result Feedback} {past : NetworkPast Goal Result Feedback}

theorem server_reachable (reachable : (actionNetwork Goal Result Feedback).traced.Reachable (network, past)) :
    (actionServer Goal Result Feedback).traced.Reachable (network.server, serverPast past) :=
  (actionNetwork_contains Goal Result Feedback).traced reachable

theorem accepted_sent (reachable : (actionNetwork Goal Result Feedback).traced.Reachable (network, past))
    {handle : NewGoalHandle} {now : Time} (accepted : AcceptedAt (serverPast past) handle now) :
    ∃ goal, (handle.reqId, ⟨handle.goalId, goal⟩) ∈ network.goals := by
  have delivers := delivers_reachable reachable
  exact delivers.sent (accepted_arrived (server_reachable reachable) delivers.distinct accepted)

theorem told_accepted (reachable : (actionNetwork Goal Result Feedback).traced.Reachable (network, past))
    {events : List (Event Result Feedback)} {goalId : GoalId} (told : Told (serverPast past) events goalId) :
    network.Accepted events goalId := by
  obtain ⟨reqId, now, accepted, answered⟩ := told
  obtain ⟨goal, sent⟩ := accepted_sent reachable accepted
  exact ⟨reqId, goal, now, sent, answered⟩

/-- What is written about a goal is written about an accepted goal. -/
theorem told_recorded (reachable : (actionNetwork Goal Result Feedback).traced.Reachable (network, past))
    {events : List (Event Result Feedback)} {goalId : GoalId} (told : Told (serverPast past) events goalId) :
    .goalAccepted goalId ∈ network.server.events := by
  obtain ⟨reqId, now, accepted, _⟩ := told
  have delivers := delivers_reachable reachable
  exact (exclusive_reachable (server_reachable reachable) delivers.distinct).recorded _ now accepted

theorem ordered_split {Item : Type} {allowed : List Item → Item → Prop} {items : List Item}
    (ordered : Ordered allowed items) {item : Item} (member : item ∈ items) : ∃ front, allowed front item := by
  obtain ⟨front, rest, split⟩ := List.append_of_mem member
  exact ⟨front, ordered front item rest split⟩

theorem goal_answers_truthful (network : ActionNetwork Goal Result Feedback) (past : NetworkPast Goal Result Feedback)
    (reachable : (actionNetwork Goal Result Feedback).traced.Reachable (network, past)) (client : Nat)
    (reqId : RmwRequestId) (response : SendGoalResponse)
    (returned : (client, .goalResponse reqId response) ∈ network.returned) :
    ∃ goalId goal, (reqId, ⟨goalId, goal⟩) ∈ network.goals ∧
      (response.accepted = true → AcceptedAt (serverPast past) ⟨goalId, reqId⟩ response.stamp) ∧
      (response.accepted = false → network.Refuses goalId) := by
  have inner := server_reachable reachable
  have delivers := delivers_reachable reachable
  have written := (replies_reachable reachable).returned client _ returned
  have promised := promised_reachable inner
  have answering := answering_reachable inner delivers.distinct
  have exclusive := exclusive_reachable inner delivers.distinct
  have ordered := ordered_reachable inner delivers.distinct
  obtain ⟨⟨goalId, reqId'⟩, rfl, answered⟩ := promised.answers reqId response written
  have decided := answering.answered _ response answered
  obtain ⟨goal, sent⟩ := delivers.sent decided.arrived
  refine ⟨goalId, goal, sent, promised.accepts _ response answered, ?_⟩
  intro rejected
  have unaccepted := exclusive.rejected _ response answered rejected
  refine ⟨unaccepted, ?_, ?_, ?_⟩
  · have absent := decided.rejected rejected
    rw [TreeMap.mem_iff_isSome_getElem?, absent]
    simp
  · rintro message rfl wrote
    obtain ⟨front, told, _⟩ := ordered_split ordered wrote
    exact unaccepted (told_recorded reachable told)
  · intro reqId'' response' wrote
    obtain ⟨front, told⟩ := ordered_split ordered wrote
    exact unaccepted (told_recorded reachable told)

theorem rejected_goal_told : ∃ (network : ActionNetwork Nat Nat Nat) (past : NetworkPast Nat Nat Nat),
    (0, .goalResponse (exampleRequest 2) ⟨false, ⟨101⟩⟩) ∈ network.returned ∧
    ∃ goalId goal, (exampleRequest 2, ⟨goalId, goal⟩) ∈ network.goals ∧
      (false = true → AcceptedAt (serverPast past) ⟨goalId, exampleRequest 2⟩ ⟨101⟩) ∧
      (false = false → network.Refuses goalId) := by
  obtain ⟨network, past, reachable, replies, _⟩ := canceledGoal_reachable
  have returned : (0, .goalResponse (exampleRequest 2) ⟨false, ⟨101⟩⟩) ∈ network.returned := by
    rw [replies]
    decide
  exact ⟨network, past, returned, goal_answers_truthful network past reachable 0 _ _ returned⟩

theorem results_truthful (network : ActionNetwork Goal Result Feedback) (past : NetworkPast Goal Result Feedback)
    (reachable : (actionNetwork Goal Result Feedback).traced.Reachable (network, past)) (client : Nat)
    (reqId : RmwRequestId) (status : GoalStatusEnum) (result : Result)
    (returned : (client, .result reqId status result) ∈ network.returned) :
    ∃ goalId, (reqId, ⟨goalId⟩) ∈ network.results ∧ status.Terminal ∧
      Given (serverPast past) goalId ⟨status, result⟩ ∧ network.Accepted network.server.events goalId := by
  have inner := server_reachable reachable
  have delivers := delivers_reachable reachable
  obtain ⟨goalId, written⟩ := (replies_reachable reachable).returned client _ returned
  obtain ⟨taken, given⟩ := (honest_reachable inner).written goalId reqId _ written
  refine ⟨goalId, delivers.results goalId reqId taken, ?_, given, ?_⟩
  · obtain ⟨_, ended, _, rfl⟩ := given
    exact toStatus_terminal ended
  · obtain ⟨front, rest, split⟩ := List.append_of_mem written
    have told := ordered_reachable inner delivers.distinct front _ rest split
    obtain ⟨reqId', goal, now, sent, answered⟩ := told_accepted reachable told
    refine ⟨reqId', goal, now, sent, ?_⟩
    rw [split]
    exact List.mem_append_left _ answered

theorem canceled_goal_result : ∃ (network : ActionNetwork Nat Nat Nat) (past : NetworkPast Nat Nat Nat),
    (0, .result (exampleRequest 3) .canceled 11) ∈ network.returned ∧
    ∃ goalId, (exampleRequest 3, ⟨goalId⟩) ∈ network.results ∧ GoalStatusEnum.canceled.Terminal ∧
      Given (serverPast past) goalId ⟨.canceled, 11⟩ ∧ network.Accepted network.server.events goalId := by
  obtain ⟨network, past, reachable, replies, _⟩ := canceledGoal_reachable
  have returned : (0, .result (exampleRequest 3) .canceled 11) ∈ network.returned := by
    rw [replies]
    decide
  exact ⟨network, past, returned, results_truthful network past reachable 0 _ _ _ returned⟩

theorem cancel_answers_truthful (network : ActionNetwork Goal Result Feedback) (past : NetworkPast Goal Result Feedback)
    (reachable : (actionNetwork Goal Result Feedback).traced.Reachable (network, past)) (client : Nat)
    (reqId : RmwRequestId) (response : CancelGoalResponse)
    (returned : (client, .cancelResponse reqId response) ∈ network.returned) :
    reqId ∈ network.cancels.map (·.1) ∧
      response.returnCode = (if response.goalsCanceling = [] then .rejected else .none) ∧
      ∀ goalInfo ∈ response.goalsCanceling, network.server.server.Closed goalInfo.goalId ∧
        ∃ reqId goal, (reqId, ⟨goalInfo.goalId, goal⟩) ∈ network.goals ∧
          AcceptedAt (serverPast past) ⟨goalInfo.goalId, reqId⟩ goalInfo.stamp := by
  have inner := server_reachable reachable
  have delivers := delivers_reachable reachable
  have written := (replies_reachable reachable).returned client _ returned
  refine ⟨delivers.cancels reqId ((cancelsTaken_reachable inner).written reqId response written), ?_, ?_⟩
  · obtain ⟨canceling, rfl, _⟩ := (promised_reachable inner).cancels reqId response written
    simp [CancelGoalResponse.ofCanceling]
  · intro goalInfo listed
    have retired := (closing_reachable inner delivers.distinct).canceled goalInfo.goalId reqId response written
      (List.mem_map_of_mem listed)
    obtain ⟨canceling, rfl, accepted⟩ := (promised_reachable inner).cancels reqId response written
    obtain ⟨reqId', accepted'⟩ := accepted goalInfo listed
    obtain ⟨goal, sent⟩ := accepted_sent reachable accepted'
    exact ⟨retired.closed, reqId', goal, sent, accepted'⟩

theorem canceled_goal_named : ∃ (network : ActionNetwork Nat Nat Nat) (past : NetworkPast Nat Nat Nat),
    (0, .cancelResponse (exampleRequest 4) ⟨.none, [⟨1, ⟨100⟩⟩]⟩) ∈ network.returned ∧
    exampleRequest 4 ∈ network.cancels.map (·.1) ∧
      CancelGoalResponseEnum.none = (if [(⟨1, ⟨100⟩⟩ : GoalInfo)] = [] then .rejected else .none) ∧
      ∀ goalInfo ∈ [(⟨1, ⟨100⟩⟩ : GoalInfo)], network.server.server.Closed goalInfo.goalId ∧
        ∃ reqId goal, (reqId, ⟨goalInfo.goalId, goal⟩) ∈ network.goals ∧
          AcceptedAt (serverPast past) ⟨goalInfo.goalId, reqId⟩ goalInfo.stamp := by
  obtain ⟨network, past, reachable, replies, _⟩ := canceledGoal_reachable
  have returned : (0, .cancelResponse (exampleRequest 4) ⟨.none, [⟨1, ⟨100⟩⟩]⟩) ∈ network.returned := by
    rw [replies]
    decide
  exact ⟨network, past, returned, cancel_answers_truthful network past reachable 0 _ _ returned⟩

/-- Feedback on a goal is written after the answer that accepts it, and not after its result or a cancel answer
    that names it. A result is written after that answer too. -/
def ActionNetwork.InOrder (network : ActionNetwork Goal Result Feedback) (front : List (Event Result Feedback)) :
    Event Result Feedback → Prop
  | .feedback message => network.Accepted front message.goalId ∧
      (∀ reqId response, .resultResponse message.goalId reqId response ∉ front) ∧
      ∀ reqId response, .cancelResponse reqId response ∈ front → ¬ response.Names message.goalId
  | .resultResponse goalId _ _ => network.Accepted front goalId
  | _ => True

theorem messages_in_order (network : ActionNetwork Goal Result Feedback) (past : NetworkPast Goal Result Feedback)
    (reachable : (actionNetwork Goal Result Feedback).traced.Reachable (network, past)) :
    Ordered network.InOrder network.server.events := by
  have delivers := delivers_reachable reachable
  have ordered := ordered_reachable (server_reachable reachable) delivers.distinct
  refine ordered.mono ?_
  intro front event follows
  cases event with
  | feedback => exact ⟨told_accepted reachable follows.1, follows.2⟩
  | resultResponse => exact told_accepted reachable follows
  | _ => trivial

theorem canceled_goal_in_order : ∃ (network : ActionNetwork Nat Nat Nat), (0, .feedback 1 7) ∈ network.returned ∧
    Ordered network.InOrder network.server.events := by
  obtain ⟨network, past, reachable, replies, _⟩ := canceledGoal_reachable
  have returned : (0, .feedback 1 7) ∈ network.returned := by
    rw [replies]
    decide
  exact ⟨network, returned, messages_in_order network past reachable⟩

theorem results_agree (network : ActionNetwork Goal Result Feedback) (past : NetworkPast Goal Result Feedback)
    (reachable : (actionNetwork Goal Result Feedback).traced.Reachable (network, past))
    (careful : ∀ before label, (before, label) ∈ serverPast past → cancelsUnfinished before label = true)
    (goalId : GoalId) (first second : Nat) (reqId reqId' : RmwRequestId) (status status' : GoalStatusEnum)
    (result result' : Result) (sent : (reqId, ⟨goalId⟩) ∈ network.results)
    (sent' : (reqId', ⟨goalId⟩) ∈ network.results)
    (returned : (first, .result reqId status result) ∈ network.returned)
    (returned' : (second, .result reqId' status' result') ∈ network.returned) :
    reqId = reqId' ∧ status = status' ∧ result = result' := by
  have inner := server_reachable reachable
  have delivers := delivers_reachable reachable
  -- The goal that a response was written for is the one that its request names.
  have named : ∀ client reqId status result, (client, .result reqId status result) ∈ network.returned →
      (reqId, ⟨goalId⟩) ∈ network.results →
      .resultResponse goalId reqId ⟨status, result⟩ ∈ network.server.events := by
    intro client reqId status result returned sent
    obtain ⟨answered, written⟩ := (replies_reachable reachable).returned client _ returned
    have taken := ((honest_reachable inner).written answered reqId _ written).1
    have same := List.inj_on_of_nodup_map delivers.resultIds (delivers.results answered reqId taken) sent rfl
    cases same
    exact written
  obtain ⟨same, rest⟩ := one_result inner delivers.distinct careful (named first reqId status result returned sent)
    (named second reqId' status' result' returned' sent')
  cases rest
  exact ⟨same, rfl, rfl⟩

theorem both_clients_agree : ∃ (network : ActionNetwork Nat Nat Nat),
    (0, .result (exampleRequest 3) .canceled 11) ∈ network.returned ∧
    (1, .result (exampleRequest 3) .canceled 11) ∈ network.returned ∧
    exampleRequest 3 = exampleRequest 3 ∧ GoalStatusEnum.canceled = GoalStatusEnum.canceled ∧ 11 = 11 := by
  obtain ⟨network, past, reachable, replies, results, careful⟩ := canceledGoal_reachable
  have returned : (0, .result (exampleRequest 3) .canceled 11) ∈ network.returned := by
    rw [replies]
    decide
  have returned' : (1, .result (exampleRequest 3) .canceled 11) ∈ network.returned := by
    rw [replies]
    decide
  have sent : (exampleRequest 3, ⟨1⟩) ∈ network.results := by
    rw [results]
    exact List.mem_singleton_self _
  exact ⟨network, returned, returned', results_agree network past reachable
    (fun before label member => (careful before label member).1) 1 0 1 _ _ _ _ _ _ sent sent returned returned'⟩

theorem statuses_move_forward (network : ActionNetwork Goal Result Feedback) (past : NetworkPast Goal Result Feedback)
    (reachable : (actionNetwork Goal Result Feedback).traced.Reachable (network, past))
    (careful : ∀ before label, (before, label) ∈ serverPast past →
      cancelsUnfinished before label = true ∧ readsAlone before label = true) :
    Ordered Event.Progresses network.server.events ∧
      ∀ client goalId reported, (client, .statusOf goalId reported) ∈ network.returned →
        ∃ statusList, .statuses statusList ∈ network.server.events ∧ reported ∈ statusList ∧
          reported.goalInfo.goalId = goalId ∧ Snapshot (serverPast past) statusList := by
  have inner := server_reachable reachable
  refine ⟨(reporting_reachable inner (delivers_reachable reachable).distinct careful).ordered, ?_⟩
  intro client goalId reported returned
  obtain ⟨statusList, written, listed, own⟩ := (replies_reachable reachable).returned client _ returned
  exact ⟨statusList, written, listed, own, (snapshots_reachable inner).1 statusList written⟩

theorem canceled_goal_statuses : ∃ (network : ActionNetwork Nat Nat Nat) (past : NetworkPast Nat Nat Nat),
    (0, .statusOf 1 ⟨⟨1, ⟨100⟩⟩, .executing⟩) ∈ network.returned ∧
    Ordered Event.Progresses network.server.events ∧
      ∀ client goalId reported, (client, .statusOf goalId reported) ∈ network.returned →
        ∃ statusList, .statuses statusList ∈ network.server.events ∧ reported ∈ statusList ∧
          reported.goalInfo.goalId = goalId ∧ Snapshot (serverPast past) statusList := by
  obtain ⟨network, past, reachable, replies, _, careful⟩ := canceledGoal_reachable
  have returned : (0, .statusOf 1 ⟨⟨1, ⟨100⟩⟩, .executing⟩) ∈ network.returned := by
    rw [replies]
    decide
  exact ⟨network, past, returned, statuses_move_forward network past reachable careful⟩

end Network

end Ros2Client
