import Ros2Client.Action.AcceptedTime

open Transition
open Std (TreeMap)

namespace Ros2Client

variable {Goal Result Feedback : Type}

def goalRequests (past : ServerPast Goal Result Feedback) : List (RmwRequestId × SendGoalRequest Goal) :=
  past.filterMap fun
    | (_, .advance _ (.goalRequest reqId request)) => some (reqId, request)
    | _ => none

def requestedGoals (past : ServerPast Goal Result Feedback) : List GoalId :=
  (goalRequests past).map (·.2.goalId)

def Call.answer : Call Goal Result Feedback → Option (NewGoalHandle × SendGoalResponse)
  | .acceptRespond handle now => some (handle, ⟨true, now⟩)
  | .rejectRespond handle now => some (handle, ⟨false, now⟩)
  | _ => none

def ServerState.answer (state : ServerState Goal Result Feedback) :
    ServerLabel Goal Result Feedback → Option (NewGoalHandle × SendGoalResponse)
  | .advance index (.written true) => state.calls[index]?.bind Call.answer
  | _ => none

def goalAnswers (past : ServerPast Goal Result Feedback) : List (NewGoalHandle × SendGoalResponse) :=
  past.filterMap fun (before, label) => before.answer label

def answeredGoals (past : ServerPast Goal Result Feedback) : List GoalId :=
  (goalAnswers past).map (·.1.goalId)

def Event.goalAnswer : Event Result Feedback → Option (RmwRequestId × SendGoalResponse)
  | .goalResponse reqId response => some (reqId, response)
  | _ => none

def ServerState.writes (state : ServerState Goal Result Feedback) (label : ServerLabel Goal Result Feedback) :
    List (Event Result Feedback) :=
  ((state.step label).map fun after => after.events.drop state.events.length).getD []

def ServerState.Accepts (state : ServerState Goal Result Feedback) (label : ServerLabel Goal Result Feedback)
    (goalId : GoalId) : Prop :=
  ∃ after, state.step label = some after ∧ state.server.statusOf goalId = some .unknown ∧
    after.server.statusOf goalId = some .accepted

structure OneAnswerPerGoal (state : ServerState Goal Result Feedback) (past : ServerPast Goal Result Feedback) :
    Prop where
  /-- The responses that a step writes are the answer that the call of this step gives. -/
  written : ∀ (before : ServerState Goal Result Feedback) (label : ServerLabel Goal Result Feedback),
    (before, label) ∈ past → (before.writes label).filterMap Event.goalAnswer =
      ((before.answer label).map fun (handle, response) => (handle.reqId, response)).toList
  once : ∀ goalId, (answeredGoals past).count goalId ≤ 1
  addressed : ∀ handle response, (handle, response) ∈ goalAnswers past →
    ∃ goal, (handle.reqId, ⟨handle.goalId, goal⟩) ∈ goalRequests past
  accepted_iff : ∀ (before : ServerState Goal Result Feedback) (index : Nat) (input : Input Goal)
    (handle : NewGoalHandle) (response : SendGoalResponse), (before, .advance index input) ∈ past →
    before.answer (.advance index input) = some (handle, response) →
    (response.accepted = true ↔ ∃ earlier input, (earlier, .advance index input) ∈ past ∧
      earlier.Accepts (.advance index input) handle.goalId)
  rejected : ∀ handle response, (handle, response) ∈ goalAnswers past → response.accepted = false →
    handle.goalId ∉ state.server.goals
  feedback : ∀ (before : ServerState Goal Result Feedback) (label : ServerLabel Goal Result Feedback)
    (message : FeedbackMessage Feedback), (before, label) ∈ past → .feedback message ∈ before.writes label →
    before.server.statusOf message.goalId = some .executing

def AfterPublish.handle : AfterPublish → Option NewGoalHandle
  | .acceptGoal handle _ => some handle
  | _ => none

def Outcome.handle : Outcome Goal → Option NewGoalHandle
  | .newGoal (.ok handle) => some handle
  | _ => none

def Call.handle : Call Goal Result Feedback → Option NewGoalHandle
  | .getNewGoal handle | .getNewGoalFlushed handle | .acceptGoal handle | .acceptRespond handle _
  | .rejectGoal handle | .rejectStamp handle | .rejectRespond handle _ => some handle
  | .publishStatuses next | .publishSend _ next => next.handle
  | .markGoalFinished _ outcome | .done outcome => outcome.handle
  | _ => none

/-- The handle for whose goal a call has decided and not yet answered, and whether it accepts the goal. -/
def Call.decision : Call Goal Result Feedback → Option (NewGoalHandle × Bool)
  | .publishStatuses next | .publishSend _ next => next.handle.map (·, true)
  | .acceptRespond handle _ => some (handle, true)
  | .rejectStamp handle | .rejectRespond handle _ => some (handle, false)
  | _ => none

def Call.decides (call : Call Goal Result Feedback) : Option GoalId := call.decision.map (·.1.goalId)

def Outcome.accepts : Outcome Goal → Bool
  | .accepted _ => true
  | _ => false

def Call.accepts : Call Goal Result Feedback → Bool
  | .acceptGoal _ | .acceptRespond _ _ => true
  | .publishStatuses next | .publishSend _ next => next.handle.isSome
  | .markGoalFinished _ outcome | .done outcome => outcome.accepts
  | _ => false

inductive AnswerStep (server : AsyncActionServer Goal) (call : Call Goal Result Feedback) (input : Input Goal)
    (next : Advance Goal Result Feedback) : Prop
  | receives {reqId : RmwRequestId} {request : SendGoalRequest Goal} (arrives : input = .goalRequest reqId request)
      (undecided : next.call.decision = none)
      (handle : next.call.handle = none ∨ next.call.handle = some ⟨request.goalId, reqId⟩)
      (silent : next.events = [])
  | accepts {handle : NewGoalHandle} {now : Time} (call : call = .acceptGoal handle) (input : input = .now now)
      (accepted : server.acceptGoal handle now = .ok next.server)
      (publishes : next.call = .publishStatuses (.acceptGoal handle now))
      (events : next.events = [.goalAccepted handle.goalId])
  | rejects {handle : NewGoalHandle} (call : call = .rejectGoal handle) (input : input = .silent)
      (rejected : server.rejectGoal handle = .ok next.server) (stamps : next.call = .rejectStamp handle)
      (silent : next.events = [])
  | answers {handle : NewGoalHandle} {response : SendGoalResponse} (answer : call.answer = some (handle, response))
      (written : input = .written true) (same : next.server = server) (undecided : next.call.decision = none)
      (finished : next.call.handle = none) (events : next.events = [.goalResponse handle.reqId response])
  | moves (quiet : ∀ reqId request, input ≠ .goalRequest reqId request)
      (unanswered : call.answer = none ∨ input ≠ .written true)
      (decision : next.call.decision = none ∨ next.call.decision = call.decision)
      (handle : next.call.handle = none ∨ next.call.handle = call.handle)
      (silent : next.events.filterMap Event.goalAnswer = [])
      (feedback : ∀ message, .feedback message ∈ next.events →
        server.statusOf message.goalId = some .executing)

theorem checkFeedback_ok {server : AsyncActionServer Goal} {handle : ExecutingGoalHandle} {feedback : Feedback}
    (checked : server.checkFeedback handle = .ok ()) (message : FeedbackMessage Feedback)
    (member : .feedback message ∈ ([.feedback ⟨handle.goalId, feedback⟩] : List (Event Result Feedback))) :
    server.statusOf message.goalId = some .executing := by
  cases List.mem_singleton.mp member
  unfold AsyncActionServer.checkFeedback at checked
  split at checked
  · cases checked
  · assumption
  · cases checked

theorem advance_answers {server : AsyncActionServer Goal} {call : Call Goal Result Feedback}
    {input : Input Goal} {next : Advance Goal Result Feedback}
    (stepped : advance server call input = some next) : AnswerStep server call input next := by
  cases advance_cases stepped with
  | received _ => exact .receives rfl rfl (.inr rfl) rfl
  | duplicate _ => exact .receives rfl rfl (.inl rfl) rfl
  | accepted accepted => exact .accepts rfl rfl accepted rfl rfl
  | rejected rejected => exact .rejects rfl rfl rejected rfl rfl
  | acceptAnswered | rejectAnswered => exact .answers rfl rfl rfl rfl rfl rfl
  | acceptUnanswered | rejectUnanswered => exact .moves (by simp) (.inr (by simp)) (.inl rfl) (.inl rfl) rfl (by simp)
  | rejectStamped => exact .moves (by simp) (.inr (by simp)) (.inr rfl) (.inr rfl) rfl (by simp)
  | feedbackSent checked =>
    exact .moves (by simp) (.inl rfl) (.inl rfl) (.inl rfl) rfl (checkFeedback_ok checked)
  | flushed | marked => exact .moves (by simp) (.inl rfl) (.inl rfl) (.inr rfl) rfl (by simp)
  | publishing => exact .moves (by simp) (.inl rfl) (.inr rfl) (.inr rfl) rfl (by simp)
  | @published _ following | @unpublished _ following =>
    cases following <;> exact .moves (by simp) (.inl rfl) (.inr rfl) (.inr rfl) rfl (by simp)
  | _ => exact .moves (by simp) (.inl rfl) (.inl rfl) (.inl rfl) rfl (by simp)

theorem advance_kind {server : AsyncActionServer Goal} {call : Call Goal Result Feedback}
    {input : Input Goal} {next : Advance Goal Result Feedback}
    (stepped : advance server call input = some next) : next.call.accepts = call.accepts := by
  cases advance_cases stepped with
  | @published _ following | @unpublished _ following => cases following <;> rfl
  | _ => rfl

theorem insert_appears {server after : AsyncActionServer Goal} {request : SendGoalRequest Goal} {goalId : GoalId}
    (inserted : server.insertNewGoal request = some after) (absent : server.goals[goalId]? = none)
    (present : after.goals[goalId]? ≠ none) : request.goalId = goalId := by
  obtain ⟨_, rfl⟩ := AsyncActionServer.insertNewGoal_some inserted
  by_contra other
  simp [TreeMap.getElem?_insert, other, absent] at present

/-- Only a request puts a goal into the table. -/
theorem advance_appears {server : AsyncActionServer Goal} {call : Call Goal Result Feedback}
    {input : Input Goal} {next : Advance Goal Result Feedback} {goalId : GoalId}
    (stepped : advance server call input = some next) (absent : server.goals[goalId]? = none)
    (present : next.server.goals[goalId]? ≠ none) :
    ∃ reqId request, input = .goalRequest reqId request ∧ request.goalId = goalId := by
  cases advance_cases stepped with
  | received inserted => exact ⟨_, _, rfl, insert_appears inserted absent present⟩
  | flushed => simp [AsyncActionServer.flushFinisehdGoals_goals, absent] at present
  | accepted accepted =>
    obtain ⟨_, same⟩ := AsyncActionServer.acceptGoal_ok accepted
    simp [same, AsyncActionServer.modify_goals, absent] at present
  | rejected rejected =>
    obtain ⟨_, same⟩ := AsyncActionServer.rejectGoal_ok rejected
    simp [same, TreeMap.getElem?_erase, absent] at present
  | started started =>
    obtain ⟨_, same⟩ := AsyncActionServer.startExecutingGoal_ok started
    simp [same, absent] at present
  | resultSent finished | resultUnsent finished =>
    obtain ⟨_, same⟩ := AsyncActionServer.finishGoal_ok finished
    simp [same, absent] at present
  | aborted aborted =>
    obtain ⟨_, same⟩ := AsyncActionServer.abortGoal_ok aborted
    simp [same, absent] at present
  | cancelSet => simp [absent] at present
  | _ => exact absurd absent present

theorem GoalEffect.unknown_before {call : Call Goal Result Feedback} {finishedGoals : List GoalId} {goalId : GoalId}
    {before after : Option (AsyncGoal Goal)} {events : List (Event Result Feedback)}
    (effect : GoalEffect call finishedGoals goalId before after events)
    (unknown : after.map (·.status) = some .unknown) : before = none ∨ before.map (·.status) = some .unknown := by
  cases effect with
  | same _ => exact .inr unknown
  | received => exact .inl rfl
  | finished final _ _ => cases final <;> cases unknown
  | accepted _ _ | rejected _ | started _ | aborted _ | canceling _ _ | flushed _ _ => cases unknown

theorem writes_eq {state after : ServerState Goal Result Feedback} {label : ServerLabel Goal Result Feedback}
    {events : List (Event Result Feedback)} (stepped : state.step label = some after)
    (added : after.events = state.events ++ events) : state.writes label = events := by
  rw [ServerState.writes, stepped, Option.map_some, Option.getD_some, added, List.drop_left]

theorem answer_eq {state : ServerState Goal Result Feedback} {index : Nat} {input : Input Goal}
    {answer : NewGoalHandle × SendGoalResponse} (answered : state.answer (.advance index input) = some answer) :
    ∃ call, state.calls[index]? = some call ∧ call.answer = some answer ∧ input = .written true := by
  unfold ServerState.answer at answered
  split at answered
  · rename_i same
    cases same
    obtain ⟨call, found, answers⟩ := Option.bind_eq_some_iff.mp answered
    exact ⟨call, found, answers, rfl⟩
  · cases answered

theorem answer_steps {state : ServerState Goal Result Feedback} {label : ServerLabel Goal Result Feedback}
    (stuck : state.step label = none) : state.answer label = none := by
  cases label with
  | start | drop => rfl
  | advance index input =>
    rw [Option.eq_none_iff_forall_ne_some]
    intro answer answered
    obtain ⟨call, found, answers, rfl⟩ := answer_eq answered
    cases call with
    | acceptRespond | rejectRespond => simp [ServerState.step, found, advance] at stuck
    | _ => cases answers

theorem answer_none {state : ServerState Goal Result Feedback} {index : Nat} {input : Input Goal}
    {call : Call Goal Result Feedback} (found : state.calls[index]? = some call)
    (unanswered : call.answer = none ∨ input ≠ .written true) : state.answer (.advance index input) = none := by
  rw [Option.eq_none_iff_forall_ne_some]
  intro answer answered
  obtain ⟨call', found', answers, written⟩ := answer_eq answered
  rw [found] at found'
  cases found'
  rcases unanswered with unanswered | unwritten
  · rw [unanswered] at answers
    cases answers
  · exact unwritten written

theorem writes_answer (state : ServerState Goal Result Feedback) (label : ServerLabel Goal Result Feedback) :
    (state.writes label).filterMap Event.goalAnswer =
      ((state.answer label).map fun (handle, response) => (handle.reqId, response)).toList := by
  cases stepped : state.step label with
  | none =>
    rw [answer_steps stepped, ServerState.writes, stepped]
    rfl
  | some after =>
    rcases ServerState.step_cases stepped with
      ⟨operation, rfl, _, rfl⟩ | ⟨index, input, call, next, rfl, found, moved, rfl⟩ | ⟨index, call, rfl, _, _, rfl⟩
    · rw [writes_eq stepped (List.append_nil _).symm]
      rfl
    · rw [writes_eq stepped rfl]
      cases advance_answers moved with
      | receives arrives _ _ silent =>
        rw [arrives, silent]
        rfl
      | accepts _ input _ _ events =>
        rw [input, events]
        rfl
      | rejects _ input _ _ silent =>
        rw [input, silent]
        rfl
      | answers answer written _ _ _ events =>
        rw [written, events, ServerState.answer, found, Option.bind_some, answer]
        rfl
      | moves _ unanswered _ _ silent _ =>
        rw [answer_none found unanswered, silent]
        rfl
    · rw [writes_eq stepped (List.append_nil _).symm]
      rfl

theorem writes_feedback {state : ServerState Goal Result Feedback} {label : ServerLabel Goal Result Feedback}
    {message : FeedbackMessage Feedback} (written : .feedback message ∈ state.writes label) :
    state.server.statusOf message.goalId = some .executing := by
  cases stepped : state.step label with
  | none =>
    rw [ServerState.writes, stepped] at written
    cases written
  | some after =>
    rcases ServerState.step_cases stepped with
      ⟨operation, rfl, _, rfl⟩ | ⟨index, input, call, next, rfl, found, moved, rfl⟩ | ⟨index, call, rfl, _, _, rfl⟩
    · rw [writes_eq stepped (List.append_nil _).symm] at written
      cases written
    · rw [writes_eq stepped rfl] at written
      cases advance_answers moved with
      | receives _ _ _ silent | rejects _ _ _ _ silent =>
        rw [silent] at written
        cases written
      | accepts _ _ _ _ events | answers _ _ _ _ _ events =>
        rw [events] at written
        cases List.mem_singleton.mp written
      | moves _ _ _ _ _ feedback => exact feedback message written
    · rw [writes_eq stepped (List.append_nil _).symm] at written
      cases written

section History

variable {state : ServerState Goal Result Feedback} {past : ServerPast Goal Result Feedback}
  {label : ServerLabel Goal Result Feedback} {handle : NewGoalHandle} {index : Nat} {goalId : GoalId}

def Arrived (past : ServerPast Goal Result Feedback) (handle : NewGoalHandle) : Prop :=
  ∃ goal, (handle.reqId, ⟨handle.goalId, goal⟩) ∈ goalRequests past

def Moved (past : ServerPast Goal Result Feedback) (index : Nat) (goalId : GoalId) : Prop :=
  ∃ earlier input, (earlier, .advance index input) ∈ past ∧ earlier.Accepts (.advance index input) goalId

theorem Arrived.requested (arrived : Arrived past handle) : handle.goalId ∈ requestedGoals past := by
  obtain ⟨goal, member⟩ := arrived
  exact List.mem_map.mpr ⟨_, member, rfl⟩

theorem goalRequests_cons (entry : ServerState Goal Result Feedback × ServerLabel Goal Result Feedback) :
    (goalRequests past).Sublist (goalRequests (entry :: past)) :=
  (List.sublist_cons_self entry past).filterMap _

theorem Arrived.later (arrived : Arrived past handle)
    (entry : ServerState Goal Result Feedback × ServerLabel Goal Result Feedback) :
    Arrived (entry :: past) handle := by
  obtain ⟨goal, member⟩ := arrived
  exact ⟨goal, (goalRequests_cons entry).subset member⟩

theorem Moved.later (moved : Moved past index goalId)
    (entry : ServerState Goal Result Feedback × ServerLabel Goal Result Feedback) :
    Moved (entry :: past) index goalId := by
  obtain ⟨earlier, input, member, accepts⟩ := moved
  exact ⟨earlier, input, List.mem_cons_of_mem _ member, accepts⟩

theorem distinct_earlier {entry : ServerState Goal Result Feedback × ServerLabel Goal Result Feedback}
    (distinct : (requestedGoals (entry :: past)).Nodup) : (requestedGoals past).Nodup :=
  distinct.sublist ((goalRequests_cons entry).map _)

theorem arrived_request (reqId : RmwRequestId) (request : SendGoalRequest Goal) :
    Arrived ((state, .advance index (.goalRequest reqId request)) :: past) ⟨request.goalId, reqId⟩ :=
  ⟨request.goal, List.mem_filterMap.mpr ⟨_, List.mem_cons_self, rfl⟩⟩

theorem distinct_request {reqId : RmwRequestId} {request : SendGoalRequest Goal}
    (distinct : (requestedGoals ((state, .advance index (.goalRequest reqId request)) :: past)).Nodup) :
    request.goalId ∉ requestedGoals past := (List.nodup_cons.mp distinct).1

theorem goalAnswers_some {answer : NewGoalHandle × SendGoalResponse} (answered : state.answer label = some answer) :
    goalAnswers ((state, label) :: past) = answer :: goalAnswers past := List.filterMap_cons_some answered

theorem goalAnswers_none (unanswered : state.answer label = none) :
    goalAnswers ((state, label) :: past) = goalAnswers past := List.filterMap_cons_none unanswered

end History

end Ros2Client
