import Mathlib.Data.List.Nodup
import Ros2Client.Action.AnswerSteps

open Transition
open Std (TreeMap)

namespace Ros2Client

variable {Goal Result Feedback : Type}

/-- It has been decided whether the goal is accepted. A rejected one is out of the table for good. -/
structure ServerState.Decided (state : ServerState Goal Result Feedback) (past : ServerPast Goal Result Feedback)
    (handle : NewGoalHandle) (accepted : Bool) : Prop where
  arrived : Arrived past handle
  known : state.server.statusOf handle.goalId ≠ some .unknown
  rejected : accepted = false → state.server.goals[handle.goalId]? = none

/-- A goal is decided by one call, which then answers once. -/
structure ServerState.Answering (state : ServerState Goal Result Feedback) (past : ServerPast Goal Result Feedback) :
    Prop where
  arrived : ∀ call ∈ state.calls, ∀ handle, call.handle = some handle → Arrived past handle
  decided : ∀ call ∈ state.calls, ∀ handle accepted, call.decision = some (handle, accepted) →
    state.Decided past handle accepted ∧ handle.goalId ∉ answeredGoals past
  single : ClaimedOnce Call.decides state.calls
  answered : ∀ handle response, (handle, response) ∈ goalAnswers past → state.Decided past handle response.accepted
  once : (answeredGoals past).Nodup

section Steps

variable {state after : ServerState Goal Result Feedback} {past : ServerPast Goal Result Feedback} {index : Nat}
  {input : Input Goal} {call : Call Goal Result Feedback} {next : Advance Goal Result Feedback}

theorem ServerState.Decided.advance {handle : NewGoalHandle} {accepted : Bool}
    (decided : state.Decided past handle accepted)
    (distinct : (requestedGoals ((state, .advance index input) :: past)).Nodup)
    (moved : advance state.server call input = some next) :
    ServerState.Decided ⟨next.server, state.calls.set index next.call, state.events ++ next.events⟩
      ((state, .advance index input) :: past) handle accepted := by
  -- The goal has been requested already, so that no request can bring it again.
  have absent : state.server.goals[handle.goalId]? = none → next.server.goals[handle.goalId]? = none := by
    intro absent
    by_contra present
    obtain ⟨reqId, request, rfl, same⟩ := advance_appears moved absent present
    have fresh := distinct_request distinct
    rw [same] at fresh
    exact fresh decided.arrived.requested
  refine ⟨decided.arrived.later _, ?_, fun rejected => absent (decided.rejected rejected)⟩
  intro (unknown : next.server.goals[handle.goalId]?.map (·.status) = some .unknown)
  rcases (advance_effect moved handle.goalId).unknown_before unknown with missing | known
  · rw [absent missing] at unknown
    cases unknown
  · exact decided.known known

theorem answer_decision {handle : NewGoalHandle} {response : SendGoalResponse}
    (answer : call.answer = some (handle, response)) : call.decision = some (handle, response.accepted) := by
  cases call with
  | acceptRespond | rejectRespond =>
    cases answer
    rfl
  | _ => cases answer

theorem decides_of_decision {other : Call Goal Result Feedback}
    (decision : call.decision = none ∨ call.decision = other.decision) :
    call.decides = none ∨ call.decides = other.decides := by
  rcases decision with none | same
  · exact .inl (congrArg (Option.map _) none)
  · exact .inr (congrArg (Option.map _) same)

theorem decision_decides {handle : NewGoalHandle} {accepted : Bool}
    (decision : call.decision = some (handle, accepted)) : call.decides = some handle.goalId := by
  rw [Call.decides, decision]
  rfl

theorem exists_decision {goalId : GoalId} (decides : call.decides = some goalId) :
    ∃ handle accepted, call.decision = some (handle, accepted) ∧ handle.goalId = goalId := by
  obtain ⟨⟨handle, accepted⟩, decision, own⟩ := Option.map_eq_some_iff.mp decides
  exact ⟨handle, accepted, decision, own⟩

/-- A step in which no answer is written. -/
theorem ServerState.Answering.silent (answering : state.Answering past)
    (distinct : (requestedGoals ((state, .advance index input) :: past)).Nodup)
    (found : state.calls[index]? = some call) (moved : advance state.server call input = some next)
    (silent : state.answer (.advance index input) = none)
    (handles : ∀ handle, next.call.handle = some handle → call.handle = some handle ∨
      Arrived ((state, .advance index input) :: past) handle)
    (decided : ∀ call ∈ state.calls.set index next.call, ∀ handle accepted, call.decision = some (handle, accepted) →
      ServerState.Decided ⟨next.server, state.calls.set index next.call, state.events ++ next.events⟩
        ((state, .advance index input) :: past) handle accepted ∧ handle.goalId ∉ answeredGoals past)
    (single : ClaimedOnce Call.decides (state.calls.set index next.call)) :
    ServerState.Answering ⟨next.server, state.calls.set index next.call, state.events ++ next.events⟩
      ((state, .advance index input) :: past) := by
  have same : goalAnswers ((state, .advance index input) :: past) = goalAnswers past := goalAnswers_none silent
  refine ⟨?_, ?_, single, ?_, ?_⟩
  · intro call' member handle has
    rcases List.mem_or_eq_of_mem_set member with old | rfl
    · exact (answering.arrived call' old handle has).later _
    · rcases handles handle has with old | new
      · exact (answering.arrived call (List.mem_of_getElem? found) handle old).later _
      · exact new
  · rw [answeredGoals, same]
    exact decided
  · intro handle response member
    rw [same] at member
    exact (answering.answered handle response member).advance distinct moved
  · rw [answeredGoals, same]
    exact answering.once

theorem ServerState.Answering.moves (answering : state.Answering past)
    (distinct : (requestedGoals ((state, .advance index input) :: past)).Nodup)
    (found : state.calls[index]? = some call) (moved : advance state.server call input = some next)
    (silent : state.answer (.advance index input) = none)
    (handles : ∀ handle, next.call.handle = some handle → call.handle = some handle ∨
      Arrived ((state, .advance index input) :: past) handle)
    (decision : next.call.decision = none ∨ next.call.decision = call.decision) :
    ServerState.Answering ⟨next.server, state.calls.set index next.call, state.events ++ next.events⟩
      ((state, .advance index input) :: past) := by
  apply answering.silent distinct found moved silent handles
  · intro call' member handle accepted decides
    obtain ⟨i, found'⟩ := List.getElem?_of_mem member
    obtain ⟨old, foundOld, decidesOld⟩ := claim_before Call.decision found decision found' decides
    obtain ⟨decided, unanswered⟩ := answering.decided old (List.mem_of_getElem? foundOld) handle accepted decidesOld
    exact ⟨decided.advance distinct moved, unanswered⟩
  · exact answering.single.move found (decides_of_decision decision)

/-- A goal whose status is unknown has been decided by no call so far. -/
theorem ServerState.Answering.decides {handle : NewGoalHandle} {accepted : Bool} (answering : state.Answering past)
    (distinct : (requestedGoals ((state, .advance index input) :: past)).Nodup)
    (found : state.calls[index]? = some call) (moved : advance state.server call input = some next)
    (silent : state.answer (.advance index input) = none) (same : next.call.handle = call.handle)
    (decision : next.call.decision = some (handle, accepted))
    (unknown : state.server.statusOf handle.goalId = some .unknown)
    (decided : ServerState.Decided ⟨next.server, state.calls.set index next.call, state.events ++ next.events⟩
      ((state, .advance index input) :: past) handle accepted) :
    ServerState.Answering ⟨next.server, state.calls.set index next.call, state.events ++ next.events⟩
      ((state, .advance index input) :: past) := by
  apply answering.silent distinct found moved silent
  · intro handle' has
    exact .inl (same.symm.trans has)
  · intro call' member handle' accepted' decides
    rcases List.mem_or_eq_of_mem_set member with old | rfl
    · obtain ⟨decided', unanswered⟩ := answering.decided call' old handle' accepted' decides
      exact ⟨decided'.advance distinct moved, unanswered⟩
    · rw [decision] at decides
      cases decides
      refine ⟨decided, ?_⟩
      intro answered
      obtain ⟨⟨handle', response⟩, member', own⟩ := List.mem_map.mp answered
      apply (answering.answered handle' response member').known
      rw [show handle'.goalId = handle.goalId from own]
      exact unknown
  · apply answering.single.claim (decision_decides decision)
    intro call' member decides
    obtain ⟨handle', accepted', decides', own⟩ := exists_decision decides
    apply (answering.decided call' member handle' accepted' decides').1.known
    rw [own]
    exact unknown

theorem ServerState.Answering.answers {handle : NewGoalHandle} {response : SendGoalResponse}
    (answering : state.Answering past)
    (distinct : (requestedGoals ((state, .advance index (.written true)) :: past)).Nodup)
    (found : state.calls[index]? = some call) (moved : advance state.server call (.written true) = some next)
    (answer : call.answer = some (handle, response)) (undecided : next.call.decision = none)
    (finished : next.call.handle = none) :
    ServerState.Answering ⟨next.server, state.calls.set index next.call, state.events ++ next.events⟩
      ((state, .advance index (.written true)) :: past) := by
  have more : goalAnswers ((state, .advance index (.written true)) :: past) =
      (handle, response) :: goalAnswers past := by
    apply goalAnswers_some
    rw [ServerState.answer, found, Option.bind_some, answer]
  obtain ⟨decided, unanswered⟩ :=
    answering.decided call (List.mem_of_getElem? found) handle response.accepted (answer_decision answer)
  refine ⟨?_, ?_, answering.single.move found (decides_of_decision (.inl undecided)), ?_, ?_⟩
  · intro call' member handle' has
    rcases List.mem_or_eq_of_mem_set member with old | rfl
    · exact (answering.arrived call' old handle' has).later _
    · rw [finished] at has
      cases has
  · intro call' member handle' accepted decides
    obtain ⟨i, found'⟩ := List.getElem?_of_mem member
    obtain ⟨apart, foundOld⟩ := claim_elsewhere Call.decision undecided found' decides
    obtain ⟨decided', unanswered'⟩ :=
      answering.decided call' (List.mem_of_getElem? foundOld) handle' accepted decides
    refine ⟨decided'.advance distinct moved, ?_⟩
    rw [answeredGoals, more, List.map_cons, List.mem_cons, not_or]
    refine ⟨?_, unanswered'⟩
    intro own
    apply apart
    refine answering.single i index call' call handle'.goalId foundOld found (decision_decides decides) ?_
    rw [own]
    exact decision_decides (answer_decision answer)
  · intro handle' response' member
    rw [more, List.mem_cons] at member
    rcases member with same | old
    · cases same
      exact decided.advance distinct moved
    · exact (answering.answered handle' response' old).advance distinct moved
  · rw [answeredGoals, more, List.map_cons, List.nodup_cons]
    exact ⟨unanswered, answering.once⟩

theorem acceptGoal_decides {handle : NewGoalHandle} {now : Time}
    (accepted : state.server.acceptGoal handle now = .ok next.server) :
    state.server.statusOf handle.goalId = some .unknown ∧ next.server.statusOf handle.goalId = some .accepted := by
  obtain ⟨unknown, same⟩ := AsyncActionServer.acceptGoal_ok accepted
  obtain ⟨entry, found, _⟩ := statusOf_some unknown
  refine ⟨unknown, ?_⟩
  rw [same]
  simp [AsyncActionServer.statusOf, found]

theorem rejectGoal_decides {handle : NewGoalHandle}
    (rejected : state.server.rejectGoal handle = .ok next.server) :
    state.server.statusOf handle.goalId = some .unknown ∧ next.server.goals[handle.goalId]? = none := by
  obtain ⟨unknown, same⟩ := AsyncActionServer.rejectGoal_ok rejected
  refine ⟨unknown, ?_⟩
  rw [same]
  simp

theorem ServerState.Answering.advance (answering : state.Answering past)
    (distinct : (requestedGoals ((state, .advance index input) :: past)).Nodup)
    (found : state.calls[index]? = some call) (moved : advance state.server call input = some next) :
    ServerState.Answering ⟨next.server, state.calls.set index next.call, state.events ++ next.events⟩
      ((state, .advance index input) :: past) := by
  have arrived := answering.arrived call (List.mem_of_getElem? found)
  cases advance_answers moved with
  | receives arrives undecided handle silent =>
    subst arrives
    refine answering.moves distinct found moved rfl ?_ (.inl undecided)
    intro handle' has
    rcases handle with none | new
    · rw [none] at has
      cases has
    · rw [new] at has
      cases has
      exact .inr (arrived_request _ _)
  | @accepts handle now own written accepted publishes events =>
    subst own written
    obtain ⟨unknown, known⟩ := acceptGoal_decides accepted
    refine answering.decides distinct found moved rfl (by rw [publishes]; rfl) (by rw [publishes]; rfl) unknown
      ⟨(arrived handle rfl).later _, ?_, by simp⟩
    rw [known]
    simp
  | @rejects handle own written rejected stamps silent =>
    subst own written
    obtain ⟨unknown, gone⟩ := rejectGoal_decides rejected
    refine answering.decides distinct found moved rfl (by rw [stamps]; rfl) (by rw [stamps]; rfl) unknown
      ⟨(arrived handle rfl).later _, ?_, fun _ => gone⟩
    rw [AsyncActionServer.statusOf, gone]
    simp
  | answers answer written _ undecided finished _ =>
    subst written
    exact answering.answers distinct found moved answer undecided finished
  | moves quiet unanswered decision handle _ _ =>
    refine answering.moves distinct found moved (answer_none found unanswered) ?_ decision
    intro handle' has
    rcases handle with none | same
    · rw [none] at has
      cases has
    · exact .inl (same.symm.trans has)

theorem newGoalHandles_arrived {handle : NewGoalHandle} (answering : state.Answering past)
    (member : handle ∈ newGoalHandles state.calls) : Arrived past handle := by
  obtain ⟨call, present, returned⟩ := List.mem_filterMap.mp member
  apply answering.arrived call present
  split at returned
  · exact returned
  · cases returned

/-- A step that leaves the table alone, and in which no call decides or answers. -/
theorem ServerState.Answering.idle {label : ServerLabel Goal Result Feedback} {calls : List (Call Goal Result Feedback)}
    (answering : state.Answering past) (silent : state.answer label = none)
    (handles : ∀ call ∈ calls, ∀ handle, call.handle = some handle → Arrived past handle)
    (earlier : ∀ call ∈ calls, ∀ decision, call.decision = some decision → call ∈ state.calls)
    (single : ClaimedOnce Call.decides calls) :
    ServerState.Answering { state with calls := calls } ((state, label) :: past) := by
  have same : goalAnswers ((state, label) :: past) = goalAnswers past := goalAnswers_none silent
  have kept : ∀ handle accepted, state.Decided past handle accepted →
      ServerState.Decided { state with calls := calls } ((state, label) :: past) handle accepted := by
    intro handle accepted decided
    exact ⟨decided.arrived.later _, decided.known, decided.rejected⟩
  refine ⟨?_, ?_, single, ?_, ?_⟩
  · intro call member handle has
    exact (handles call member handle has).later _
  · intro call member handle accepted decides
    obtain ⟨decided, unanswered⟩ :=
      answering.decided call (earlier call member _ decides) handle accepted decides
    rw [answeredGoals, same]
    exact ⟨kept handle accepted decided, unanswered⟩
  · intro handle response member
    rw [same] at member
    exact kept handle response.accepted (answering.answered handle response member)
  · rw [answeredGoals, same]
    exact answering.once

theorem ServerState.Answering.start {operation : Operation Result Feedback} (answering : state.Answering past)
    (has : operation.HasHandle state.calls) :
    ServerState.Answering { state with calls := state.calls ++ [operation.call] }
      ((state, .start operation) :: past) := by
  have undecided : (operation.call : Call Goal Result Feedback).decision = none := by cases operation <;> rfl
  apply answering.idle rfl
  · intro call member handle own
    rcases List.mem_append.mp member with old | new
    · exact answering.arrived call old handle own
    · rw [List.mem_singleton.mp new] at own
      cases operation with
      | getNewGoal | acceptGoal | rejectGoal =>
        cases own
        exact newGoalHandles_arrived answering has
      | _ => cases own
  · intro call member decision decides
    rcases List.mem_append.mp member with old | new
    · exact old
    · rw [List.mem_singleton.mp new, undecided] at decides
      cases decides
  · apply answering.single.concat
    rw [Call.decides, undecided]
    rfl

theorem ServerState.Answering.drop (answering : state.Answering past) :
    ServerState.Answering { state with calls := state.calls.set index .dropped } ((state, .drop index) :: past) := by
  apply answering.idle rfl
  · intro call member handle own
    rcases List.mem_or_eq_of_mem_set member with old | rfl
    · exact answering.arrived call old handle own
    · cases own
  · intro call member decision decides
    rcases List.mem_or_eq_of_mem_set member with old | rfl
    · exact old
    · cases decides
  · exact answering.single.release rfl

theorem ServerState.Answering.step {label : ServerLabel Goal Result Feedback} (answering : state.Answering past)
    (distinct : (requestedGoals ((state, label) :: past)).Nodup) (stepped : state.step label = some after) :
    after.Answering ((state, label) :: past) := by
  rcases ServerState.step_cases stepped with
    ⟨operation, rfl, has, rfl⟩ | ⟨index, input, call, next, rfl, found, moved, rfl⟩ | ⟨index, call, rfl, _, _, rfl⟩
  · exact answering.start has
  · exact answering.advance distinct found moved
  · exact answering.drop

end Steps

/-- A call that has accepted a goal took it from unknown to accepted, and stays one of `accept_goal`. -/
structure ServerState.Accepting (state : ServerState Goal Result Feedback) (past : ServerPast Goal Result Feedback) :
    Prop where
  calls : ∀ (index : Nat) (call : Call Goal Result Feedback) (handle : NewGoalHandle),
    state.calls[index]? = some call → call.decision = some (handle, true) → Moved past index handle.goalId
  answers : ∀ (before : ServerState Goal Result Feedback) (index : Nat) (input : Input Goal)
    (handle : NewGoalHandle) (response : SendGoalResponse), (before, .advance index input) ∈ past →
    before.answer (.advance index input) = some (handle, response) → response.accepted = true →
    Moved past index handle.goalId
  kinds : ∀ (before : ServerState Goal Result Feedback) (label : ServerLabel Goal Result Feedback) (index : Nat)
    (call : Call Goal Result Feedback), (before, label) ∈ past → before.calls[index]? = some call →
    ∃ call', state.calls[index]? = some call' ∧ call'.accepts = call.accepts

section Accepting

variable {state after : ServerState Goal Result Feedback} {past : ServerPast Goal Result Feedback} {index : Nat}
  {label : ServerLabel Goal Result Feedback} {call : Call Goal Result Feedback} {input : Input Goal}

theorem step_kinds (stepped : state.step label = some after) (found : state.calls[index]? = some call) :
    ∃ call', after.calls[index]? = some call' ∧ call'.accepts = call.accepts := by
  have bound := (List.getElem?_eq_some_iff.mp found).1
  rcases ServerState.step_cases stepped with
    ⟨operation, rfl, _, rfl⟩ | ⟨i, input, moving, next, rfl, there, moved, rfl⟩ |
    ⟨i, dropping, rfl, there, suspended, rfl⟩
  · exact ⟨call, (List.getElem?_append_left bound).trans found, rfl⟩
  · exact exists_lookup_set there (advance_kind moved).trans found rfl
  · have idle : dropping.accepts = false := by
      cases dropping with
      | receiveNewGoal | resultWait | receiveCancelRequest | cancelRespond => rfl
      | _ => cases suspended
    exact exists_lookup_set there idle.symm.trans found rfl

theorem GoalEffect.accepted_event {finishedGoals : List GoalId} {goalId : GoalId}
    {before after : Option (AsyncGoal Goal)} {events : List (Event Result Feedback)}
    (effect : GoalEffect call finishedGoals goalId before after events)
    (unknown : before.map (·.status) = some .unknown) (known : after.map (·.status) = some .accepted) :
    events = [.goalAccepted goalId] := by
  cases effect with
  | same _ =>
    rw [unknown] at known
    cases known
  | accepted _ _ => rfl
  | finished final _ _ => cases final <;> cases known
  | received => cases unknown
  | rejected _ | started _ | aborted _ | canceling _ _ | flushed _ _ => cases known

theorem Accepts.kind {goalId : GoalId} (accepts : state.Accepts (.advance index input) goalId) :
    ∃ call, state.calls[index]? = some call ∧ call.accepts = true := by
  obtain ⟨after, stepped, unknown, known⟩ := accepts
  rcases ServerState.step_cases stepped with
    ⟨operation, same, _⟩ | ⟨i, input, call, next, same, found, moved, rfl⟩ | ⟨i, call, same, _⟩
  · cases same
  · cases same
    obtain ⟨handle, now, rfl, _⟩ := advance_accepts moved ((advance_effect moved goalId).accepted_event unknown known)
    exact ⟨_, found, rfl⟩
  · cases same

theorem answer_kind {handle : NewGoalHandle} {response : SendGoalResponse}
    (answer : call.answer = some (handle, response)) : call.accepts = response.accepted := by
  cases call with
  | acceptRespond | rejectRespond =>
    cases answer
    rfl
  | _ => cases answer

theorem ServerState.Accepting.decision {handle : NewGoalHandle} (accepting : state.Accepting past)
    (stepped : state.step label = some after) (found : after.calls[index]? = some call)
    (decides : call.decision = some (handle, true)) : Moved ((state, label) :: past) index handle.goalId := by
  have old : state.calls[index]? = some call → Moved ((state, label) :: past) index handle.goalId := by
    intro found'
    exact (accepting.calls index call handle found' decides).later _
  rcases ServerState.step_cases stepped with
    ⟨operation, rfl, _, rfl⟩ | ⟨i, input, moving, next, rfl, there, moved, rfl⟩ | ⟨i, dropping, rfl, there, _, rfl⟩
  · rcases lookup_concat found with found' | ⟨_, rfl⟩
    · exact old found'
    · cases operation <;> cases decides
  · rcases lookup_set found with ⟨rfl, rfl⟩ | ⟨_, found'⟩
    · cases advance_answers moved with
      | receives _ undecided _ _ | answers _ _ _ undecided _ _ =>
        rw [undecided] at decides
        cases decides
      | accepts own _ accepted publishes _ =>
        rw [publishes] at decides
        cases decides
        obtain ⟨unknown, known⟩ := acceptGoal_decides accepted
        exact ⟨state, input, List.mem_cons_self, _, stepped, unknown, known⟩
      | rejects _ _ _ stamps _ =>
        rw [stamps] at decides
        cases decides
      | moves _ _ decision _ _ _ =>
        rcases decision with none | same
        · rw [none] at decides
          cases decides
        · exact (accepting.calls index moving handle there (same.symm.trans decides)).later _
    · exact old found'
  · rcases lookup_set found with ⟨_, rfl⟩ | ⟨_, found'⟩
    · cases decides
    · exact old found'

theorem ServerState.Accepting.step (accepting : state.Accepting past) (stepped : state.step label = some after) :
    after.Accepting ((state, label) :: past) := by
  refine ⟨?_, ?_, ?_⟩
  · intro index call handle found decides
    exact accepting.decision stepped found decides
  · intro before index input handle response member answered accepted
    rcases List.mem_cons.mp member with new | old
    · cases new
      obtain ⟨call, found, answer, _⟩ := answer_eq answered
      have decides := answer_decision answer
      rw [accepted] at decides
      exact (accepting.calls index call handle found decides).later _
    · exact (accepting.answers before index input handle response old answered accepted).later _
  · intro before label' index call member found
    rcases List.mem_cons.mp member with new | old
    · cases new
      exact step_kinds stepped found
    · obtain ⟨call', found', same⟩ := accepting.kinds before label' index call old found
      obtain ⟨call'', found'', same'⟩ := step_kinds stepped found'
      exact ⟨call'', found'', same'.trans same⟩

end Accepting

section Reachable

variable {state : ServerState Goal Result Feedback} {past : ServerPast Goal Result Feedback}

theorem answering_reachable (reachable : (actionServer Goal Result Feedback).traced.Reachable (state, past))
    (distinct : (requestedGoals past).Nodup) : state.Answering past := by
  refine reachable.traced_invariant_of (fun past => (requestedGoals past).Nodup) (fun _ _ => distinct_earlier)
    ServerState.Answering ?_ ?_ distinct
  · refine ⟨?_, ?_, ?_, ?_, .nil⟩
    · intro call member
      cases member
    · intro call member
      cases member
    · intro i j call call' goalId found
      cases found
    · intro handle response member
      cases member
  · intro before label after past _ distinct held stepped
    exact held.step distinct stepped

theorem accepting_reachable (reachable : (actionServer Goal Result Feedback).traced.Reachable (state, past)) :
    state.Accepting past := by
  refine reachable.traced_invariant ServerState.Accepting ?_ ?_
  · refine ⟨?_, ?_, ?_⟩
    · intro index call handle found
      cases found
    · intro before index input handle response member
      cases member
    · intro before label index call member
      cases member
  · intro before label after past _ held stepped
    exact held.step stepped

end Reachable

theorem one_answer_per_goal (state : ServerState Goal Result Feedback) (past : ServerPast Goal Result Feedback)
    (reachable : (actionServer Goal Result Feedback).traced.Reachable (state, past))
    (distinct : (requestedGoals past).Nodup) : OneAnswerPerGoal state past := by
  have answering := answering_reachable reachable distinct
  have accepting := accepting_reachable reachable
  refine ⟨?_, ?_, ?_, ?_, ?_, ?_⟩
  · intro before label _
    exact writes_answer before label
  · intro goalId
    exact List.nodup_iff_count_le_one.mp answering.once goalId
  · intro handle response member
    exact (answering.answered handle response member).arrived
  · intro before index input handle response member answered
    constructor
    · exact accepting.answers before index input handle response member answered
    · intro ⟨earlier, input', member', accepts⟩
      obtain ⟨call, found, answer, _⟩ := answer_eq answered
      obtain ⟨call', found', accepts'⟩ := Accepts.kind accepts
      obtain ⟨now, there, same⟩ := accepting.kinds before _ index call member found
      obtain ⟨now', there', same'⟩ := accepting.kinds earlier _ index call' member' found'
      rw [there] at there'
      cases there'
      rw [← answer_kind answer, ← same, same', accepts']
  · intro handle response member rejected
    have absent := (answering.answered handle response member).rejected rejected
    rw [TreeMap.mem_iff_isSome_getElem?, absent]
    simp
  · intro before label message _ written
    exact writes_feedback written

/-- One goal is accepted, twice tried, and one is rejected. -/
def answeredTwo : List (ServerLabel Nat Nat Nat) :=
  let reqId := exampleRequest
  [.start .receiveNewGoal, .advance 0 (.goalRequest (reqId 1) ⟨1, 10⟩),
   .start .receiveNewGoal, .advance 1 (.goalRequest (reqId 2) ⟨2, 20⟩),
   .start (.acceptGoal ⟨1, reqId 1⟩), .start (.acceptGoal ⟨1, reqId 1⟩), .start (.rejectGoal ⟨2, reqId 2⟩),
   .advance 2 (.now ⟨100⟩), .advance 3 (.now ⟨101⟩), .advance 4 .silent, .advance 2 .silent,
   .advance 2 (.written true), .advance 2 (.written true), .advance 4 (.now ⟨102⟩), .advance 4 (.written true)]

theorem two_goals_answered : ∃ state past, (actionServer Nat Nat Nat).traced.Reachable (state, past) ∧
    answeredGoals past = [2, 1] ∧ OneAnswerPerGoal state past := by
  obtain ⟨⟨state, past⟩, reachable, checked⟩ := System.reachable_of_check (actionServer Nat Nat Nat).traced
    answeredTwo (fun traced => decide ((requestedGoals traced.2).Nodup ∧ answeredGoals traced.2 = [2, 1])) (by decide)
  obtain ⟨distinct, answered⟩ := of_decide_eq_true checked
  exact ⟨state, past, reachable, answered, one_answer_per_goal state past reachable distinct⟩

end Ros2Client
