import Ros2Client.Action.LifeCycle
import Ros2Client.Transition.Threads
import Ros2Client.Transition.Traces

open Transition
open Std (TreeMap)

namespace Ros2Client

variable {Goal Result Feedback : Type}

def Call.ended : Call Goal Result Feedback → Bool
  | .done _ | .dropped => true
  | _ => false

/-- Every operation is over before the next one starts. -/
def startsAlone (state : ServerState Goal Result Feedback) : ServerLabel Goal Result Feedback → Bool
  | .start _ => state.calls.all (·.ended)
  | _ => true

def reportedGoals (statusList : List GoalStatus) : List GoalInfo :=
  (statusList.filter (·.status ≠ .unknown)).map (·.goalInfo)

def Call.stamps : Call Goal Result Feedback → List GoalInfo
  | .acceptRespond handle now => [⟨handle.goalId, now⟩]
  | .publishSend statusList _ => reportedGoals statusList
  | .cancelRespond _ canceling => canceling
  | _ => []

def ServerState.stamps (state : ServerState Goal Result Feedback) : ServerLabel Goal Result Feedback → List GoalInfo
  | .advance index (.written true) => (state.calls[index]?.map Call.stamps).getD []
  | _ => []

def ServerState.HasGoal (goalId : GoalId) (state : ServerState Goal Result Feedback) : Prop :=
  goalId ∈ state.server.goals

/-- The goal was accepted at the time and has been in the table since. -/
def AcceptedSince (system : System (ServerState Goal Result Feedback) (ServerLabel Goal Result Feedback))
    (state : ServerState Goal Result Feedback) (goalId : GoalId) (time : Time) : Prop :=
  ∃ before after index handle, system.Reachable before ∧ before.calls[index]? = some (.acceptGoal handle) ∧
    handle.goalId = goalId ∧ before.server.statusOf goalId = some .unknown ∧
    system.step before (.advance index (.now time)) = some after ∧ system.RunsIn (·.HasGoal goalId) after state

structure ConsistentTimes (system : System (ServerState Goal Result Feedback) (ServerLabel Goal Result Feedback)) :
    Prop where
  unknown_iff : ∀ (state : ServerState Goal Result Feedback) (goalId : GoalId) (entry : AsyncGoal Goal),
    system.Reachable state → state.server.goals[goalId]? = some entry →
    (entry.acceptedTime = none ↔ entry.status = .unknown)
  kept : ∀ (state after : ServerState Goal Result Feedback) (label : ServerLabel Goal Result Feedback)
    (goalId : GoalId) (entry entry' : AsyncGoal Goal) (time : Time), system.Reachable state →
    system.step state label = some after → state.server.goals[goalId]? = some entry →
    after.server.goals[goalId]? = some entry' → entry.acceptedTime = some time → entry'.acceptedTime = some time
  /-- A status array shows the table as it is when the array is written. -/
  arrays : ∀ (state : ServerState Goal Result Feedback) (index : Nat) (statusList : List GoalStatus)
    (next : AfterPublish), system.Reachable state → state.calls[index]? = some (.publishSend statusList next) →
    statusList = state.server.statusArray
  /-- Two messages that name a goal, as long as it is in the table, give it one stamp. -/
  stamps : ∀ (first last : ServerState Goal Result Feedback) (label label' : ServerLabel Goal Result Feedback)
    (goalId : GoalId) (time time' : Time), system.Reachable first → system.RunsIn (·.HasGoal goalId) first last →
    ⟨goalId, time⟩ ∈ first.stamps label → ⟨goalId, time'⟩ ∈ last.stamps label' → time = time'
  /-- Only a goal that was accepted is reported as accepted or as anything later. -/
  reported : ∀ (state : ServerState Goal Result Feedback) (label : ServerLabel Goal Result Feedback)
    (goalInfo : GoalInfo), system.Reachable state → goalInfo ∈ state.stamps label →
    AcceptedSince system state goalInfo.goalId goalInfo.stamp

def AfterPublish.holds : AfterPublish → List GoalInfo
  | .acceptGoal handle now => [⟨handle.goalId, now⟩]
  | .respondToCancelRequests _ canceling => canceling
  | _ => []

def Call.holds : Call Goal Result Feedback → List GoalInfo
  | .acceptRespond handle now => [⟨handle.goalId, now⟩]
  | .publishStatuses next => next.holds
  | .publishSend statusList next => reportedGoals statusList ++ next.holds
  | .cancelCollect _ _ canceling => canceling
  | .cancelSet _ remaining canceling => remaining ++ canceling
  | .cancelRespond _ canceling => canceling
  | _ => []

def AsyncActionServer.Timed (server : AsyncActionServer Goal) : Prop :=
  ∀ (goalId : GoalId) (entry : AsyncGoal Goal), server.goals[goalId]? = some entry →
    (entry.acceptedTime = none ↔ entry.status = .unknown)

def AsyncActionServer.Dates (server : AsyncActionServer Goal) (goalInfo : GoalInfo) : Prop :=
  ∃ entry, server.goals[goalInfo.goalId]? = some entry ∧ entry.acceptedTime = some goalInfo.stamp

theorem stamps_subset_holds {call : Call Goal Result Feedback} {goalInfo : GoalInfo} (member : goalInfo ∈ call.stamps) :
    goalInfo ∈ call.holds := by
  cases call with
  | acceptRespond | cancelRespond => exact member
  | publishSend statusList next => exact List.mem_append_left _ member
  | _ => cases member

theorem AfterPublish.call_holds (next : AfterPublish) : (next.call : Call Goal Result Feedback).holds = next.holds := by
  cases next <;> rfl

theorem statusArray_dates {server : AsyncActionServer Goal} (timed : server.Timed) {goalInfo : GoalInfo}
    (member : goalInfo ∈ reportedGoals server.statusArray) : server.Dates goalInfo := by
  simp only [reportedGoals, AsyncActionServer.statusArray, List.mem_map, List.mem_filter, Prod.exists,
    TreeMap.mem_toList_iff_getElem?_eq_some] at member
  obtain ⟨status, ⟨⟨goalId, entry, found, rfl⟩, known⟩, rfl⟩ := member
  have accepted : entry.acceptedTime ≠ none := by
    intro none
    simp [(timed goalId entry found).mp none] at known
  obtain ⟨time, same⟩ := Option.ne_none_iff_exists'.mp accepted
  exact ⟨entry, found, by simp [same]⟩

theorem cancelingInfo_dates {server : AsyncActionServer Goal} {goalId : GoalId} {goalInfo : GoalInfo}
    (found : server.cancelingInfo goalId = some goalInfo) : server.Dates goalInfo := by
  obtain ⟨entry, present, mapped⟩ := Option.bind_eq_some_iff.mp found
  obtain ⟨time, accepted, rfl⟩ := Option.map_eq_some_iff.mp mapped
  exact ⟨entry, present, accepted⟩

theorem acceptGoal_dates {server after : AsyncActionServer Goal} {handle : NewGoalHandle} {now : Time}
    (accepted : server.acceptGoal handle now = .ok after) : after.Dates ⟨handle.goalId, now⟩ := by
  obtain ⟨unknown, rfl⟩ := AsyncActionServer.acceptGoal_ok accepted
  obtain ⟨entry, found, _⟩ := statusOf_some unknown
  exact ⟨{ entry with status := .accepted, acceptedTime := some now }, by simp [found], rfl⟩

/-- What a call holds after a step it held before, or has read in this step. -/
theorem advance_holds {server : AsyncActionServer Goal} {call : Call Goal Result Feedback}
    {input : Input Goal} {next : Advance Goal Result Feedback} (stepped : advance server call input = some next)
    (timed : server.Timed) {goalInfo : GoalInfo} (member : goalInfo ∈ next.call.holds) :
    goalInfo ∈ call.holds ∨ next.server.Dates goalInfo := by
  cases advance_cases stepped with
  | accepted accepted =>
    rw [List.mem_singleton.mp member]
    exact .inr (acceptGoal_dates accepted)
  | collected =>
    simp only [Call.holds, List.mem_append, or_self] at member
    exact .inl member
  | collecting =>
    rcases List.mem_append.mp member with old | new
    · exact .inl old
    · exact .inr (cancelingInfo_dates (Option.mem_toList.mp new))
  | cancelSet =>
    simp only [Call.holds, List.cons_append, List.mem_cons]
    exact .inl (.inr member)
  | publishing =>
    rcases List.mem_append.mp member with new | old
    · exact .inr (statusArray_dates timed new)
    · exact .inl old
  | published | unpublished =>
    rw [AfterPublish.call_holds] at member
    exact .inl (List.mem_append_right _ member)
  | cancelsSet => exact .inl member
  | _ => cases member

section Effects

variable {call : Call Goal Result Feedback} {finishedGoals : List GoalId} {goalId : GoalId}
  {before after : Option (AsyncGoal Goal)} {events : List (Event Result Feedback)}

/-- The status leaves unknown only with the acceptance, if cancelling finds an accepted goal. -/
theorem GoalEffect.timed (effect : GoalEffect call finishedGoals goalId before after events)
    (timed : ∀ entry, before = some entry → (entry.acceptedTime = none ↔ entry.status = .unknown))
    (accepted : ∀ handle goalInfo goalInfos all entry, call = .cancelSet handle (goalInfo :: goalInfos) all →
      goalInfo.goalId = goalId → before = some entry → entry.acceptedTime ≠ none) {entry : AsyncGoal Goal}
    (found : after = some entry) : entry.acceptedTime = none ↔ entry.status = .unknown := by
  cases effect with
  | same _ => exact timed entry found
  | received =>
    cases found
    simp
  | accepted now _ =>
    cases found
    simp
  | started status =>
    cases found
    simp [timed _ rfl, status]
  | finished final status _ =>
    cases found
    rcases status with status | status | status <;> cases final <;>
      simp [timed _ rfl, status, GoalEndStatus.toStatus]
  | aborted status =>
    cases found
    rcases status with status | status <;> simp [timed _ rfl, status]
  | canceling setting named =>
    cases found
    simpa using accepted _ _ _ _ _ setting named rfl
  | rejected _ | flushed _ _ => cases found

/-- An acceptance time stays as long as its goal, and only a flush takes an accepted goal away. -/
theorem GoalEffect.acceptedTime (effect : GoalEffect call finishedGoals goalId before after events)
    (timed : ∀ entry, before = some entry → (entry.acceptedTime = none ↔ entry.status = .unknown))
    {entry : AsyncGoal Goal} {time : Time} (found : before = some entry) (accepted : entry.acceptedTime = some time) :
    (∃ entry', after = some entry' ∧ entry'.acceptedTime = some time) ∨
      (after = none ∧ ∃ handle, call = .getNewGoal handle) := by
  have known : entry.status ≠ .unknown := by
    intro unknown
    rw [(timed entry found).mpr unknown] at accepted
    cases accepted
  cases effect with
  | same _ => exact .inl ⟨entry, found, accepted⟩
  | received => cases found
  | accepted now status | rejected status =>
    cases found
    exact absurd status known
  | started status | finished final status _ | aborted status | canceling setting named =>
    cases found
    exact .inl ⟨_, rfl, accepted⟩
  | flushed flushing _ => exact .inr ⟨rfl, _, flushing⟩

/-- An acceptance time that is there after a step was there before, or the step is the acceptance. -/
theorem GoalEffect.accepted_before (effect : GoalEffect call finishedGoals goalId before after events)
    {entry : AsyncGoal Goal} {time : Time} (found : after = some entry) (accepted : entry.acceptedTime = some time) :
    (∃ entry', before = some entry' ∧ entry'.acceptedTime = some time) ∨
      (events = [.goalAccepted goalId] ∧ ∃ entry', before = some entry' ∧ entry'.status = .unknown) := by
  cases effect with
  | same _ => exact .inl ⟨entry, found, accepted⟩
  | received =>
    cases found
    cases accepted
  | accepted now status => exact .inr ⟨rfl, _, rfl, status⟩
  | started status | finished final status _ | aborted status | canceling setting named =>
    cases found
    exact .inl ⟨_, rfl, accepted⟩
  | rejected _ | flushed _ _ => cases found

end Effects

theorem advance_accepts {server : AsyncActionServer Goal} {call : Call Goal Result Feedback} {input : Input Goal}
    {next : Advance Goal Result Feedback} {goalId : GoalId} (stepped : advance server call input = some next)
    (event : next.events = [.goalAccepted goalId]) :
    ∃ handle now, call = .acceptGoal handle ∧ input = .now now ∧ handle.goalId = goalId ∧
      next.server.Dates ⟨goalId, now⟩ := by
  cases advance_cases stepped with
  | accepted accepted =>
    cases event
    exact ⟨_, _, rfl, rfl, rfl, acceptGoal_dates accepted⟩
  | _ => cases event

theorem advance_publishes {server : AsyncActionServer Goal} {call : Call Goal Result Feedback} {input : Input Goal}
    {next : Advance Goal Result Feedback} {statusList : List GoalStatus} {following : AfterPublish}
    (stepped : advance server call input = some next) (sends : next.call = .publishSend statusList following) :
    statusList = next.server.statusArray := by
  cases advance_cases stepped with
  | publishing =>
    cases sends
    rfl
  | @published _ next | @unpublished _ next => cases next <;> cases sends
  | _ => cases sends

theorem advance_running {server : AsyncActionServer Goal} {call : Call Goal Result Feedback} {input : Input Goal}
    {next : Advance Goal Result Feedback} (stepped : advance server call input = some next) : call.ended = false := by
  cases call with
  | done | dropped => cases stepped
  | _ => rfl

theorem ended_holds {call : Call Goal Result Feedback} (ended : call.ended = true) : call.holds = [] := by
  cases call with
  | done | dropped => rfl
  | _ => cases ended

theorem operation_holds (operation : Operation Result Feedback) :
    (operation.call : Call Goal Result Feedback).holds = [] := by
  cases operation <;> rfl

/-- At most one call runs, and all that it has read from the table still stands there. -/
structure ServerState.Alone (state : ServerState Goal Result Feedback) : Prop where
  timed : state.server.Timed
  single : ∀ (i j : Nat) (call call' : Call Goal Result Feedback), state.calls[i]? = some call →
    state.calls[j]? = some call' → call.ended = false → call'.ended = false → i = j
  dated : ∀ call ∈ state.calls, ∀ goalInfo ∈ call.holds, state.server.Dates goalInfo
  arrays : ∀ call ∈ state.calls, ∀ statusList next, call = .publishSend statusList next →
    statusList = state.server.statusArray

section Alone

variable {state after : ServerState Goal Result Feedback} {index : Nat} {input : Input Goal}
  {call : Call Goal Result Feedback} {next : Advance Goal Result Feedback}

theorem ServerState.Alone.effect_timed (alone : state.Alone) (found : state.calls[index]? = some call)
    (moved : advance state.server call input = some next) : next.server.Timed := by
  intro goalId entry present
  refine (advance_effect moved goalId).timed (alone.timed goalId) ?_ present
  intro handle goalInfo goalInfos all entry setting named found'
  have member : goalInfo ∈ call.holds := by simp [setting, Call.holds]
  obtain ⟨entry', present', accepted⟩ := alone.dated call (List.mem_of_getElem? found) goalInfo member
  rw [named, found'] at present'
  cases present'
  simp [accepted]

theorem ServerState.Alone.effect_dates (alone : state.Alone) (moved : advance state.server call input = some next)
    {goalInfo : GoalInfo} (member : goalInfo ∈ call.holds) (dated : state.server.Dates goalInfo) :
    next.server.Dates goalInfo := by
  obtain ⟨entry, present, accepted⟩ := dated
  have effect := advance_effect moved goalInfo.goalId
  rcases effect.acceptedTime (alone.timed goalInfo.goalId) present accepted with kept | ⟨_, handle, rfl⟩
  · exact kept
  · cases member

theorem ServerState.Alone.advance (alone : state.Alone) (found : state.calls[index]? = some call)
    (moved : advance state.server call input = some next) :
    ServerState.Alone ⟨next.server, state.calls.set index next.call, state.events ++ next.events⟩ := by
  have running := advance_running moved
  -- Every other call has ended, so that the one that moves is the only one that holds anything.
  have others : ∀ (j : Nat) (call' : Call Goal Result Feedback), index ≠ j → state.calls[j]? = some call' →
      call'.ended = true := by
    intro j call' apart found'
    by_contra ended
    exact apart (alone.single index j call call' found found' running (by simpa using ended))
  have only : ∀ (j : Nat) (call' : Call Goal Result Feedback), (state.calls.set index next.call)[j]? = some call' →
      call'.ended = false → index = j := by
    intro j call' found' running'
    rcases lookup_set found' with ⟨same, _⟩ | ⟨apart, old⟩
    · exact same.symm
    · have ended := others j call' apart.symm old
      simp [ended] at running'
  refine ⟨alone.effect_timed found moved, ?_, ?_, ?_⟩
  · intro i j call' call'' foundI foundJ runningI runningJ
    rw [← only i call' foundI runningI, ← only j call'' foundJ runningJ]
  · intro call' member goalInfo holds
    obtain ⟨j, found'⟩ := List.getElem?_of_mem member
    rcases lookup_set found' with ⟨_, rfl⟩ | ⟨apart, old⟩
    · rcases advance_holds moved alone.timed holds with held | dated
      · exact alone.effect_dates moved held (alone.dated call (List.mem_of_getElem? found) goalInfo held)
      · exact dated
    · rw [ended_holds (others j call' apart.symm old)] at holds
      cases holds
  · intro call' member statusList following sends
    obtain ⟨j, found'⟩ := List.getElem?_of_mem member
    have same := only j call' found' (by rw [sends]; rfl)
    rcases lookup_set found' with ⟨_, rfl⟩ | ⟨apart, _⟩
    · exact advance_publishes moved sends
    · exact absurd same.symm apart

theorem ServerState.Alone.start {operation : Operation Result Feedback} (alone : state.Alone)
    (ended : state.calls.all (·.ended) = true) :
    ServerState.Alone { state with calls := state.calls ++ [operation.call] } := by
  have only : ∀ (j : Nat) (call : Call Goal Result Feedback),
      (state.calls ++ [operation.call])[j]? = some call → call.ended = false → j = state.calls.length := by
    intro j call found running
    rcases lookup_concat found with old | ⟨last, _⟩
    · have stopped := List.all_eq_true.mp ended call (List.mem_of_getElem? old)
      simp [stopped] at running
    · exact last
  refine ⟨alone.timed, ?_, ?_, ?_⟩
  · intro i j call call' foundI foundJ runningI runningJ
    rw [only i call foundI runningI, only j call' foundJ runningJ]
  · intro call member goalInfo holds
    rcases List.mem_append.mp member with old | new
    · exact alone.dated call old goalInfo holds
    · rw [List.mem_singleton.mp new, operation_holds] at holds
      cases holds
  · intro call member statusList next sends
    rcases List.mem_append.mp member with old | new
    · exact alone.arrays call old statusList next sends
    · rw [List.mem_singleton.mp new] at sends
      cases operation <;> cases sends

theorem ServerState.Alone.drop (alone : state.Alone) :
    ServerState.Alone { state with calls := state.calls.set index .dropped } := by
  have running : ∀ (j : Nat) (call : Call Goal Result Feedback), (state.calls.set index .dropped)[j]? = some call →
      call.ended = false → state.calls[j]? = some call := by
    intro j call found unended
    rcases lookup_set found with ⟨_, rfl⟩ | ⟨_, old⟩
    · cases unended
    · exact old
  refine ⟨alone.timed, ?_, ?_, ?_⟩
  · intro i j call call' foundI foundJ runningI runningJ
    exact alone.single i j call call' (running i call foundI runningI) (running j call' foundJ runningJ)
      runningI runningJ
  · intro call member goalInfo holds
    rcases List.mem_or_eq_of_mem_set member with old | rfl
    · exact alone.dated call old goalInfo holds
    · cases holds
  · intro call member statusList next sends
    rcases List.mem_or_eq_of_mem_set member with old | rfl
    · exact alone.arrays call old statusList next sends
    · cases sends

theorem ServerState.Alone.step {label : ServerLabel Goal Result Feedback} (alone : state.Alone)
    (starts : startsAlone state label = true) (stepped : state.step label = some after) : after.Alone := by
  rcases ServerState.step_cases stepped with
    ⟨operation, rfl, _, rfl⟩ | ⟨index, input, call, next, rfl, found, moved, rfl⟩ | ⟨index, call, rfl, _, _, rfl⟩
  · exact alone.start starts
  · exact alone.advance found moved
  · exact alone.drop

end Alone

def sequentialServer (Goal Result Feedback : Type) :
    System (ServerState Goal Result Feedback) (ServerLabel Goal Result Feedback) :=
  (actionServer Goal Result Feedback).restrict fun state label => startsAlone state label = true

section Sequential

variable {state after : ServerState Goal Result Feedback} {label : ServerLabel Goal Result Feedback}
  {goalId : GoalId} {time : Time}

theorem alone_reachable (reachable : (sequentialServer Goal Result Feedback).Reachable state) : state.Alone := by
  refine reachable.invariant ServerState.Alone ?_ ?_
  · refine ⟨?_, ?_, ?_, ?_⟩
    · intro goalId entry found
      simp [sequentialServer, System.restrict, actionServer, AsyncActionServer.new] at found
    · intro i j call call' found
      cases found
    · intro call member
      cases member
    · intro call member
      cases member
  · intro before label after alone stepped
    obtain ⟨starts, moved⟩ := System.restrict_step.mp stepped
    exact alone.step starts moved

/-- As long as the goal is there, a step keeps the time at which it was accepted. -/
theorem dates_kept (reachable : (sequentialServer Goal Result Feedback).Reachable state)
    (stepped : (sequentialServer Goal Result Feedback).step state label = some after)
    (dated : state.server.Dates ⟨goalId, time⟩) (present : after.HasGoal goalId) :
    after.server.Dates ⟨goalId, time⟩ := by
  rcases ServerState.step_cases (System.restrict_step.mp stepped).2 with
    ⟨operation, rfl, _, rfl⟩ | ⟨index, input, call, next, rfl, found, moved, rfl⟩ | ⟨index, call, rfl, _, _, rfl⟩
  · exact dated
  · obtain ⟨entry, found', accepted⟩ := dated
    have effect := advance_effect moved goalId
    rcases effect.acceptedTime ((alone_reachable reachable).timed goalId) found' accepted with kept | ⟨gone, _⟩
    · exact kept
    · rw [ServerState.HasGoal, TreeMap.mem_iff_isSome_getElem?, gone] at present
      cases present
  · exact dated

theorem stamps_date (reachable : (sequentialServer Goal Result Feedback).Reachable state) {goalInfo : GoalInfo}
    (member : goalInfo ∈ state.stamps label) : state.server.Dates goalInfo := by
  unfold ServerState.stamps at member
  split at member
  · rename_i index
    cases found : state.calls[index]? with
    | none => simp [found] at member
    | some call =>
      simp only [found, Option.map_some, Option.getD_some] at member
      exact (alone_reachable reachable).dated call (List.mem_of_getElem? found) goalInfo (stamps_subset_holds member)
  · cases member

theorem ServerState.HasGoal.of_dates (dated : state.server.Dates ⟨goalId, time⟩) : state.HasGoal goalId := by
  obtain ⟨entry, found, _⟩ := dated
  rw [ServerState.HasGoal, TreeMap.mem_iff_isSome_getElem?, found]
  rfl

theorem dates_acceptedSince (reachable : (sequentialServer Goal Result Feedback).Reachable state)
    (dated : state.server.Dates ⟨goalId, time⟩) :
    AcceptedSince (sequentialServer Goal Result Feedback) state goalId time := by
  induction reachable with
  | initial =>
    obtain ⟨entry, found, _⟩ := dated
    simp [sequentialServer, System.restrict, actionServer, AsyncActionServer.new] at found
  | @step before after label earlier stepped ih =>
    have later : before.server.Dates ⟨goalId, time⟩ →
        AcceptedSince (sequentialServer Goal Result Feedback) after goalId time := by
      intro dated'
      obtain ⟨first, second, index, handle, reached, call, named, unknown, accepts, run⟩ := ih dated'
      exact ⟨first, second, index, handle, reached, call, named, unknown, accepts, run.step stepped (.of_dates dated)⟩
    rcases ServerState.step_cases (System.restrict_step.mp stepped).2 with
      ⟨operation, rfl, _, rfl⟩ | ⟨index, input, call, next, rfl, found, moved, rfl⟩ | ⟨index, call, rfl, _, _, rfl⟩
    · exact later dated
    · obtain ⟨entry, present, accepted⟩ := dated
      rcases (advance_effect moved goalId).accepted_before present accepted with
        dated' | ⟨event, entry', found', unknown⟩
      · exact later dated'
      · obtain ⟨handle, now, rfl, rfl, named, entry'', present', accepted'⟩ := advance_accepts moved event
        have same : now = time := by
          rw [present] at present'
          cases present'
          exact Option.some.inj (accepted'.symm.trans accepted)
        subst same
        have status : before.server.statusOf goalId = some .unknown := by
          simp [AsyncActionServer.statusOf, found', unknown]
        exact ⟨before, _, index, handle, earlier, found, named, status, stepped,
          .start (.of_dates ⟨entry, present, accepted⟩)⟩
    · exact later dated

end Sequential

theorem accepted_times_consistent (Goal Result Feedback : Type) :
    ConsistentTimes (sequentialServer Goal Result Feedback) where
  unknown_iff := by
    intro state goalId entry reachable found
    exact (alone_reachable reachable).timed goalId entry found
  kept := by
    intro state after label goalId entry entry' time reachable stepped found found' accepted
    have present : after.HasGoal goalId := by
      rw [ServerState.HasGoal, TreeMap.mem_iff_isSome_getElem?, found']
      rfl
    obtain ⟨entry'', found'', accepted'⟩ := dates_kept reachable stepped ⟨entry, found, accepted⟩ present
    rw [found'] at found''
    cases found''
    exact accepted'
  arrays := by
    intro state index statusList next reachable found
    exact (alone_reachable reachable).arrays _ (List.mem_of_getElem? found) statusList next rfl
  stamps := by
    intro first last label label' goalId time time' reachable run member member'
    have dated := stamps_date reachable member
    have carried : last.server.Dates ⟨goalId, time⟩ := by
      refine run.keeps reachable (fun state => state.server.Dates ⟨goalId, time⟩) ?_ dated
      intro before label after reached _ present stepped held
      exact dates_kept reached stepped held present
    obtain ⟨entry, found, accepted⟩ := carried
    obtain ⟨entry', found', accepted'⟩ := stamps_date (run.reachable reachable) member'
    rw [found] at found'
    cases found'
    exact Option.some.inj (accepted.symm.trans accepted')
  reported := by
    intro state label goalInfo reachable member
    exact dates_acceptedSince reachable (stamps_date reachable member)

end Ros2Client
