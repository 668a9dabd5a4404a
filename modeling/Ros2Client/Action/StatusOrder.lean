import Mathlib.Logic.Relation
import Ros2Client.Action.Closing

open Transition
open Std (TreeMap)

namespace Ros2Client

variable {Goal Result Feedback : Type}

def GoalStatusEnum.Leads : GoalStatusEnum → GoalStatusEnum → Prop := Relation.ReflTransGen GoalStatusEnum.Moves

def Call.sends : Call Goal Result Feedback → Option Unit
  | .publishSend _ _ => some ()
  | _ => none

/-- Whether a call that reads the statuses does so while no other call has read them and not published them.
    There is no await in between, so that an executor with one thread always does. -/
def readsAlone (state : ServerState Goal Result Feedback) : ServerLabel Goal Result Feedback → Bool
  | .advance index _ =>
    match state.calls[index]? with
    | some (.publishStatuses _) => state.calls.all fun call => call.sends.isNone
    | _ => true
  | _ => true

/-- No status of a goal in the later array lies before the one in the earlier array. -/
def Precedes (earlier later : List GoalStatus) : Prop :=
  ∀ old ∈ earlier, ∀ new ∈ later, old.goalInfo.goalId = new.goalInfo.goalId → old.status.Leads new.status

def Event.Progresses (front : List (Event Result Feedback)) : Event Result Feedback → Prop
  | .statuses later => ∀ earlier, .statuses earlier ∈ front → Precedes earlier later
  | _ => True

/-- The goal has not gone back behind the reported status, and will not come anew. -/
structure ServerState.Beyond (state : ServerState Goal Result Feedback) (past : ServerPast Goal Result Feedback)
    (reported : GoalStatus) : Prop where
  requested : reported.goalInfo.goalId ∈ requestedGoals past
  reached : ∀ status, state.server.statusOf reported.goalInfo.goalId = some status → reported.status.Leads status

structure ServerState.Reporting (state : ServerState Goal Result Feedback) (past : ServerPast Goal Result Feedback) :
    Prop where
  published : ∀ statusList, .statuses statusList ∈ state.events → ∀ reported ∈ statusList, state.Beyond past reported
  held : ∀ statusList next, .publishSend statusList next ∈ state.calls → ∀ reported ∈ statusList,
    state.Beyond past reported
  last : ∀ statusList next, .publishSend statusList next ∈ state.calls →
    ∀ earlier, .statuses earlier ∈ state.events → Precedes earlier statusList
  single : ClaimedOnce Call.sends state.calls
  ordered : Ordered Event.Progresses state.events

theorem mem_statusArray {server : AsyncActionServer Goal} {reported : GoalStatus}
    (member : reported ∈ server.statusArray) :
    server.statusOf reported.goalInfo.goalId = some reported.status := by
  simp only [AsyncActionServer.statusArray, List.mem_map, Prod.exists, TreeMap.mem_toList_iff_getElem?_eq_some]
    at member
  obtain ⟨goalId, entry, found, rfl⟩ := member
  simp [AsyncActionServer.statusOf, found]

theorem advance_sends {server : AsyncActionServer Goal} {call : Call Goal Result Feedback} {input : Input Goal}
    {next : Advance Goal Result Feedback} (stepped : advance server call input = some next) :
    next.call.sends = none ∨ ∃ following, call = .publishStatuses following ∧
      next.call = .publishSend server.statusArray following ∧ next.server = server ∧ next.events = [] := by
  cases advance_cases stepped with
  | publishing => exact .inr ⟨_, rfl, rfl, rfl, rfl⟩
  | @published _ following | @unpublished _ following => cases following <;> exact .inl rfl
  | _ => exact .inl rfl

section Steps

variable {state after : ServerState Goal Result Feedback} {past : ServerPast Goal Result Feedback}
  {label : ServerLabel Goal Result Feedback} {index : Nat} {input : Input Goal} {call : Call Goal Result Feedback}
  {next : Advance Goal Result Feedback}

theorem ServerState.Beyond.step {reported : GoalStatus} (beyond : state.Beyond past reported)
    (distinct : (requestedGoals ((state, label) :: past)).Nodup) (unfinished : cancelsUnfinished state label = true)
    (stepped : state.step label = some after) : after.Beyond ((state, label) :: past) reported := by
  refine ⟨requested_later beyond.requested _, ?_⟩
  intro status found
  cases earlier : state.server.statusOf reported.goalInfo.goalId with
  | some old =>
    have led := beyond.reached old earlier
    rcases (ServerState.guarded_step unfinished stepped reported.goalInfo.goalId).1.moves old status earlier found with
      rfl | moves
    · exact led
    · exact led.tail moves
  | none =>
    -- The goal would have been requested again.
    have absent : state.server.goals[reported.goalInfo.goalId]? = none := Option.map_eq_none_iff.mp earlier
    rcases step_moves stepped with ⟨same, _, _⟩ | ⟨index, input, call, next, rfl, _, moved, same, _⟩
    · rw [same, earlier] at found
      cases found
    · rw [same] at found
      obtain ⟨reqId, request, rfl, own⟩ := advance_appears moved absent (status_present found)
      have fresh := distinct_request distinct
      rw [own] at fresh
      exact absurd beyond.requested fresh

theorem statusArray_beyond (closing : state.Closing past) {reported : GoalStatus}
    (member : reported ∈ state.server.statusArray) : state.Beyond past reported := by
  have found := mem_statusArray member
  refine ⟨closing.present _ (status_present found), ?_⟩
  intro status found'
  rw [found] at found'
  cases found'
  exact .refl

theorem readsAlone_free {following : AfterPublish} (alone : readsAlone state (.advance index input) = true)
    (found : state.calls[index]? = some (.publishStatuses following)) : ∀ call ∈ state.calls, call.sends = none := by
  simp only [readsAlone, found, List.all_eq_true] at alone
  intro call member
  exact Option.isNone_iff_eq_none.mp (alone call member)

theorem beyond_precedes {earlier : List GoalStatus} (beyond : ∀ reported ∈ earlier, state.Beyond past reported) :
    Precedes earlier state.server.statusArray := by
  intro old listed new member same
  apply (beyond old listed).reached
  rw [same]
  exact mem_statusArray member

/-- A call that has read the statuses and not published them had read them before, or does so now. -/
theorem sends_origin (stepped : state.step label = some after) {statusList : List GoalStatus} {following : AfterPublish}
    (sending : .publishSend statusList following ∈ after.calls) :
    .publishSend statusList following ∈ state.calls ∨
      ∃ index input, label = .advance index input ∧ state.calls[index]? = some (.publishStatuses following) ∧
        statusList = state.server.statusArray ∧ after.server = state.server ∧ after.events = state.events := by
  rcases ServerState.step_cases stepped with
    ⟨operation, rfl, _, rfl⟩ | ⟨index, input, call, next, rfl, found, moved, rfl⟩ | ⟨index, call, rfl, _, _, rfl⟩
  · rcases List.mem_append.mp sending with earlier | new
    · exact .inl earlier
    · cases operation <;> cases List.mem_singleton.mp new
  · rcases List.mem_or_eq_of_mem_set sending with earlier | new
    · exact .inl earlier
    · rcases advance_sends moved with idle | ⟨following', rfl, reads, same, silent⟩
      · rw [← new] at idle
        cases idle
      · rw [reads] at new
        cases new
        exact .inr ⟨index, input, rfl, found, rfl, same, by simp [silent]⟩
  · rcases List.mem_or_eq_of_mem_set sending with earlier | new
    · exact .inl earlier
    · cases new

/-- A status message that is new was read by the call that publishes it, which then has nothing to publish. -/
theorem statuses_origin (stepped : state.step label = some after) {statusList : List GoalStatus}
    (written : .statuses statusList ∈ after.events) :
    .statuses statusList ∈ state.events ∨
      ∃ index following, state.calls[index]? = some (.publishSend statusList following) ∧
        ∀ (place : Nat) (call : Call Goal Result Feedback), after.calls[place]? = some call → call.sends = some () →
          place ≠ index ∧ state.calls[place]? = some call := by
  rcases ServerState.step_cases stepped with
    ⟨operation, rfl, _, rfl⟩ | ⟨index, input, call, next, rfl, found, moved, rfl⟩ | ⟨index, call, rfl, _, _, rfl⟩
  · exact .inl written
  · rcases List.mem_append.mp written with earlier | new
    · exact .inl earlier
    · cases advance_writes moved with
      | @statuses statusList' following calls events =>
        rw [events] at new
        cases List.mem_singleton.mp new
        subst calls
        refine .inr ⟨index, following, found, ?_⟩
        intro place call looked sends
        have idle : next.call.sends = none := by
          rcases advance_sends moved with idle | ⟨_, reads, _⟩
          · exact idle
          · cases reads
        exact claim_elsewhere Call.sends idle looked sends
      | silent events =>
        rw [events] at new
        cases new
      | accepts _ _ _ events | answers _ _ events | feedback _ _ events | result _ _ _ events | cancels _ events =>
        rw [events] at new
        cases List.mem_singleton.mp new
  · exact .inl written

theorem ServerState.Reporting.single_step (reporting : state.Reporting past) (alone : readsAlone state label = true)
    (stepped : state.step label = some after) : ClaimedOnce Call.sends after.calls := by
  rcases ServerState.step_cases stepped with
    ⟨operation, rfl, _, rfl⟩ | ⟨index, input, call, next, rfl, found, moved, rfl⟩ | ⟨index, call, rfl, _, _, rfl⟩
  · apply reporting.single.concat
    cases operation <;> rfl
  · rcases advance_sends moved with idle | ⟨following, rfl, reads, _, _⟩
    · exact reporting.single.release idle
    · rw [reads]
      refine reporting.single.claim rfl ?_
      intro call member sends
      rw [readsAlone_free alone found call member] at sends
      cases sends
  · exact reporting.single.release rfl

theorem ServerState.Reporting.step (reporting : state.Reporting past) (closing : state.Closing past)
    (distinct : (requestedGoals ((state, label) :: past)).Nodup) (unfinished : cancelsUnfinished state label = true)
    (alone : readsAlone state label = true) (stepped : state.step label = some after) :
    after.Reporting ((state, label) :: past) := by
  have onwards : ∀ reported, state.Beyond past reported → after.Beyond ((state, label) :: past) reported :=
    fun reported beyond => beyond.step distinct unfinished stepped
  refine ⟨?_, ?_, ?_, reporting.single_step alone stepped, ?_⟩
  · intro statusList written reported listed
    rcases statuses_origin stepped written with earlier | ⟨index, following, found, _⟩
    · exact onwards _ (reporting.published statusList earlier reported listed)
    · exact onwards _ (reporting.held statusList following (List.mem_of_getElem? found) reported listed)
  · intro statusList following sending reported listed
    rcases sends_origin stepped sending with earlier | ⟨_, _, _, _, rfl, _, _⟩
    · exact onwards _ (reporting.held statusList following earlier reported listed)
    · exact onwards _ (statusArray_beyond closing listed)
  · intro statusList following sending earlier written
    rcases sends_origin stepped sending with old | ⟨_, _, _, _, rfl, _, events⟩
    · rcases statuses_origin stepped written with before | ⟨index, following', found, elsewhere⟩
      · exact reporting.last statusList following old earlier before
      · -- Two calls would have read the statuses.
        obtain ⟨place, looked⟩ := List.getElem?_of_mem sending
        obtain ⟨apart, looked'⟩ := elsewhere place _ looked rfl
        exact absurd (reporting.single place index _ _ () looked' found rfl rfl) apart
    · rw [events] at written
      exact beyond_precedes (reporting.published earlier written)
  · rcases step_moves stepped with ⟨_, same, _⟩ | ⟨index, input, call, next, rfl, found, moved, _, more⟩
    · rw [same]
      exact reporting.ordered
    · rw [more]
      apply reporting.ordered.append
      cases advance_writes moved with
      | silent events => exact .inl events
      | @statuses statusList following calls events =>
        subst calls
        exact .inr ⟨_, events, reporting.last statusList following (List.mem_of_getElem? found)⟩
      | accepts _ _ _ events | answers _ _ events | feedback _ _ events | result _ _ _ events | cancels _ events =>
        exact .inr ⟨_, events, trivial⟩

theorem reporting_reachable (reachable : (actionServer Goal Result Feedback).traced.Reachable (state, past))
    (distinct : (requestedGoals past).Nodup)
    (careful : ∀ before label, (before, label) ∈ past →
      cancelsUnfinished before label = true ∧ readsAlone before label = true) : state.Reporting past := by
  refine reachable.traced_invariant_of (fun past => (requestedGoals past).Nodup ∧ ∀ before label,
    (before, label) ∈ past → cancelsUnfinished before label = true ∧ readsAlone before label = true)
    (fun _ _ met => ⟨distinct_earlier met.1, fun before label member =>
      met.2 before label (List.mem_cons_of_mem _ member)⟩) ServerState.Reporting ?_ ?_ ⟨distinct, careful⟩
  · refine ⟨?_, ?_, ?_, ?_, .nil⟩
    · intro statusList written
      cases written
    · intro statusList following sending
      cases sending
    · intro statusList following sending
      cases sending
    · intro i j call call' key found
      cases found
  · intro before label after past reached met held stepped
    obtain ⟨distinct, careful⟩ := met
    have now := careful before label List.mem_cons_self
    exact held.step (closing_reachable reached (distinct_earlier distinct)) distinct now.1 now.2 stepped

def Snapshot (past : ServerPast Goal Result Feedback) (statusList : List GoalStatus) : Prop :=
  ∃ before label, (before, label) ∈ past ∧ statusList = before.server.statusArray

theorem snapshots_reachable (reachable : (actionServer Goal Result Feedback).traced.Reachable (state, past)) :
    (∀ statusList, .statuses statusList ∈ state.events → Snapshot past statusList) ∧
      ∀ statusList following, .publishSend statusList following ∈ state.calls → Snapshot past statusList := by
  refine reachable.traced_invariant (fun state past =>
    (∀ statusList, .statuses statusList ∈ state.events → Snapshot past statusList) ∧
      ∀ statusList following, .publishSend statusList following ∈ state.calls → Snapshot past statusList) ?_ ?_
  · refine ⟨?_, ?_⟩
    · intro statusList written
      cases written
    · intro statusList following sending
      cases sending
  · intro before label after past _ held moved
    have later : ∀ statusList, Snapshot past statusList → Snapshot ((before, label) :: past) statusList := by
      intro statusList ⟨state, label', member, same⟩
      exact ⟨state, label', List.mem_cons_of_mem _ member, same⟩
    refine ⟨?_, ?_⟩
    · intro statusList written
      rcases statuses_origin moved written with earlier | ⟨index, following, found, _⟩
      · exact later _ (held.1 statusList earlier)
      · exact later _ (held.2 statusList following (List.mem_of_getElem? found))
    · intro statusList following sending
      rcases sends_origin moved sending with earlier | ⟨_, _, _, _, rfl, _, _⟩
      · exact later _ (held.2 statusList following earlier)
      · exact ⟨before, label, List.mem_cons_self, rfl⟩

end Steps

end Ros2Client
