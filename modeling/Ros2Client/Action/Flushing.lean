import Ros2Client.Action.LifeCycle
import Ros2Client.Transition.Threads

open Transition
open Std (TreeMap)

namespace Ros2Client

variable {Goal Result Feedback : Type}

inductive Flushed
  | removed
  | wrongStatus
  | lost
deriving DecidableEq

def flushed (goals : TreeMap GoalId (AsyncGoal Goal)) (goalId : GoalId) : Flushed :=
  match goals[goalId]? with
  | some goal =>
    if goal.status = .succeeded ∨ goal.status = .aborted ∨ goal.status = .canceled then .removed else .wrongStatus
  | none => .lost

def flushTurns : List GoalId → TreeMap GoalId (AsyncGoal Goal) → List Flushed
  | [], _ => []
  | goalId :: goalIds, goals => flushed goals goalId :: flushTurns goalIds (goals.erase goalId)

def AfterPublish.marks : AfterPublish → Option GoalId
  | .sendResultResponse goalId | .abortGoal goalId => some goalId
  | _ => none

def Call.marks : Call Goal Result Feedback → Option GoalId
  | .publishStatuses next | .publishSend _ next => next.marks
  | .markGoalFinished goalId _ => some goalId
  | _ => none

structure FlushesSoundly (system : System (ServerState Goal Result Feedback) (ServerLabel Goal Result Feedback)) :
    Prop where
  once : ∀ (state : ServerState Goal Result Feedback), system.Reachable state → state.server.finishedGoals.Nodup
  terminal : ∀ (state : ServerState Goal Result Feedback) (goalId : GoalId), system.Reachable state →
    goalId ∈ state.server.finishedGoals → ∃ status, state.server.statusOf goalId = some status ∧ status.Terminal
  turns : ∀ (state : ServerState Goal Result Feedback) (turn : Flushed), system.Reachable state →
    turn ∈ flushTurns state.server.finishedGoals state.server.goals → turn = .removed
  removes : ∀ (state after : ServerState Goal Result Feedback) (index : Nat) (handle : NewGoalHandle),
    system.Reachable state → state.calls[index]? = some (.getNewGoal handle) →
    system.step state (.advance index .silent) = some after → after.server.finishedGoals = [] ∧
      ∀ goalId : GoalId, after.server.goals[goalId]? =
        if goalId ∈ state.server.finishedGoals then none else state.server.goals[goalId]?

def AsyncActionServer.Ended (server : AsyncActionServer Goal) (goalId : GoalId) : Prop :=
  ∃ status, server.statusOf goalId = some status ∧ status.Terminal

inductive MarkStep (server : AsyncActionServer Goal) (call : Call Goal Result Feedback)
    (next : Advance Goal Result Feedback) : Prop
  | same (steady : ∀ handle, call ≠ .getNewGoal handle) (marks : next.call.marks = call.marks)
      (finished : next.server.finishedGoals = server.finishedGoals)
  | ends {goalId : GoalId} (steady : ∀ handle, call ≠ .getNewGoal handle) (marks : next.call.marks = some goalId)
      (unfinished : ¬ server.Ended goalId) (ended : next.server.Ended goalId)
      (finished : next.server.finishedGoals = server.finishedGoals)
  | marked {goalId : GoalId} (steady : ∀ handle, call ≠ .getNewGoal handle) (marks : call.marks = some goalId)
      (idle : next.call.marks = none) (finished : next.server.finishedGoals = server.finishedGoals ++ [goalId])
  | flushes (idle : next.call.marks = none) (finished : next.server.finishedGoals = [])

theorem setStatus_statusOf {server : AsyncActionServer Goal} {goalId : GoalId} {old : GoalStatusEnum}
    (found : server.statusOf goalId = some old) (new : GoalStatusEnum) :
    (server.setStatus goalId new).statusOf goalId = some new := by
  obtain ⟨entry, present, _⟩ := statusOf_some found
  simp [AsyncActionServer.statusOf, present]

theorem not_ended {server : AsyncActionServer Goal} {goalId : GoalId} {status : GoalStatusEnum}
    (found : server.statusOf goalId = some status) (unfinished : ¬ status.Terminal) : ¬ server.Ended goalId := by
  intro ⟨other, found', terminal⟩
  rw [found] at found'
  cases found'
  exact unfinished terminal

theorem finishGoal_ends {server after : AsyncActionServer Goal} {goalId : GoalId} {status : GoalEndStatus}
    (finished : server.finishGoal goalId status = .ok after) : ¬ server.Ended goalId ∧ after.Ended goalId := by
  obtain ⟨unfinished, rfl⟩ := AsyncActionServer.finishGoal_ok finished
  rcases unfinished with found | found | found
  all_goals
    exact ⟨not_ended found (by simp [GoalStatusEnum.Terminal]),
      _, setStatus_statusOf found _, toStatus_terminal status⟩

theorem abortGoal_ends {server after : AsyncActionServer Goal} {goalId : GoalId}
    (aborted : server.abortGoal goalId = .ok after) : ¬ server.Ended goalId ∧ after.Ended goalId := by
  obtain ⟨unfinished, rfl⟩ := AsyncActionServer.abortGoal_ok aborted
  rcases unfinished with found | found
  all_goals
    exact ⟨not_ended found (by simp [GoalStatusEnum.Terminal]),
      _, setStatus_statusOf found _, by simp [GoalStatusEnum.Terminal]⟩

theorem AfterPublish.call_marks (next : AfterPublish) : (next.call : Call Goal Result Feedback).marks = next.marks := by
  cases next <;> rfl

theorem advance_marks {server : AsyncActionServer Goal} {call : Call Goal Result Feedback}
    {input : Input Goal} {next : Advance Goal Result Feedback}
    (stepped : advance server call input = some next) : MarkStep server call next := by
  cases advance_cases stepped with
  | flushed => exact .flushes rfl rfl
  | received inserted => exact .same (by simp) rfl (AsyncActionServer.insertNewGoal_buffers inserted).finishedGoals
  | accepted accepted => exact .same (by simp) rfl (AsyncActionServer.acceptGoal_buffers accepted).finishedGoals
  | rejected rejected => exact .same (by simp) rfl (AsyncActionServer.rejectGoal_buffers rejected).finishedGoals
  | started started => exact .same (by simp) rfl (AsyncActionServer.startExecutingGoal_buffers started).finishedGoals
  | resultSent finished =>
    have ends := finishGoal_ends finished
    exact .ends (by simp) rfl ends.1 ends.2 (AsyncActionServer.finishGoal_buffers finished).finishedGoals
  | resultUnsent finished => exact .same (by simp) rfl (AsyncActionServer.finishGoal_buffers finished).finishedGoals
  | aborted aborted =>
    have ends := abortGoal_ends aborted
    exact .ends (by simp) rfl ends.1 ends.2 (AsyncActionServer.abortGoal_buffers aborted).finishedGoals
  | marked => exact .marked (by simp) rfl rfl rfl
  | published | unpublished => exact .same (by simp) (AfterPublish.call_marks _) rfl
  | _ => exact .same (by simp) rfl rfl

/-- An ended goal stays ended, until a flush finds it marked. -/
theorem GoalEffect.ended {call : Call Goal Result Feedback} {finishedGoals : List GoalId} {goalId : GoalId}
    {before after : Option (AsyncGoal Goal)} {events : List (Event Result Feedback)}
    (effect : GoalEffect call finishedGoals goalId before after events)
    (unfinished : ∀ handle goalInfo goalInfos all entry,
      call = .cancelSet handle (goalInfo :: goalInfos) all → goalInfo.goalId = goalId → before = some entry →
      entry.status = .accepted ∨ entry.status = .executing ∨ entry.status = .canceling)
    {status : GoalStatusEnum} (found : before.map (·.status) = some status) (terminal : status.Terminal) :
    after.map (·.status) = some status ∨ (goalId ∈ finishedGoals ∧ ∃ handle, call = .getNewGoal handle) := by
  rcases (effect.status unfinished).2 status found terminal with kept | ⟨gone, marked⟩
  · exact .inl kept
  · right
    cases effect with
    | flushed flushing marked => exact ⟨marked, _, flushing⟩
    | rejected unknown =>
      cases found
      simp [unknown, GoalStatusEnum.Terminal] at terminal
    | same _ =>
      rw [found] at gone
      cases gone
    | received | accepted _ _ | started _ | finished _ _ _ | aborted _ | canceling _ _ => cases gone

/-- A goal is marked by one call at most and once, and it has ended by then. -/
structure ServerState.Marking (state : ServerState Goal Result Feedback) : Prop where
  once : state.server.finishedGoals.Nodup
  apart : ClaimedOnce Call.marks state.calls
  unmarked : ∀ call ∈ state.calls, ∀ goalId, call.marks = some goalId → goalId ∉ state.server.finishedGoals
  ended : ∀ goalId, (goalId ∈ state.server.finishedGoals ∨ ∃ call ∈ state.calls, call.marks = some goalId) →
    state.server.Ended goalId

section Marking

variable {state after : ServerState Goal Result Feedback} {index : Nat} {input : Input Goal}
  {call : Call Goal Result Feedback} {next : Advance Goal Result Feedback}

theorem ended_kept {goalId : GoalId} (unfinished : cancelsUnfinished state (.advance index input) = true)
    (found : state.calls[index]? = some call) (moved : advance state.server call input = some next)
    (ended : state.server.Ended goalId)
    (steady : goalId ∉ state.server.finishedGoals ∨ ∀ handle, call ≠ .getNewGoal handle) :
    next.server.Ended goalId := by
  obtain ⟨status, reached, terminal⟩ := ended
  have kept := (advance_effect moved goalId).ended (by
    rintro handle goalInfo goalInfos all entry rfl rfl present
    exact cancelsUnfinished_status unfinished found present) reached terminal
  rcases kept with kept | ⟨marked, handle, flushing⟩
  · exact ⟨status, kept, terminal⟩
  · rcases steady with unmarked | steady
    · exact absurd marked unmarked
    · exact absurd flushing (steady handle)

theorem ServerState.Marking.same (marking : state.Marking) (found : state.calls[index]? = some call)
    (marks : next.call.marks = call.marks) (finished : next.server.finishedGoals = state.server.finishedGoals)
    (kept : ∀ goalId, state.server.Ended goalId → next.server.Ended goalId) :
    ServerState.Marking ⟨next.server, state.calls.set index next.call, state.events ++ next.events⟩ := by
  refine ⟨by rw [finished]; exact marking.once, marking.apart.move found (.inr marks), ?_, ?_⟩
  · intro call' member goalId marks'
    obtain ⟨j, found'⟩ := List.getElem?_of_mem member
    obtain ⟨old, present, marked⟩ := claim_before Call.marks found (.inr marks) found' marks'
    rw [finished]
    exact marking.unmarked old (List.mem_of_getElem? present) goalId marked
  · rintro goalId (marked | ⟨call', member, marks'⟩)
    · rw [finished] at marked
      exact kept goalId (marking.ended goalId (.inl marked))
    · obtain ⟨j, found'⟩ := List.getElem?_of_mem member
      obtain ⟨old, present, marked⟩ := claim_before Call.marks found (.inr marks) found' marks'
      exact kept goalId (marking.ended goalId (.inr ⟨old, List.mem_of_getElem? present, marked⟩))

theorem ServerState.Marking.ends {ending : GoalId} (marking : state.Marking)
    (marks : next.call.marks = some ending) (unfinished : ¬ state.server.Ended ending)
    (ended : next.server.Ended ending) (finished : next.server.finishedGoals = state.server.finishedGoals)
    (kept : ∀ goalId, state.server.Ended goalId → next.server.Ended goalId) :
    ServerState.Marking ⟨next.server, state.calls.set index next.call, state.events ++ next.events⟩ := by
  have fresh : ending ∉ state.server.finishedGoals := fun marked => unfinished (marking.ended ending (.inl marked))
  have unclaimed : ∀ call' ∈ state.calls, call'.marks ≠ some ending :=
    fun call' present claims => unfinished (marking.ended ending (.inr ⟨call', present, claims⟩))
  refine ⟨by rw [finished]; exact marking.once, marking.apart.claim marks unclaimed, ?_, ?_⟩
  · intro call' member goalId marks'
    rw [finished]
    rcases List.mem_or_eq_of_mem_set member with old | rfl
    · exact marking.unmarked call' old goalId marks'
    · rw [marks] at marks'
      cases marks'
      exact fresh
  · rintro goalId (marked | ⟨call', member, marks'⟩)
    · rw [finished] at marked
      exact kept goalId (marking.ended goalId (.inl marked))
    · rcases List.mem_or_eq_of_mem_set member with old | rfl
      · exact kept goalId (marking.ended goalId (.inr ⟨call', old, marks'⟩))
      · rw [marks] at marks'
        cases marks'
        exact ended

theorem ServerState.Marking.marked {marked : GoalId} (marking : state.Marking)
    (found : state.calls[index]? = some call) (marks : call.marks = some marked) (idle : next.call.marks = none)
    (finished : next.server.finishedGoals = state.server.finishedGoals ++ [marked])
    (kept : ∀ goalId, state.server.Ended goalId → next.server.Ended goalId) :
    ServerState.Marking ⟨next.server, state.calls.set index next.call, state.events ++ next.events⟩ := by
  have present := List.mem_of_getElem? found
  have fresh := marking.unmarked call present marked marks
  refine ⟨?_, marking.apart.release idle, ?_, ?_⟩
  · rw [finished]
    refine List.nodup_append.mpr ⟨marking.once, by simp, ?_⟩
    intro goalId inside other only same
    rw [List.mem_singleton.mp only] at same
    exact fresh (same ▸ inside)
  · intro call' member goalId marks' inside
    obtain ⟨j, found'⟩ := List.getElem?_of_mem member
    obtain ⟨apart, old⟩ := claim_elsewhere Call.marks idle found' marks'
    rw [finished] at inside
    rcases List.mem_append.mp inside with inside | inside
    · exact marking.unmarked call' (List.mem_of_getElem? old) goalId marks' inside
    · rw [List.mem_singleton.mp inside] at marks'
      exact apart (marking.apart j index call' call marked old found marks' marks)
  · rintro goalId (inside | ⟨call', member, marks'⟩)
    · rw [finished] at inside
      rcases List.mem_append.mp inside with inside | inside
      · exact kept goalId (marking.ended goalId (.inl inside))
      · rw [List.mem_singleton.mp inside]
        exact kept marked (marking.ended marked (.inr ⟨call, present, marks⟩))
    · obtain ⟨j, found'⟩ := List.getElem?_of_mem member
      have old := (claim_elsewhere Call.marks idle found' marks').2
      exact kept goalId (marking.ended goalId (.inr ⟨call', List.mem_of_getElem? old, marks'⟩))

theorem ServerState.Marking.flushes (marking : state.Marking) (idle : next.call.marks = none)
    (finished : next.server.finishedGoals = [])
    (kept : ∀ goalId, goalId ∉ state.server.finishedGoals → state.server.Ended goalId → next.server.Ended goalId) :
    ServerState.Marking ⟨next.server, state.calls.set index next.call, state.events ++ next.events⟩ := by
  refine ⟨by rw [finished]; exact List.nodup_nil, marking.apart.release idle, ?_, ?_⟩
  · intro call' member goalId marks'
    rw [finished]
    exact List.not_mem_nil
  · rintro goalId (inside | ⟨call', member, marks'⟩)
    · rw [finished] at inside
      cases inside
    · obtain ⟨j, found'⟩ := List.getElem?_of_mem member
      have old := List.mem_of_getElem? (claim_elsewhere Call.marks idle found' marks').2
      exact kept goalId (marking.unmarked call' old goalId marks') (marking.ended goalId (.inr ⟨call', old, marks'⟩))

theorem ServerState.Marking.advance (marking : state.Marking)
    (unfinished : cancelsUnfinished state (.advance index input) = true) (found : state.calls[index]? = some call)
    (moved : advance state.server call input = some next) :
    ServerState.Marking ⟨next.server, state.calls.set index next.call, state.events ++ next.events⟩ := by
  have kept : (∀ handle, call ≠ .getNewGoal handle) → ∀ goalId, state.server.Ended goalId → next.server.Ended goalId :=
    fun steady goalId ended => ended_kept unfinished found moved ended (.inr steady)
  cases advance_marks moved with
  | same steady marks finished => exact marking.same found marks finished (kept steady)
  | ends steady marks unfinished ended finished => exact marking.ends marks unfinished ended finished (kept steady)
  | marked steady marks idle finished => exact marking.marked found marks idle finished (kept steady)
  | flushes idle finished =>
    exact marking.flushes idle finished fun goalId unmarked ended =>
      ended_kept unfinished found moved ended (.inl unmarked)

theorem ServerState.Marking.start {operation : Operation Result Feedback} (marking : state.Marking) :
    ServerState.Marking { state with calls := state.calls ++ [operation.call] } := by
  have idle : (operation.call : Call Goal Result Feedback).marks = none := by cases operation <;> rfl
  refine ⟨marking.once, marking.apart.concat idle, ?_, ?_⟩
  · intro call member goalId marks
    obtain ⟨j, found⟩ := List.getElem?_of_mem member
    exact marking.unmarked call (List.mem_of_getElem? (claim_concat Call.marks idle found marks)) goalId marks
  · rintro goalId (inside | ⟨call, member, marks⟩)
    · exact marking.ended goalId (.inl inside)
    · obtain ⟨j, found⟩ := List.getElem?_of_mem member
      exact marking.ended goalId (.inr ⟨call, List.mem_of_getElem? (claim_concat Call.marks idle found marks), marks⟩)

theorem ServerState.Marking.drop (marking : state.Marking) (found : state.calls[index]? = some call)
    (suspended : call.Suspended = true) :
    ServerState.Marking { state with calls := state.calls.set index .dropped } := by
  have idle : call.marks = none := by
    cases call with
    | receiveNewGoal | resultWait | receiveCancelRequest | cancelRespond => rfl
    | _ => cases suspended
  let next : Advance Goal Result Feedback := ⟨state.server, .dropped, []⟩
  have dropped := marking.same found (show next.call.marks = call.marks from idle.symm) rfl fun _ ended => ended
  simpa [next] using dropped

theorem ServerState.Marking.step {label : ServerLabel Goal Result Feedback} (marking : state.Marking)
    (unfinished : cancelsUnfinished state label = true) (stepped : state.step label = some after) : after.Marking := by
  rcases ServerState.step_cases stepped with
    ⟨operation, rfl, _, rfl⟩ | ⟨index, input, call, next, rfl, found, moved, rfl⟩ |
    ⟨index, call, rfl, found, suspended, rfl⟩
  · exact marking.start
  · exact marking.advance unfinished found moved
  · exact marking.drop found suspended

end Marking

theorem flushTurns_removed {goalIds : List GoalId} {goals : TreeMap GoalId (AsyncGoal Goal)} (once : goalIds.Nodup)
    (terminal : ∀ goalId ∈ goalIds, ∃ goal, goals[goalId]? = some goal ∧ goal.status.Terminal) :
    ∀ turn ∈ flushTurns goalIds goals, turn = .removed := by
  induction goalIds generalizing goals with
  | nil =>
    intro turn member
    cases member
  | cons goalId goalIds ih =>
    obtain ⟨fresh, others⟩ := List.nodup_cons.mp once
    intro turn member
    rcases List.mem_cons.mp member with rfl | later
    · obtain ⟨goal, found, done⟩ := terminal goalId List.mem_cons_self
      rw [GoalStatusEnum.Terminal] at done
      simp [flushed, found, done]
    · refine ih others ?_ turn later
      intro other inside
      have apart : goalId ≠ other := fun same => fresh (same ▸ inside)
      obtain ⟨goal, found, done⟩ := terminal other (List.mem_cons_of_mem _ inside)
      exact ⟨goal, by rw [TreeMap.getElem?_erase]; simpa [apart] using found, done⟩

theorem flushing_is_sound (Goal Result Feedback : Type) :
    FlushesSoundly ((actionServer Goal Result Feedback).restrict fun state label =>
      cancelsUnfinished state label = true) := by
  have marking : ∀ state, ((actionServer Goal Result Feedback).restrict fun state label =>
      cancelsUnfinished state label = true).Reachable state → state.Marking := by
    intro state reachable
    refine reachable.invariant ServerState.Marking ?_ ?_
    · refine ⟨List.nodup_nil, ?_, ?_, ?_⟩
      · intro i j call call' goalId found
        cases found
      · intro call member
        cases member
      · rintro goalId (inside | ⟨call, member, _⟩)
        · cases inside
        · cases member
    · intro before label after held stepped
      obtain ⟨unfinished, moved⟩ := System.restrict_step.mp stepped
      exact held.step unfinished moved
  refine ⟨?_, ?_, ?_, ?_⟩
  · intro state reachable
    exact (marking state reachable).once
  · intro state goalId reachable inside
    exact (marking state reachable).ended goalId (.inl inside)
  · intro state turn reachable member
    refine flushTurns_removed (marking state reachable).once ?_ turn member
    intro goalId inside
    obtain ⟨status, found, terminal⟩ := (marking state reachable).ended goalId (.inl inside)
    obtain ⟨goal, present, rfl⟩ := statusOf_some found
    exact ⟨goal, present, terminal⟩
  · intro state after index handle reachable found stepped
    have moved := (System.restrict_step.mp stepped).2
    simp only [actionServer, ServerState.step, found, Option.bind_some, advance, Option.map_some,
      Option.some.injEq] at moved
    subst moved
    exact ⟨rfl, state.server.flushFinisehdGoals_goals⟩

end Ros2Client
