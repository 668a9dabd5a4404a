import Mathlib.Data.List.Nodup
import Ros2Client.Action.Network

open Transition

namespace Ros2Client

variable {Goal Result Feedback : Type}

abbrev NetworkPast (Goal Result Feedback : Type) :=
  List (ActionNetwork Goal Result Feedback × NetworkLabel Goal Result Feedback)

def serverPast (past : NetworkPast Goal Result Feedback) : ServerPast Goal Result Feedback :=
  partOfPast (·.server) ActionNetwork.serverLabel past

/-- The items at the places of a list. -/
theorem nodup_places {α β : Type} {items : List α} {key : α → β} (distinct : (items.map key).Nodup) {places : List Nat}
    (once : places.Nodup) : ((places.filterMap (items[·]?)).map key).Nodup := by
  rw [List.map_filterMap]
  refine once.filterMap ?_
  intro first second found atFirst atSecond
  have place : ∀ place : Nat, found ∈ (items[place]?).map key → (items.map key)[place]? = some found := by
    intro place member
    rw [List.getElem?_map]
    exact member
  have same : (items.map key)[first]? = (items.map key)[second]? := by
    rw [place first atFirst, place second atSecond]
  have inside : first < (items.map key).length := (List.getElem?_eq_some_iff.mp (place first atFirst)).1
  exact (List.getElem?_inj inside distinct).mp same

theorem filterMap_places_append {α : Type} (items more : List α) {places : List Nat}
    (inside : ∀ place ∈ places, place < items.length) :
    places.filterMap ((items ++ more)[·]?) = places.filterMap (items[·]?) :=
  List.filterMap_congr fun place member => List.getElem?_append_left (inside place member)

/-- What the server has taken from the clients is what they have sent. -/
structure ActionNetwork.Delivers (network : ActionNetwork Goal Result Feedback)
    (history : ServerPast Goal Result Feedback) : Prop where
  goals : goalRequests history = network.takenGoals.filterMap (network.goals[·]?)
  places : ∀ place ∈ network.takenGoals, place < network.goals.length
  once : network.takenGoals.Nodup
  reqIds : (network.goals.map (·.1)).Nodup
  goalIds : (network.goals.map (·.2.goalId)).Nodup
  results : ∀ goalId, ∀ reqId ∈ requestsTaken goalId history, (reqId, ⟨goalId⟩) ∈ network.results
  resultIds : (network.results.map (·.1)).Nodup
  cancels : ∀ reqId, CancelTaken history reqId → reqId ∈ network.cancels.map (·.1)

theorem ActionNetwork.Delivers.distinct {network : ActionNetwork Goal Result Feedback}
    {history : ServerPast Goal Result Feedback} (delivers : network.Delivers history) :
    (requestedGoals history).Nodup := by
  rw [requestedGoals, delivers.goals]
  exact nodup_places delivers.goalIds delivers.once

theorem ActionNetwork.Delivers.sent {network : ActionNetwork Goal Result Feedback}
    {history : ServerPast Goal Result Feedback} (delivers : network.Delivers history) {handle : NewGoalHandle}
    (arrived : Arrived history handle) : ∃ goal, (handle.reqId, ⟨handle.goalId, goal⟩) ∈ network.goals := by
  obtain ⟨goal, requested⟩ := arrived
  rw [delivers.goals] at requested
  obtain ⟨place, _, found⟩ := List.mem_filterMap.mp requested
  exact ⟨goal, List.mem_of_getElem? found⟩

theorem CancelTaken.earlier {history : ServerPast Goal Result Feedback} {reqId : RmwRequestId}
    {state : ServerState Goal Result Feedback} {label : ServerLabel Goal Result Feedback}
    (taken : CancelTaken ((state, label) :: history) reqId)
    (quiet : ∀ call goalInfo, label ≠ .advance call (.cancelRequest reqId goalInfo)) : CancelTaken history reqId := by
  obtain ⟨before, index, goalInfo, member⟩ := taken
  rcases List.mem_cons.mp member with new | old
  · cases new
    exact absurd rfl (quiet index goalInfo)
  · exact ⟨before, index, goalInfo, old⟩

/-- A step of the server that takes no request. -/
theorem ActionNetwork.Delivers.quiet {before : ActionNetwork Goal Result Feedback}
    {history : ServerPast Goal Result Feedback} (delivers : before.Delivers history)
    {entry : ServerState Goal Result Feedback × ServerLabel Goal Result Feedback}
    (quiet : ∀ call reqId request, entry.2 ≠ .advance call (.goalRequest reqId request))
    (quietResult : ∀ call reqId goalId, entry.2 ≠ .advance call (.resultRequest reqId goalId))
    (quietCancel : ∀ call reqId goalInfo, entry.2 ≠ .advance call (.cancelRequest reqId goalInfo)) :
    before.Delivers (entry :: history) := by
  obtain ⟨state, label⟩ := entry
  have none : goalRequests ((state, label) :: history) = goalRequests history := by
    apply List.filterMap_cons_none
    split
    · rename_i call reqId request same
      cases same
      exact absurd rfl (quiet call reqId request)
    · rfl
  refine { delivers with goals := none.trans delivers.goals, results := ?_, cancels := ?_ }
  · intro goalId reqId taken
    rw [requestsTaken_quiet fun call reqId' => quietResult call reqId' goalId] at taken
    exact delivers.results goalId reqId taken
  · intro reqId taken
    exact delivers.cancels reqId (taken.earlier fun call goalInfo => quietCancel call reqId goalInfo)

section Steps

variable {before after : ActionNetwork Goal Result Feedback} {past : NetworkPast Goal Result Feedback}
  {label : NetworkLabel Goal Result Feedback}

theorem serverPast_inside {moved : ServerLabel Goal Result Feedback} (carries : before.serverLabel label = some moved) :
    serverPast ((before, label) :: past) = (before.server, moved) :: serverPast past :=
  partOfPast_some carries past

theorem serverPast_outside (carries : before.serverLabel label = none) :
    serverPast ((before, label) :: past) = serverPast past :=
  partOfPast_none carries past

theorem ActionNetwork.Delivers.step (delivers : before.Delivers (serverPast past))
    (stepped : before.step label = some after) : after.Delivers (serverPast ((before, label) :: past)) := by
  cases ActionNetwork.step_cases stepped with
  | created | disturbed _ | arrived _ _ | received _ _ =>
    rw [serverPast_outside rfl]
    exact { delivers with }
  | cancelSent _ =>
    rw [serverPast_outside rfl]
    refine { delivers with cancels := ?_ }
    intro reqId taken
    rw [List.map_append]
    exact List.mem_append_left _ (delivers.cancels reqId taken)
  | @goalSent reqId goalId goal fresh unused =>
    rw [serverPast_outside rfl]
    refine { delivers with goals := ?_, places := ?_, reqIds := ?_, goalIds := ?_ }
    · exact delivers.goals.trans (filterMap_places_append _ _ delivers.places).symm
    · intro place taken
      have inside := delivers.places place taken
      rw [List.length_append]
      omega
    · rw [List.map_append, List.nodup_append_comm]
      exact List.nodup_cons.mpr ⟨fresh, delivers.reqIds⟩
    · rw [List.map_append, List.nodup_append_comm]
      exact List.nodup_cons.mpr ⟨unused, delivers.goalIds⟩
  | @resultRequested reqId goalId fresh =>
    rw [serverPast_outside rfl]
    refine { delivers with results := ?_, resultIds := ?_ }
    · intro goalId' reqId' taken
      exact List.mem_append_left _ (delivers.results goalId' reqId' taken)
    · rw [List.map_append, List.nodup_append_comm]
      exact List.nodup_cons.mpr ⟨fresh, delivers.resultIds⟩
  | inside quiet quietResult quietCancel carries _ =>
    rw [serverPast_inside carries]
    exact { delivers.quiet quiet quietResult quietCancel with }
  | @goalTaken call place reqId request server untaken found _ =>
    have carries : before.serverLabel (.takeGoal call place) = some (.advance call (.goalRequest reqId request)) := by
      simp [ActionNetwork.serverLabel, found]
    rw [serverPast_inside carries]
    have inside := (List.getElem?_eq_some_iff.mp found).1
    have once := List.nodup_cons.mpr ⟨untaken, delivers.once⟩
    refine { delivers with goals := ?_, places := ?_, once := once, results := ?_, cancels := ?_ }
    · rw [List.filterMap_cons_some found, ← delivers.goals]
      rfl
    · intro place' member
      rcases List.mem_cons.mp member with rfl | earlier
      · exact inside
      · exact delivers.places place' earlier
    · intro goalId reqId' taken
      rw [requestsTaken_quiet (by simp)] at taken
      exact delivers.results goalId reqId' taken
    · intro reqId' taken
      exact delivers.cancels reqId' (taken.earlier (by simp))
  | @resultTaken call place reqId request server untaken found _ =>
    have carries :
        before.serverLabel (.takeResult call place) = some (.advance call (.resultRequest reqId request.goalId)) := by
      simp [ActionNetwork.serverLabel, found]
    rw [serverPast_inside carries]
    refine { delivers with goals := delivers.goals, results := ?_, cancels := ?_ }
    · intro goalId reqId' taken
      by_cases own : request.goalId = goalId
      · subst own
        rw [requestsTaken_take] at taken
        rcases List.mem_cons.mp taken with rfl | earlier
        · exact List.mem_of_getElem? found
        · exact delivers.results _ reqId' earlier
      · rw [requestsTaken_quiet] at taken
        · exact delivers.results goalId reqId' taken
        · intro index reqId'' same
          cases same
          exact own rfl
    · intro reqId' taken
      exact delivers.cancels reqId' (taken.earlier (by simp))
  | @cancelTaken call place reqId request server untaken found _ =>
    have carries :
        before.serverLabel (.takeCancel call place) = some (.advance call (.cancelRequest reqId request.goalInfo)) := by
      simp [ActionNetwork.serverLabel, found]
    rw [serverPast_inside carries]
    refine { delivers with goals := delivers.goals, results := ?_, cancels := ?_ }
    · intro goalId reqId' taken
      rw [requestsTaken_quiet (by simp)] at taken
      exact delivers.results goalId reqId' taken
    · intro reqId' taken
      by_cases own : reqId' = reqId
      · subst own
        exact List.mem_map.mpr ⟨_, List.mem_of_getElem? found, rfl⟩
      · refine delivers.cancels reqId' (taken.earlier ?_)
        intro index goalInfo same
        cases same
        exact own rfl

theorem delivers_reachable {network : ActionNetwork Goal Result Feedback}
    (reachable : (actionNetwork Goal Result Feedback).traced.Reachable (network, past)) :
    network.Delivers (serverPast past) := by
  refine reachable.traced_invariant (fun network past => network.Delivers (serverPast past)) ?_ ?_
  · exact ⟨rfl, by simp [actionNetwork, ActionNetwork.initial], .nil, .nil, .nil,
      by simp [serverPast, partOfPast, requestsTaken], .nil, by simp [serverPast, partOfPast, CancelTaken]⟩
  · intro before label after past _ held stepped
    exact held.step stepped

end Steps

/-- Everything that a client's readers have was written by the server. -/
structure ActionClient.Hears (client : ActionClient Result Feedback) (events : List (Event Result Feedback)) :
    Prop where
  goalResponses : client.goalResponses.Holds fun (reqId, response) => .goalResponse reqId response ∈ events
  cancelResponses : client.cancelResponses.Holds fun (reqId, response) => .cancelResponse reqId response ∈ events
  results : client.results.Holds fun (reqId, response) => ∃ goalId, .resultResponse goalId reqId response ∈ events
  feedback : client.feedback.Holds fun message => .feedback message ∈ events
  statuses : client.statuses.Holds fun statusList => .statuses statusList ∈ events

/-- The message of the server that a reply comes from. -/
def Reply.From (events : List (Event Result Feedback)) : Reply Result Feedback → Prop
  | .goalResponse reqId response => .goalResponse reqId response ∈ events
  | .cancelResponse reqId response => .cancelResponse reqId response ∈ events
  | .result reqId ended given => ∃ goalId, .resultResponse goalId reqId ⟨ended, given⟩ ∈ events
  | .feedback goalId given => .feedback ⟨goalId, given⟩ ∈ events
  | .status statusList => .statuses statusList ∈ events
  | .statusOf goalId reported =>
    ∃ statusList, .statuses statusList ∈ events ∧ reported ∈ statusList ∧ reported.goalInfo.goalId = goalId

section Hearing

variable {client rest : ActionClient Result Feedback} {events more : List (Event Result Feedback)}

theorem ActionClient.Hears.mono (hears : client.Hears events) (kept : ∀ event ∈ events, event ∈ more) :
    client.Hears more where
  goalResponses := hears.goalResponses.mono fun _ => kept _
  cancelResponses := hears.cancelResponses.mono fun _ => kept _
  results := hears.results.mono fun _ ⟨goalId, written⟩ => ⟨goalId, kept _ written⟩
  feedback := hears.feedback.mono fun _ => kept _
  statuses := hears.statuses.mono fun _ => kept _

theorem Reply.From.mono {reply : Reply Result Feedback} (origin : reply.From events)
    (kept : ∀ event ∈ events, event ∈ more) : reply.From more := by
  cases reply with
  | goalResponse reqId response => exact kept (.goalResponse reqId response) origin
  | cancelResponse reqId response => exact kept (.cancelResponse reqId response) origin
  | feedback goalId given => exact kept (.feedback ⟨goalId, given⟩) origin
  | status statusList => exact kept (.statuses statusList) origin
  | result =>
    obtain ⟨goalId, written⟩ := origin
    exact ⟨goalId, kept _ written⟩
  | statusOf =>
    obtain ⟨statusList, written, listed⟩ := origin
    exact ⟨statusList, kept _ written, listed⟩

theorem ActionClient.Hears.arrive (hears : client.Hears events) {event : Event Result Feedback}
    (written : event ∈ events) : (client.arrive event).Hears events := by
  cases event with
  | goalAccepted => exact hears
  | goalResponse => exact { hears with goalResponses := hears.goalResponses.arrive written }
  | cancelResponse => exact { hears with cancelResponses := hears.cancelResponses.arrive written }
  | resultResponse goalId => exact { hears with results := hears.results.arrive ⟨goalId, written⟩ }
  | feedback => exact { hears with feedback := hears.feedback.arrive written }
  | statuses => exact { hears with statuses := hears.statuses.arrive written }

theorem ActionClient.Hears.disturb (hears : client.Hears events) (error : ReadError) (call : ClientRead) :
    (client.disturb error call).Hears events := by
  cases call with
  | goalResponse => exact { hears with goalResponses := hears.goalResponses.disturb error }
  | cancelResponse => exact { hears with cancelResponses := hears.cancelResponses.disturb error }
  | result => exact { hears with results := hears.results.disturb error }
  | feedback => exact { hears with feedback := hears.feedback.disturb error }
  | status | statusOf => exact { hears with statuses := hears.statuses.disturb error }

theorem ownResponse_some {Response : Type} {reqId : RmwRequestId} {item : RmwRequestId × Response} {response : Response}
    (own : ActionClient.ownResponse reqId item = some response) : item = (reqId, response) := by
  obtain ⟨incoming, other⟩ := item
  simp only [ActionClient.ownResponse, Option.ite_none_right_eq_some, Option.some.injEq] at own
  rw [own.1, own.2]

theorem ownFeedback_some {goalId : GoalId} {message : FeedbackMessage Feedback} {given : Feedback}
    (own : ActionClient.ownFeedback goalId message = some given) : message = ⟨goalId, given⟩ := by
  obtain ⟨other, feedback⟩ := message
  simp only [ActionClient.ownFeedback, Option.ite_none_right_eq_some, Option.some.injEq] at own
  rw [own.1, own.2]

/-- A turn takes an item away, and replies with one that was written. -/
theorem ActionClient.Hears.turn (hears : client.Hears events) {call : ClientRead}
    {outcome : Except ReadError (Option (Reply Result Feedback))} (turned : client.turn call = some (outcome, rest)) :
    rest.Hears events ∧ ∀ reply, outcome.toOption.join = some reply → reply.From events := by
  cases call with
  | goalResponse reqId =>
    dsimp only [ActionClient.turn] at turned
    obtain ⟨left, held, rfl, origin⟩ := hears.goalResponses.turnTo turned
    refine ⟨{ hears with goalResponses := held }, ?_⟩
    intro reply found
    obtain ⟨item, response, written, own, rfl⟩ := origin reply found
    cases ownResponse_some own
    exact written
  | cancelResponse reqId =>
    dsimp only [ActionClient.turn] at turned
    obtain ⟨left, held, rfl, origin⟩ := hears.cancelResponses.turnTo turned
    refine ⟨{ hears with cancelResponses := held }, ?_⟩
    intro reply found
    obtain ⟨item, response, written, own, rfl⟩ := origin reply found
    cases ownResponse_some own
    exact written
  | result reqId =>
    dsimp only [ActionClient.turn] at turned
    obtain ⟨left, held, rfl, origin⟩ := hears.results.turnTo turned
    refine ⟨{ hears with results := held }, ?_⟩
    intro reply found
    obtain ⟨item, response, written, own, rfl⟩ := origin reply found
    cases ownResponse_some own
    exact written
  | feedback goalId =>
    dsimp only [ActionClient.turn] at turned
    obtain ⟨left, held, rfl, origin⟩ := hears.feedback.turnTo turned
    refine ⟨{ hears with feedback := held }, ?_⟩
    intro reply found
    obtain ⟨item, given, written, own, rfl⟩ := origin reply found
    cases ownFeedback_some own
    exact written
  | status =>
    dsimp only [ActionClient.turn] at turned
    obtain ⟨left, held, rfl, origin⟩ := hears.statuses.turnTo turned
    refine ⟨{ hears with statuses := held }, ?_⟩
    intro reply found
    obtain ⟨item, statusList, written, own, rfl⟩ := origin reply found
    cases own
    exact written
  | statusOf goalId =>
    dsimp only [ActionClient.turn] at turned
    obtain ⟨left, held, rfl, origin⟩ := hears.statuses.turnTo turned
    refine ⟨{ hears with statuses := held }, ?_⟩
    intro reply found
    obtain ⟨statusList, reported, written, own, rfl⟩ := origin reply found
    exact ⟨statusList, written, List.mem_of_find?_eq_some own, by simpa using List.find?_some own⟩

end Hearing

section Replies

variable {before after network : ActionNetwork Goal Result Feedback} {past : NetworkPast Goal Result Feedback}
  {label : NetworkLabel Goal Result Feedback}

structure ActionNetwork.Replies (network : ActionNetwork Goal Result Feedback) : Prop where
  hears : ∀ client ∈ network.clients, client.Hears network.server.events
  returned : ∀ index reply, (index, reply) ∈ network.returned → reply.From network.server.events

theorem ActionNetwork.Replies.server (replies : before.Replies) {server : ServerState Goal Result Feedback}
    {moved : ServerLabel Goal Result Feedback} (stepped : before.server.step moved = some server) :
    ActionNetwork.Replies { before with server := server } where
  hears client member := (replies.hears client member).mono fun _ => step_events stepped
  returned index reply member := (replies.returned index reply member).mono fun _ => step_events stepped

theorem ActionNetwork.Replies.step (replies : before.Replies) (stepped : before.step label = some after) :
    after.Replies := by
  cases ActionNetwork.step_cases stepped with
  | created =>
    refine ⟨?_, replies.returned⟩
    intro client member
    rcases List.mem_append.mp member with old | new
    · exact replies.hears client old
    · rw [List.mem_singleton.mp new]
      exact ⟨.nil, .nil, .nil, .nil, .nil⟩
  | goalSent _ _ | resultRequested _ | cancelSent _ => exact ⟨replies.hears, replies.returned⟩
  | inside _ _ _ _ inner => exact replies.server inner
  | goalTaken _ _ inner | resultTaken _ _ inner | cancelTaken _ _ inner =>
    exact ⟨(replies.server inner).hears, (replies.server inner).returned⟩
  | arrived found written =>
    have heard := (replies.hears _ (List.mem_of_getElem? found)).arrive written
    exact ⟨Transition.forall_set replies.hears heard, replies.returned⟩
  | disturbed found =>
    have heard := (replies.hears _ (List.mem_of_getElem? found)).disturb
    exact ⟨Transition.forall_set replies.hears (heard _ _), replies.returned⟩
  | received found turned =>
    obtain ⟨heard, origin⟩ := (replies.hears _ (List.mem_of_getElem? found)).turn turned
    refine ⟨Transition.forall_set replies.hears heard, ?_⟩
    intro index reply member
    rcases List.mem_append.mp member with old | new
    · exact replies.returned index reply old
    · obtain ⟨reply', found', same⟩ := Option.map_eq_some_iff.mp (Option.mem_toList.mp new)
      cases same
      exact origin reply found'

theorem replies_reachable (reachable : (actionNetwork Goal Result Feedback).traced.Reachable (network, past)) :
    network.Replies := by
  refine reachable.of_traced.invariant ActionNetwork.Replies ?_ ?_
  · refine ⟨?_, ?_⟩
    · intro client member
      cases member
    · intro index reply member
      cases member
  · intro before label after held stepped
    exact held.step stepped

end Replies

end Ros2Client
