import Ros2Client.Action.Client
import Ros2Client.Action.ResultTruth

open Transition

namespace Ros2Client

/-- A receiving call of an `ActionClient`, or one poll of a stream of it. -/
inductive ClientRead
  | goalResponse (requestId : RmwRequestId)
  | cancelResponse (requestId : RmwRequestId)
  | result (requestId : RmwRequestId)
  | feedback (goalId : GoalId)
  | status
  | statusOf (goalId : GoalId)
deriving DecidableEq

inductive Reply (Result Feedback : Type)
  | goalResponse (requestId : RmwRequestId) (response : SendGoalResponse)
  | cancelResponse (requestId : RmwRequestId) (response : CancelGoalResponse)
  | result (requestId : RmwRequestId) (status : GoalStatusEnum) (result : Result)
  | feedback (goalId : GoalId) (feedback : Feedback)
  | status (statusList : List GoalStatus)
  | statusOf (goalId : GoalId) (status : GoalStatus)
deriving DecidableEq

variable {Goal Result Feedback : Type}

namespace ActionClient

def turn (client : ActionClient Result Feedback) :
    ClientRead → Option (Except ReadError (Option (Reply Result Feedback)) × ActionClient Result Feedback)
  | .goalResponse requestId => client.goalResponses.turnTo (ownResponse requestId) (.goalResponse requestId)
      fun rest => { client with goalResponses := rest }
  | .cancelResponse requestId => client.cancelResponses.turnTo (ownResponse requestId) (.cancelResponse requestId)
      fun rest => { client with cancelResponses := rest }
  | .result requestId => client.results.turnTo (ownResponse requestId)
      (fun response => .result requestId response.status response.result) fun rest => { client with results := rest }
  | .feedback goalId => client.feedback.turnTo (ownFeedback goalId) (.feedback goalId)
      fun rest => { client with feedback := rest }
  | .status => client.statuses.turnTo some .status fun rest => { client with statuses := rest }
  | .statusOf goalId => client.statuses.turnTo (ownStatus goalId) (.statusOf goalId)
      fun rest => { client with statuses := rest }

def receive (client : ActionClient Result Feedback) :
    ClientRead → Except ReadError (Option (Reply Result Feedback)) × ActionClient Result Feedback
  | .goalResponse requestId =>
    let (outcome, rest) := client.receiveGoalResponse requestId
    (outcome.map (·.map (.goalResponse requestId)), rest)
  | .cancelResponse requestId =>
    let (outcome, rest) := client.receiveCancelResponse requestId
    (outcome.map (·.map (.cancelResponse requestId)), rest)
  | .result requestId =>
    let (outcome, rest) := client.receiveResult requestId
    (outcome.map (·.map fun (status, result) => .result requestId status result), rest)
  | .feedback goalId =>
    let (outcome, rest) := client.receiveFeedback goalId
    (outcome.map (·.map (.feedback goalId)), rest)
  | .status =>
    let (outcome, rest) := client.receiveStatus
    (outcome.map (·.map .status), rest)
  | .statusOf goalId =>
    let (outcome, rest) := client.statusStream goalId
    (outcome.map (·.map (.statusOf goalId)), rest)

def pending (client : ActionClient Result Feedback) : ClientRead → Nat
  | .goalResponse _ => client.goalResponses.length
  | .cancelResponse _ => client.cancelResponses.length
  | .result _ => client.results.length
  | .feedback _ => client.feedback.length
  | .status | .statusOf _ => client.statuses.length

theorem receive_result (client : ActionClient Result Feedback) (requestId : RmwRequestId) :
    client.receive (.result requestId) = client.results.receiveTo (ownResponse requestId)
      (fun response => .result requestId response.status response.result)
      fun rest => { client with results := rest } := by
  simp only [receive, receiveResult, Reader.receiveTo]
  cases (Reader.receive (ownResponse requestId) client.results).1 with
  | error => rfl
  | ok outcome => cases outcome <;> rfl

theorem receive_turn_of {Item Wanted : Type} {wanted : Item → Option Wanted} {reply : Wanted → Reply Result Feedback}
    {call : ClientRead}
    (put : Reader Item → ActionClient Result Feedback)
    (turns : ∀ reader, (put reader).turn call = Reader.turnTo wanted reply put reader)
    (receives : ∀ reader, (put reader).receive call = Reader.receiveTo wanted reply put reader)
    (counts : ∀ reader, (put reader).pending call = reader.length) (reader : Reader Item) :
    ((put reader).turn call = none ∧ (put reader).receive call = (.ok none, put reader)) ∨
    (∃ rest, (put reader).turn call = some (.ok none, rest) ∧ (put reader).receive call = rest.receive call ∧
      rest.pending call < (put reader).pending call) ∨
    (put reader).turn call = some ((put reader).receive call) := by
  rcases Reader.receiveTo_turn wanted reply put reader with whole | ⟨rest, turned, whole, less⟩ | whole
  · left
    rwa [turns, receives]
  · refine .inr (.inl ⟨put rest, ?_, ?_, ?_⟩)
    · rwa [turns]
    · rwa [receives, receives]
    · rwa [counts, counts]
  · right
    right
    rwa [turns, receives]

/-- A receiving call does one turn after the other, until it has a reply, fails or finds the reader empty. -/
theorem receive_turn (client : ActionClient Result Feedback) (call : ClientRead) :
    (client.turn call = none ∧ client.receive call = (.ok none, client)) ∨
    (∃ rest, client.turn call = some (.ok none, rest) ∧ client.receive call = rest.receive call ∧
      rest.pending call < client.pending call) ∨
    client.turn call = some (client.receive call) := by
  cases call with
  | goalResponse requestId =>
    exact receive_turn_of (fun rest => { client with goalResponses := rest }) (fun _ => rfl) (fun _ => rfl)
      (fun _ => rfl) client.goalResponses
  | cancelResponse requestId =>
    exact receive_turn_of (fun rest => { client with cancelResponses := rest }) (fun _ => rfl) (fun _ => rfl)
      (fun _ => rfl) client.cancelResponses
  | result requestId =>
    exact receive_turn_of (fun rest => { client with results := rest }) (fun _ => rfl)
      (fun _ => receive_result _ requestId) (fun _ => rfl) client.results
  | feedback goalId =>
    exact receive_turn_of (fun rest => { client with feedback := rest }) (fun _ => rfl) (fun _ => rfl)
      (fun _ => rfl) client.feedback
  | status =>
    exact receive_turn_of (fun rest => { client with statuses := rest }) (fun _ => rfl) (fun _ => rfl)
      (fun _ => rfl) client.statuses
  | statusOf goalId =>
    exact receive_turn_of (fun rest => { client with statuses := rest }) (fun _ => rfl) (fun _ => rfl)
      (fun _ => rfl) client.statuses

def arrive (client : ActionClient Result Feedback) : Event Result Feedback → ActionClient Result Feedback
  | .goalAccepted _ => client
  | .goalResponse reqId response =>
    { client with goalResponses := client.goalResponses ++ [.ok (reqId, response)] }
  | .cancelResponse reqId response =>
    { client with cancelResponses := client.cancelResponses ++ [.ok (reqId, response)] }
  | .resultResponse _ reqId response => { client with results := client.results ++ [.ok (reqId, response)] }
  | .feedback message => { client with feedback := client.feedback ++ [.ok message] }
  | .statuses statusList => { client with statuses := client.statuses ++ [.ok statusList] }

/-- The next read of this kind of call fails, after what has come before. -/
def disturb (client : ActionClient Result Feedback) (error : ReadError) : ClientRead → ActionClient Result Feedback
  | .goalResponse _ => { client with goalResponses := client.goalResponses ++ [.error error] }
  | .cancelResponse _ => { client with cancelResponses := client.cancelResponses ++ [.error error] }
  | .result _ => { client with results := client.results ++ [.error error] }
  | .feedback _ => { client with feedback := client.feedback ++ [.error error] }
  | .status | .statusOf _ => { client with statuses := client.statuses ++ [.error error] }

end ActionClient

/-- One action server and its clients. The server takes each request at most once, in any order; a message
    of the server comes to any client, in any order, again or never. -/
structure ActionNetwork (Goal Result Feedback : Type) where
  server : ServerState Goal Result Feedback
  clients : List (ActionClient Result Feedback)
  goals : List (RmwRequestId × SendGoalRequest Goal)
  results : List (RmwRequestId × GetResultRequest)
  cancels : List (RmwRequestId × CancelGoalRequest)
  takenGoals : List Nat
  takenResults : List Nat
  takenCancels : List Nat
  returned : List (Nat × Reply Result Feedback)

inductive NetworkLabel (Goal Result Feedback : Type)
  | createClient
  | sendGoal (reqId : RmwRequestId) (goalId : GoalId) (goal : Goal)
  | requestResult (reqId : RmwRequestId) (goalId : GoalId)
  | cancelGoalRaw (reqId : RmwRequestId) (goalId : GoalId) (timestamp : Time)
  | start (operation : Operation Result Feedback)
  | advance (call : Nat) (input : Input Goal)
  | drop (call : Nat)
  | takeGoal (call place : Nat)
  | takeResult (call place : Nat)
  | takeCancel (call place : Nat)
  | arrive (client place : Nat)
  | disturb (client : Nat) (error : ReadError) (call : ClientRead)
  | receive (client : Nat) (call : ClientRead)

def Input.isLocal : Input Goal → Bool
  | .goalRequest _ _ | .resultRequest _ _ | .cancelRequest _ _ => false
  | _ => true

namespace ActionNetwork

def initial : ActionNetwork Goal Result Feedback := ⟨⟨.new, [], []⟩, [], [], [], [], [], [], [], []⟩

def serverLabel (network : ActionNetwork Goal Result Feedback) :
    NetworkLabel Goal Result Feedback → Option (ServerLabel Goal Result Feedback)
  | .start operation => some (.start operation)
  | .advance call input => if input.isLocal then some (.advance call input) else none
  | .drop call => some (.drop call)
  | .takeGoal call place => network.goals[place]?.map fun (reqId, request) => .advance call (.goalRequest reqId request)
  | .takeResult call place =>
    network.results[place]?.map fun (reqId, request) => .advance call (.resultRequest reqId request.goalId)
  | .takeCancel call place =>
    network.cancels[place]?.map fun (reqId, request) => .advance call (.cancelRequest reqId request.goalInfo)
  | _ => none

def stepServer (network : ActionNetwork Goal Result Feedback) (label : NetworkLabel Goal Result Feedback) :
    Option (ActionNetwork Goal Result Feedback) :=
  (network.serverLabel label).bind fun label =>
    (network.server.step label).map fun server => { network with server := server }

def step (network : ActionNetwork Goal Result Feedback) :
    NetworkLabel Goal Result Feedback → Option (ActionNetwork Goal Result Feedback)
  | .createClient => some { network with clients := network.clients ++ [.new] }
  -- Request ids are not used twice, and neither are goal ids, which `send_goal` makes up at random.
  | .sendGoal reqId goalId goal =>
    if reqId ∉ network.goals.map (·.1) ∧ goalId ∉ network.goals.map (·.2.goalId) then
      some { network with goals := network.goals ++ [(reqId, ActionClient.sendGoal goalId goal)] }
    else none
  | .requestResult reqId goalId =>
    if reqId ∉ network.results.map (·.1) then
      some { network with results := network.results ++ [(reqId, ActionClient.requestResult goalId)] }
    else none
  | .cancelGoalRaw reqId goalId timestamp =>
    if reqId ∉ network.cancels.map (·.1) then
      some { network with cancels := network.cancels ++ [(reqId, ActionClient.cancelGoalRaw goalId timestamp)] }
    else none
  | .start operation => network.stepServer (.start operation)
  | .advance call input => network.stepServer (.advance call input)
  | .drop call => network.stepServer (.drop call)
  | .takeGoal call place =>
    if place ∉ network.takenGoals then
      (network.stepServer (.takeGoal call place)).map fun after =>
        { after with takenGoals := place :: after.takenGoals }
    else none
  | .takeResult call place =>
    if place ∉ network.takenResults then
      (network.stepServer (.takeResult call place)).map fun after =>
        { after with takenResults := place :: after.takenResults }
    else none
  | .takeCancel call place =>
    if place ∉ network.takenCancels then
      (network.stepServer (.takeCancel call place)).map fun after =>
        { after with takenCancels := place :: after.takenCancels }
    else none
  | .arrive index place =>
    network.clients[index]?.bind fun client =>
      network.server.events[place]?.map fun event =>
        { network with clients := network.clients.set index (client.arrive event) }
  | .disturb index error call =>
    network.clients[index]?.map fun client =>
      { network with clients := network.clients.set index (client.disturb error call) }
  | .receive index call =>
    network.clients[index]?.bind fun client =>
      (client.turn call).map fun (outcome, rest) =>
        { network with
          clients := network.clients.set index rest
          returned := network.returned ++ (outcome.toOption.join.map (index, ·)).toList }

end ActionNetwork

def actionNetwork (Goal Result Feedback : Type) :
    System (ActionNetwork Goal Result Feedback) (NetworkLabel Goal Result Feedback) where
  initial := .initial
  step := ActionNetwork.step

theorem ActionNetwork.stepServer_some {network after : ActionNetwork Goal Result Feedback}
    {label : NetworkLabel Goal Result Feedback} (stepped : network.stepServer label = some after) :
    ∃ moved server, network.serverLabel label = some moved ∧ network.server.step moved = some server ∧
      after = { network with server := server } := by
  obtain ⟨moved, carries, mapped⟩ := Option.bind_eq_some_iff.mp stepped
  obtain ⟨server, reached, same⟩ := Option.map_eq_some_iff.mp mapped
  exact ⟨moved, server, carries, reached, same.symm⟩

inductive NetworkStep (before : ActionNetwork Goal Result Feedback) :
    NetworkLabel Goal Result Feedback → ActionNetwork Goal Result Feedback → Prop
  | created : NetworkStep before .createClient { before with clients := before.clients ++ [.new] }
  | goalSent {reqId goalId goal} (fresh : reqId ∉ before.goals.map (·.1))
      (unused : goalId ∉ before.goals.map (·.2.goalId)) :
      NetworkStep before (.sendGoal reqId goalId goal)
        { before with goals := before.goals ++ [(reqId, ActionClient.sendGoal goalId goal)] }
  | resultRequested {reqId goalId} (fresh : reqId ∉ before.results.map (·.1)) :
      NetworkStep before (.requestResult reqId goalId)
        { before with results := before.results ++ [(reqId, ActionClient.requestResult goalId)] }
  | cancelSent {reqId goalId timestamp} (fresh : reqId ∉ before.cancels.map (·.1)) :
      NetworkStep before (.cancelGoalRaw reqId goalId timestamp)
        { before with cancels := before.cancels ++ [(reqId, ActionClient.cancelGoalRaw goalId timestamp)] }
  | inside {label moved server} (quiet : ∀ call reqId request, moved ≠ .advance call (.goalRequest reqId request))
      (quietResult : ∀ call reqId goalId, moved ≠ .advance call (.resultRequest reqId goalId))
      (quietCancel : ∀ call reqId goalInfo, moved ≠ .advance call (.cancelRequest reqId goalInfo))
      (carries : before.serverLabel label = some moved) (stepped : before.server.step moved = some server) :
      NetworkStep before label { before with server := server }
  | goalTaken {call place reqId request server} (untaken : place ∉ before.takenGoals)
      (found : before.goals[place]? = some (reqId, request))
      (stepped : before.server.step (.advance call (.goalRequest reqId request)) = some server) :
      NetworkStep before (.takeGoal call place)
        { before with server := server, takenGoals := place :: before.takenGoals }
  | resultTaken {call place reqId request server} (untaken : place ∉ before.takenResults)
      (found : before.results[place]? = some (reqId, request))
      (stepped : before.server.step (.advance call (.resultRequest reqId request.goalId)) = some server) :
      NetworkStep before (.takeResult call place)
        { before with server := server, takenResults := place :: before.takenResults }
  | cancelTaken {call place reqId request server} (untaken : place ∉ before.takenCancels)
      (found : before.cancels[place]? = some (reqId, request))
      (stepped : before.server.step (.advance call (.cancelRequest reqId request.goalInfo)) = some server) :
      NetworkStep before (.takeCancel call place)
        { before with server := server, takenCancels := place :: before.takenCancels }
  | arrived {index place client event} (found : before.clients[index]? = some client)
      (written : event ∈ before.server.events) :
      NetworkStep before (.arrive index place)
        { before with clients := before.clients.set index (client.arrive event) }
  | disturbed {index error call client} (found : before.clients[index]? = some client) :
      NetworkStep before (.disturb index error call)
        { before with clients := before.clients.set index (client.disturb error call) }
  | received {index call client outcome rest} (found : before.clients[index]? = some client)
      (turned : client.turn call = some (outcome, rest)) :
      NetworkStep before (.receive index call)
        { before with
          clients := before.clients.set index rest
          returned := before.returned ++ (outcome.toOption.join.map (index, ·)).toList }

theorem ActionNetwork.step_cases {before after : ActionNetwork Goal Result Feedback}
    {label : NetworkLabel Goal Result Feedback} (stepped : before.step label = some after) :
    NetworkStep before label after := by
  cases label with
  | createClient =>
    cases stepped
    exact .created
  | sendGoal reqId goalId goal =>
    obtain ⟨fresh, same⟩ := Option.ite_none_right_eq_some.mp stepped
    cases same
    exact .goalSent fresh.1 fresh.2
  | requestResult reqId goalId =>
    obtain ⟨fresh, same⟩ := Option.ite_none_right_eq_some.mp stepped
    cases same
    exact .resultRequested fresh
  | cancelGoalRaw reqId goalId timestamp =>
    obtain ⟨fresh, same⟩ := Option.ite_none_right_eq_some.mp stepped
    cases same
    exact .cancelSent fresh
  | start operation =>
    obtain ⟨moved, server, carries, reached, rfl⟩ := stepServer_some stepped
    cases carries
    exact .inside (by simp) (by simp) (by simp) rfl reached
  | drop call =>
    obtain ⟨moved, server, carries, reached, rfl⟩ := stepServer_some stepped
    cases carries
    exact .inside (by simp) (by simp) (by simp) rfl reached
  | advance call input =>
    obtain ⟨moved, server, carries, reached, rfl⟩ := stepServer_some stepped
    obtain ⟨inner, same⟩ := Option.ite_none_right_eq_some.mp carries
    cases same
    refine .inside ?_ ?_ ?_ carries reached
    all_goals
      rintro _ _ _ ⟨⟩
      cases inner
  | takeGoal call place =>
    obtain ⟨untaken, mapped⟩ := Option.ite_none_right_eq_some.mp stepped
    obtain ⟨middle, inner, rfl⟩ := Option.map_eq_some_iff.mp mapped
    obtain ⟨moved, server, carries, reached, rfl⟩ := stepServer_some inner
    obtain ⟨⟨reqId, request⟩, found, rfl⟩ := Option.map_eq_some_iff.mp carries
    exact .goalTaken untaken found reached
  | takeResult call place =>
    obtain ⟨untaken, mapped⟩ := Option.ite_none_right_eq_some.mp stepped
    obtain ⟨middle, inner, rfl⟩ := Option.map_eq_some_iff.mp mapped
    obtain ⟨moved, server, carries, reached, rfl⟩ := stepServer_some inner
    obtain ⟨⟨reqId, request⟩, found, rfl⟩ := Option.map_eq_some_iff.mp carries
    exact .resultTaken untaken found reached
  | takeCancel call place =>
    obtain ⟨untaken, mapped⟩ := Option.ite_none_right_eq_some.mp stepped
    obtain ⟨middle, inner, rfl⟩ := Option.map_eq_some_iff.mp mapped
    obtain ⟨moved, server, carries, reached, rfl⟩ := stepServer_some inner
    obtain ⟨⟨reqId, request⟩, found, rfl⟩ := Option.map_eq_some_iff.mp carries
    exact .cancelTaken untaken found reached
  | arrive index place =>
    obtain ⟨client, found, mapped⟩ := Option.bind_eq_some_iff.mp stepped
    obtain ⟨event, written, rfl⟩ := Option.map_eq_some_iff.mp mapped
    exact .arrived found (List.mem_of_getElem? written)
  | disturb index error call =>
    obtain ⟨client, found, rfl⟩ := Option.map_eq_some_iff.mp stepped
    exact .disturbed found
  | receive index call =>
    obtain ⟨client, found, mapped⟩ := Option.bind_eq_some_iff.mp stepped
    obtain ⟨⟨outcome, rest⟩, turned, rfl⟩ := Option.map_eq_some_iff.mp mapped
    exact .received found turned

/-- The server of the network steps as a server does. -/
theorem actionNetwork_contains (Goal Result Feedback : Type) :
    (actionNetwork Goal Result Feedback).Contains (actionServer Goal Result Feedback)
      (·.server) ActionNetwork.serverLabel where
  initial := rfl
  moves before label after moved stepped carries := by
    cases ActionNetwork.step_cases stepped with
    | inside _ _ _ carries' inner =>
      rw [carries] at carries'
      cases carries'
      exact inner
    | goalTaken _ found inner | resultTaken _ found inner | cancelTaken _ found inner =>
      simp only [ActionNetwork.serverLabel, found, Option.map_some, Option.some.injEq] at carries
      subst carries
      exact inner
    | _ => cases carries
  keeps before label after stepped carries := by
    cases ActionNetwork.step_cases stepped with
    | inside _ _ _ carries' _ =>
      rw [carries] at carries'
      cases carries'
    | goalTaken _ found _ | resultTaken _ found _ | cancelTaken _ found _ =>
      simp [ActionNetwork.serverLabel, found] at carries
    | _ => rfl

/-- A receiving call is a run of its turns, which the turns of other calls may come in between. -/
theorem receive_runs (network : ActionNetwork Goal Result Feedback) {index : Nat}
    {client : ActionClient Result Feedback}
    (found : network.clients[index]? = some client) (call : ClientRead) :
    ∃ turns, (actionNetwork Goal Result Feedback).run network (List.replicate turns (.receive index call)) = some
      { network with
        clients := network.clients.set index (client.receive call).2
        returned := network.returned ++ ((client.receive call).1.toOption.join.map (index, ·)).toList } := by
  generalize size : client.pending call = pending
  induction pending using Nat.strongRecOn generalizing network client with
  | ind pending ih =>
    rcases client.receive_turn call with ⟨empty, whole⟩ | ⟨rest, turned, whole, less⟩ | turned
    · refine ⟨0, ?_⟩
      obtain ⟨inside, same⟩ := List.getElem?_eq_some_iff.mp found
      rw [whole]
      simp [System.run, ← same, Except.toOption]
    · have moved : (actionNetwork Goal Result Feedback).step network (.receive index call) =
          some { network with clients := network.clients.set index rest } := by
        simp [actionNetwork, ActionNetwork.step, found, turned, Except.toOption]
      have inside := (List.getElem?_eq_some_iff.mp found).1
      obtain ⟨turns, ran⟩ :=
        ih (rest.pending call) (size ▸ less) { network with clients := network.clients.set index rest }
        (List.getElem?_set_self inside) rfl
      refine ⟨turns + 1, ?_⟩
      rw [List.replicate_succ, System.run, moved, Option.bind_some, whole]
      rw [List.set_set] at ran
      exact ran
    · refine ⟨1, ?_⟩
      simp [System.run, actionNetwork, ActionNetwork.step, found, turned]

end Ros2Client
