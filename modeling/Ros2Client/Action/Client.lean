import Ros2Client.Action.Messages
import Ros2Client.Service.Cdr

namespace Ros2Client

/-- What a reader will say when it is asked, in this order. -/
abbrev Reader (Item : Type) := List (Except ReadError Item)

section Reader

variable {Item Wanted : Type}

def Reader.turn (wanted : Item → Option Wanted) : Reader Item → Option (Except ReadError (Option Wanted) × Reader Item)
  | [] => none
  | .error error :: rest => some (.error error, rest)
  | .ok item :: rest => some (.ok (wanted item), rest)

/-- The receiving loops take from the reader until an item is wanted, the reader fails or is empty. -/
def Reader.receive (wanted : Item → Option Wanted) : Reader Item → Except ReadError (Option Wanted) × Reader Item
  | [] => (.ok none, [])
  | .error error :: rest => (.error error, rest)
  | .ok item :: rest =>
    match wanted item with
    | some found => (.ok (some found), rest)
    | none => Reader.receive wanted rest

theorem Reader.turn_ok {wanted : Item → Option Wanted} {reader rest : Reader Item} {outcome : Option Wanted}
    (turned : Reader.turn wanted reader = some (.ok outcome, rest)) :
    ∃ item, reader = .ok item :: rest ∧ outcome = wanted item := by
  unfold Reader.turn at turned
  split at turned
  · cases turned
  · cases turned
  · cases turned
    exact ⟨_, rfl, rfl⟩

theorem Reader.turn_rest {wanted : Item → Option Wanted} {reader rest : Reader Item}
    {outcome : Except ReadError (Option Wanted)} (turned : Reader.turn wanted reader = some (outcome, rest)) :
    ∃ first, reader = first :: rest := by
  unfold Reader.turn at turned
  split at turned
  · cases turned
  · cases turned
    exact ⟨_, rfl⟩
  · cases turned
    exact ⟨_, rfl⟩

def Reader.Holds (holds : Item → Prop) (reader : Reader Item) : Prop := ∀ item, .ok item ∈ reader → holds item

theorem Reader.Holds.nil {holds : Item → Prop} : Reader.Holds holds [] := by
  intro item member
  cases member

theorem Reader.Holds.arrive {holds : Item → Prop} {reader : Reader Item} {item : Item}
    (held : Reader.Holds holds reader) (next : holds item) : Reader.Holds holds (reader ++ [.ok item]) := by
  intro other member
  rcases List.mem_append.mp member with old | new
  · exact held other old
  · cases List.mem_singleton.mp new
    exact next

theorem Reader.Holds.disturb {holds : Item → Prop} {reader : Reader Item} (held : Reader.Holds holds reader)
    (error : ReadError) : Reader.Holds holds (reader ++ [.error error]) := by
  intro other member
  rcases List.mem_append.mp member with old | new
  · exact held other old
  · cases List.mem_singleton.mp new

theorem Reader.Holds.mono {holds weaker : Item → Prop} {reader : Reader Item} (held : Reader.Holds holds reader)
    (implies : ∀ item, holds item → weaker item) : Reader.Holds weaker reader :=
  fun item member => implies item (held item member)

theorem Reader.Holds.rest {holds : Item → Prop} {wanted : Item → Option Wanted} {reader rest : Reader Item}
    {outcome : Except ReadError (Option Wanted)} (held : Reader.Holds holds reader)
    (turned : Reader.turn wanted reader = some (outcome, rest)) : Reader.Holds holds rest := by
  obtain ⟨first, rfl⟩ := Reader.turn_rest turned
  exact fun item member => held item (List.mem_cons_of_mem _ member)

def Reader.turnTo {Reply Client : Type} (wanted : Item → Option Wanted) (reply : Wanted → Reply)
    (put : Reader Item → Client) (reader : Reader Item) : Option (Except ReadError (Option Reply) × Client) :=
  (Reader.turn wanted reader).map fun (outcome, rest) => (outcome.map (·.map reply), put rest)

def Reader.receiveTo {Reply Client : Type} (wanted : Item → Option Wanted) (reply : Wanted → Reply)
    (put : Reader Item → Client) (reader : Reader Item) : Except ReadError (Option Reply) × Client :=
  ((Reader.receive wanted reader).1.map (·.map reply), put (Reader.receive wanted reader).2)

theorem Reader.receiveTo_turn {Reply Client : Type} (wanted : Item → Option Wanted) (reply : Wanted → Reply)
    (put : Reader Item → Client) (reader : Reader Item) :
    (Reader.turnTo wanted reply put reader = none ∧
      Reader.receiveTo wanted reply put reader = (.ok none, put reader)) ∨
    (∃ rest, Reader.turnTo wanted reply put reader = some (.ok none, put rest) ∧
      Reader.receiveTo wanted reply put reader = Reader.receiveTo wanted reply put rest ∧
      rest.length < reader.length) ∨
    Reader.turnTo wanted reply put reader = some (Reader.receiveTo wanted reply put reader) := by
  cases reader with
  | nil => exact .inl ⟨rfl, rfl⟩
  | cons first rest =>
    cases first with
    | error error => exact .inr (.inr rfl)
    | ok item =>
      cases found : wanted item with
      | none =>
        refine .inr (.inl ⟨rest, ?_, ?_, by simp⟩)
        · simp [Reader.turnTo, Reader.turn, found, Except.map]
        · simp [Reader.receiveTo, Reader.receive, found]
      | some wanted' =>
        right
        right
        simp [Reader.turnTo, Reader.turn, Reader.receiveTo, Reader.receive, found, Except.map]

/-- What a turn replies with comes from an item that the reader had. -/
theorem Reader.Holds.turnTo {Reply Client : Type} {holds : Item → Prop} {wanted : Item → Option Wanted}
    {reply : Wanted → Reply} {put : Reader Item → Client} {reader : Reader Item} {client : Client}
    {outcome : Except ReadError (Option Reply)} (held : Reader.Holds holds reader)
    (turned : Reader.turnTo wanted reply put reader = some (outcome, client)) :
    ∃ rest, Reader.Holds holds rest ∧ client = put rest ∧ ∀ answer, outcome.toOption.join = some answer →
      ∃ item found, holds item ∧ wanted item = some found ∧ answer = reply found := by
  obtain ⟨⟨inner, rest⟩, took, same⟩ := Option.map_eq_some_iff.mp turned
  cases same
  refine ⟨rest, held.rest took, rfl, ?_⟩
  intro answer answered
  cases inner with
  | error => cases answered
  | ok outcome =>
    cases outcome with
    | none => cases answered
    | some found =>
      cases answered
      obtain ⟨item, rfl, same⟩ := Reader.turn_ok took
      exact ⟨item, found, held item List.mem_cons_self, same.symm, rfl⟩

end Reader

structure ActionClient (Result Feedback : Type) where
  goalResponses : Reader (RmwRequestId × SendGoalResponse)
  cancelResponses : Reader (RmwRequestId × CancelGoalResponse)
  results : Reader (RmwRequestId × GetResultResponse Result)
  feedback : Reader (FeedbackMessage Feedback)
  statuses : Reader (List GoalStatus)

namespace ActionClient

variable {Goal Result Feedback : Type}

def new : ActionClient Result Feedback := ⟨[], [], [], [], []⟩

/-- What the client writes for a goal whose id it has just made up. -/
def sendGoal (goalId : GoalId) (goal : Goal) : SendGoalRequest Goal := ⟨goalId, goal⟩

def cancelGoalRaw (goalId : GoalId) (timestamp : Time) : CancelGoalRequest := ⟨⟨goalId, timestamp⟩⟩

def cancelGoal (goalId : GoalId) : CancelGoalRequest := cancelGoalRaw goalId Time.zero

def cancelAllGoalsBefore (timestamp : Time) : CancelGoalRequest := cancelGoalRaw GoalId.zero timestamp

def cancelAllGoals : CancelGoalRequest := cancelGoalRaw GoalId.zero Time.zero

def requestResult (goalId : GoalId) : GetResultRequest := ⟨goalId⟩

/-- The response, if it is the one to this request: other responses are passed over. -/
def ownResponse {Response : Type} (requestId : RmwRequestId) : RmwRequestId × Response → Option Response
  | (incoming, response) => if incoming = requestId then some response else none

def ownFeedback (goalId : GoalId) (message : FeedbackMessage Feedback) : Option Feedback :=
  if message.goalId = goalId then some message.feedback else none

def ownStatus (goalId : GoalId) (statusList : List GoalStatus) : Option GoalStatus :=
  statusList.find? (·.goalInfo.goalId = goalId)

def receiveGoalResponse (client : ActionClient Result Feedback) (requestId : RmwRequestId) :
    Except ReadError (Option SendGoalResponse) × ActionClient Result Feedback :=
  let (response, rest) := Reader.receive (ownResponse requestId) client.goalResponses
  (response, { client with goalResponses := rest })

def receiveCancelResponse (client : ActionClient Result Feedback) (cancelRequestId : RmwRequestId) :
    Except ReadError (Option CancelGoalResponse) × ActionClient Result Feedback :=
  let (response, rest) := Reader.receive (ownResponse cancelRequestId) client.cancelResponses
  (response, { client with cancelResponses := rest })

def receiveResult (client : ActionClient Result Feedback) (resultRequestId : RmwRequestId) :
    Except ReadError (Option (GoalStatusEnum × Result)) × ActionClient Result Feedback :=
  let (response, rest) := Reader.receive (ownResponse resultRequestId) client.results
  (response.map (·.map fun response => (response.status, response.result)), { client with results := rest })

def receiveFeedback (client : ActionClient Result Feedback) (goalId : GoalId) :
    Except ReadError (Option Feedback) × ActionClient Result Feedback :=
  let (feedback, rest) := Reader.receive (ownFeedback goalId) client.feedback
  (feedback, { client with feedback := rest })

def receiveStatus (client : ActionClient Result Feedback) :
    Except ReadError (Option (List GoalStatus)) × ActionClient Result Feedback :=
  let (statusList, rest) := Reader.receive some client.statuses
  (statusList, { client with statuses := rest })

/-- The next item of `status_stream`: an array without the goal is passed over. -/
def statusStream (client : ActionClient Result Feedback) (goalId : GoalId) :
    Except ReadError (Option GoalStatus) × ActionClient Result Feedback :=
  let (status, rest) := Reader.receive (ownStatus goalId) client.statuses
  (status, { client with statuses := rest })

end ActionClient

end Ros2Client
