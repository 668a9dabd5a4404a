import Ros2Client.Transition.Runs
import Ros2Client.Zenoh.Service

open Text Transition

namespace Ros2Client.Zenoh

inductive Event (Request : Type)
  | accepted (id : RmwRequestId) (query : Query) (request : Request)
  | refused (query : Query) (error : ServiceError)
  | answered (id : RmwRequestId) (reply : Option Reply) (result : Except ServiceError Unit)

structure Service (Request : Type) where
  server : QueryServer
  arrived : Nat
  /-- The queries of receive calls that have taken one off the queue and not accepted it yet. -/
  taken : List Query
  /-- The last event first. -/
  history : List (Event Request)

inductive ServiceLabel (Response : Type)
  | arrive (keyExpr : Str) (payload attachment : Option (List UInt8))
  | close
  | receive
  | accept (index : Nat)
  | sendResponse (id : RmwRequestId) (response : Response) (now : Int64) (sending : Except String Unit)

variable {Request Response Req Resp : Type}

def Service.accept (code : ServerCode Request Response) (state : Service Request) (index : Nat) (query : Query) :
    Service Request :=
  let (pending, result) := code.accept state.server.pending query
  { state with
    server := { state.server with pending := pending }
    taken := state.taken.eraseIdx index
    history := (match result with
      | .ok (id, request) => .accepted id query request
      | .error error => .refused query error) :: state.history }

def Service.step (code : ServerCode Request Response) (state : Service Request) :
    ServiceLabel Response → Option (Service Request)
  | .arrive keyExpr payload attachment =>
    let query := ⟨state.arrived, keyExpr, payload, attachment⟩
    let queryable := state.server.queryable
    if queryable.closed then none
    else some { state with
      server := { state.server with queryable := { queryable with queue := queryable.queue ++ [query] } }
      arrived := state.arrived + 1 }
  | .close => some { state with server := { state.server with queryable := state.server.queryable.close } }
  | .receive =>
    match state.server.queryable.queue with
    | [] => none
    | query :: rest =>
      some { state with
        server := { state.server with queryable := { state.server.queryable with queue := rest } }
        taken := state.taken ++ [query] }
  | .accept index => state.taken[index]?.map (state.accept code index)
  | .sendResponse id response now sending =>
    let (pending, reply, result) := code.sendResponse state.server.pending id response now sending
    some { state with
      server := { state.server with pending := pending }
      history := .answered id reply result :: state.history }

def serving (code : ServerCode Request Response) : System (Service Request) (ServiceLabel Response) where
  initial := ⟨⟨Channel.new none, ∅⟩, 0, [], []⟩
  step := Service.step code

/-- A receive call on its own is a step that takes the query and one that accepts it. -/
theorem tryReceiveRequest_run (code : ServerCode Request Response) {state : Service Request} {query : Query}
    {rest : List Query} (queued : state.server.queryable.queue = query :: rest) :
    ((serving code).run state [.receive, .accept state.taken.length]).map Service.server =
      some (code.tryReceiveRequest state.server).1 := by
  simp [System.run, serving, Service.step, Service.accept, ServerCode.tryReceiveRequest, queued]

/-- The query that was accepted last under an id, unless a response has been sent for the id since. -/
def latest (id : RmwRequestId) : List (Event Request) → Option Query
  | [] => none
  | .accepted other query _ :: earlier => if other = id then some query else latest id earlier
  | .answered other _ _ :: earlier => if other = id then none else latest id earlier
  | .refused _ _ :: earlier => latest id earlier

def Event.reply? : Event Request → Option Reply
  | .answered _ reply _ => reply
  | _ => none

def Service.replies (state : Service Request) : List Reply := state.history.filterMap Event.reply?

def Query.Carries (ext : ZenohExt) (query : Query) (id : RmwRequestId) : Prop :=
  ∃ bytes a, query.attachment = some bytes ∧ AttachmentData.fromZbytes ext bytes = some a ∧
    id = ⟨a.sourceGid, a.sequenceNumber⟩

end Ros2Client.Zenoh
