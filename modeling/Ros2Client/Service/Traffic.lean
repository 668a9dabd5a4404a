import Ros2Client.Service.Endpoints
import Ros2Client.Transition.Runs

open Transition

namespace Ros2Client

variable {Message Request Response : Type}

inductive ServerMessage (Message : Type)
  | typed (message : Message)
  | raw (bytes : List UInt8)
deriving DecidableEq

inductive ServerKind
  | typed
  | raw
deriving DecidableEq

structure ServerRecord (Message : Type) where
  server : Nat
  requestId : RmwRequestId
  message : ServerMessage Message
deriving DecidableEq

/-- The clients and servers of one service under the Enhanced mapping, with every sample written to its
    two topics and every call that succeeded. -/
structure ServiceState (Request Response : Type) where
  clients : List Client
  servers : List ServerKind
  requests : List Sample
  responses : List Sample
  sent : List (RmwRequestId × Request)
  received : List (ServerRecord Request)
  answered : List (ServerRecord Response)
  returned : List (RmwRequestId × Response)

def ServiceState.initial : ServiceState Request Response := ⟨[], [], [], [], [], [], [], []⟩

def ServiceState.fresh (state : ServiceState Request Response) (identity : SampleIdentity) : Bool :=
  (state.requests ++ state.responses).all (·.identity ≠ identity)

/-- A receiving step names the sample it takes: any that was written, in any order, once more or never. -/
inductive ServiceLabel (Request Response : Type)
  | createClient (guid : GUID) (first : SequenceNumber)
  | createServer (kind : ServerKind)
  | sendRequest (client : Nat) (request : Request) (write : Except WriteError SequenceNumber)
  | receiveRequest (server sample : Nat)
  | sendResponse (server : Nat) (requestId : RmwRequestId) (response : ServerMessage Response)
      (write : Except WriteError SampleIdentity)
  | receiveResponse (client : Nat) (requestId : RmwRequestId) (sample : Nat)

def ServiceState.sendRequest (dds : Rustdds) (codec : CdrCodec Request) (state : ServiceState Request Response)
    (index : Nat) (client : Client) (request : Request) (write : Except WriteError SequenceNumber) :
    Option (ServiceState Request Response) :=
  match client.sendRequest dds codec request (write.map (⟨client.clientGuid, ·⟩)) with
  | (client, .error _) => some { state with clients := state.clients.set index client }
  | (client, .ok (requestId, sample)) =>
    if state.fresh sample.identity then
      some { state with
        clients := state.clients.set index client
        requests := state.requests ++ [sample]
        sent := state.sent ++ [(requestId, request)] }
    else none

def ServerKind.receiveRequest (dds : Rustdds) (codec : CdrCodec Request) (kind : ServerKind) (sample : Sample) :
    Except ReadError (RmwRequestId × ServerMessage Request) :=
  match kind with
  | .typed => (Server.receiveRequest dds codec ⟨.enhanced⟩ sample).map fun (requestId, request) =>
      (requestId, .typed request)
  | .raw =>
    let (requestId, bytes) := RawServer.receiveRequest sample
    .ok (requestId, .raw bytes)

def ServiceState.receiveRequest (dds : Rustdds) (codec : CdrCodec Request) (state : ServiceState Request Response)
    (server : Nat) (kind : ServerKind) (sample : Sample) : ServiceState Request Response :=
  match kind.receiveRequest dds codec sample with
  | .error _ => state
  | .ok (requestId, request) => { state with received := state.received ++ [⟨server, requestId, request⟩] }

def ServerKind.sendResponse (dds : Rustdds) (codec : CdrCodec Response) (kind : ServerKind)
    (requestId : RmwRequestId) (response : ServerMessage Response) (write : Except WriteError SampleIdentity) :
    Option (Except WriteError Sample) :=
  match kind, response with
  | .typed, .typed response => some (Server.sendResponse dds codec ⟨.enhanced⟩ requestId response write)
  | .raw, .raw response => some (RawServer.sendResponse requestId response write)
  | _, _ => none

def ServiceState.hasReceived (state : ServiceState Request Response) (server : Nat) (requestId : RmwRequestId) : Bool :=
  state.received.any fun record => record.server = server ∧ record.requestId = requestId

def ServiceState.sendResponse (dds : Rustdds) (codec : CdrCodec Response) (state : ServiceState Request Response)
    (server : Nat) (kind : ServerKind) (requestId : RmwRequestId) (response : ServerMessage Response)
    (write : Except WriteError SampleIdentity) : Option (ServiceState Request Response) :=
  match kind.sendResponse dds codec requestId response write with
  | none => none
  | some (.error _) => some state
  | some (.ok sample) =>
    if state.fresh sample.identity ∧ state.hasReceived server requestId then
      some { state with
        responses := state.responses ++ [sample]
        answered := state.answered ++ [⟨server, requestId, response⟩] }
    else none

def ServiceState.receiveResponse (dds : Rustdds) (codec : CdrCodec Response) (state : ServiceState Request Response)
    (client : Client) (requestId : RmwRequestId) (sample : Sample) : ServiceState Request Response :=
  match client.unwrapResponse dds codec sample with
  | .error _ => state
  | .ok (received, response) =>
    if received = requestId then { state with returned := state.returned ++ [(requestId, response)] } else state

def ServiceState.step (dds : Rustdds) (requestCodec : CdrCodec Request) (responseCodec : CdrCodec Response)
    (state : ServiceState Request Response) : ServiceLabel Request Response → Option (ServiceState Request Response)
  | .createClient guid first => some { state with clients := state.clients ++ [.new .enhanced guid first] }
  | .createServer kind => some { state with servers := state.servers ++ [kind] }
  | .sendRequest index request write =>
    match state.clients[index]? with
    | some client => state.sendRequest dds requestCodec index client request write
    | none => none
  | .receiveRequest server index =>
    match state.servers[server]?, state.requests[index]? with
    | some kind, some sample => some (state.receiveRequest dds requestCodec server kind sample)
    | _, _ => none
  | .sendResponse server requestId response write =>
    match state.servers[server]? with
    | some kind => state.sendResponse dds responseCodec server kind requestId response write
    | none => none
  | .receiveResponse index requestId place =>
    match state.clients[index]?, state.responses[place]? with
    | some client, some sample => some (state.receiveResponse dds responseCodec client requestId sample)
    | _, _ => none

def serviceSystem (dds : Rustdds) (requestCodec : CdrCodec Request) (responseCodec : CdrCodec Response) :
    System (ServiceState Request Response) (ServiceLabel Request Response) where
  initial := .initial
  step := ServiceState.step dds requestCodec responseCodec

end Ros2Client
