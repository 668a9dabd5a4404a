import Ros2Client.Text.Str
import Ros2Client.Transition.Channel
import Ros2Client.Zenoh.Payload
import Mathlib.Data.List.AList

open Text Transition

namespace Ros2Client.Zenoh

structure RmwRequestId where
  writerGid : Gid
  sequenceNumber : Int64
deriving DecidableEq

inductive ServiceError
  | cdr (error : CdrError)
  | zenoh (reason : String)
  | malformed
  | noReply
  | unknownRequest
deriving DecidableEq

/-- A query that has reached a server. The server owns it: there is one query of each identity. -/
structure Query where
  identity : Nat
  keyExpr : Str
  payload : Option (List UInt8)
  attachment : Option (List UInt8)
deriving DecidableEq

abbrev PendingKey := BitVec 128 × Int64

abbrev Pending := AList fun _ : PendingKey => Query

structure QueryServer where
  queryable : Channel Query
  pending : Pending

structure Reply where
  query : Query
  keyExpr : Str
  payload : List UInt8
  attachment : List UInt8
deriving DecidableEq

def okOr {α : Type} (value : Option α) (error : ServiceError) : Except ServiceError α :=
  value.elim (.error error) .ok

variable {Req Resp : Type}

def Server.read (ext : ZenohExt) (codec : CdrEncoding Req) (query : Query) :
    Except ServiceError (AttachmentData × Req) := do
  let payload ← okOr query.payload .malformed
  let req ← (fromCdr codec payload).mapError .cdr
  let attachment ← okOr query.attachment .malformed
  let a ← okOr (AttachmentData.fromZbytes ext attachment) .malformed
  return (a, req)

def Server.accept (ext : ZenohExt) (codec : CdrEncoding Req) (pending : Pending) (query : Query) :
    Pending × Except ServiceError (RmwRequestId × Req) :=
  match Server.read ext codec query with
  | .ok (a, req) =>
    let id := ⟨a.sourceGid, a.sequenceNumber⟩
    (pending.insert (gidKey a.sourceGid, a.sequenceNumber) query, .ok (id, req))
  | .error error => (pending, .error error)

def Server.sendResponse (ext : ZenohExt) (codec : CdrEncoding Resp) (pending : Pending) (id : RmwRequestId)
    (resp : Resp) (now : Int64) (sending : Except String Unit) :
    Pending × Option Reply × Except ServiceError Unit :=
  let key := (gidKey id.writerGid, id.sequenceNumber)
  match pending.lookup key with
  | none => (pending, none, .error .unknownRequest)
  | some query =>
    let pending := pending.erase key
    match toCdr codec resp with
    | .error error => (pending, none, .error (.cdr error))
    | .ok payload =>
      let attachment := AttachmentData.toZbytes ext ⟨id.sequenceNumber, now, id.writerGid⟩
      (pending, some ⟨query, query.keyExpr, payload, attachment⟩, sending.mapError .zenoh)

def RawServer.read (ext : ZenohExt) (query : Query) : Except ServiceError (AttachmentData × List UInt8) := do
  let bytes ← okOr query.payload .malformed
  let attachment ← okOr query.attachment .malformed
  let a ← okOr (AttachmentData.fromZbytes ext attachment) .malformed
  return (a, bytes)

def RawServer.accept (ext : ZenohExt) (pending : Pending) (query : Query) :
    Pending × Except ServiceError (RmwRequestId × List UInt8) :=
  match RawServer.read ext query with
  | .ok (a, bytes) =>
    let id := ⟨a.sourceGid, a.sequenceNumber⟩
    (pending.insert (gidKey a.sourceGid, a.sequenceNumber) query, .ok (id, bytes))
  | .error error => (pending, .error error)

def RawServer.sendResponse (ext : ZenohExt) (pending : Pending) (id : RmwRequestId) (response : List UInt8)
    (now : Int64) (sending : Except String Unit) : Pending × Option Reply × Except ServiceError Unit :=
  let key := (gidKey id.writerGid, id.sequenceNumber)
  match pending.lookup key with
  | none => (pending, none, .error .unknownRequest)
  | some query =>
    let pending := pending.erase key
    let attachment := AttachmentData.toZbytes ext ⟨id.sequenceNumber, now, id.writerGid⟩
    (pending, some ⟨query, query.keyExpr, response, attachment⟩, sending.mapError .zenoh)

structure ServerCode (Request Response : Type) where
  accept : Pending → Query → Pending × Except ServiceError (RmwRequestId × Request)
  sendResponse : Pending → RmwRequestId → Response → Int64 → Except String Unit →
    Pending × Option Reply × Except ServiceError Unit

def Server.code (ext : ZenohExt) (codec : CdrEncoding Req) (respCodec : CdrEncoding Resp) : ServerCode Req Resp :=
  ⟨Server.accept ext codec, Server.sendResponse ext respCodec⟩

def RawServer.code (ext : ZenohExt) : ServerCode (List UInt8) (List UInt8) :=
  ⟨RawServer.accept ext, RawServer.sendResponse ext⟩

variable {Request Response : Type}

/-- Both receive calls take a query off the queue and accept it. Only what they return without one differs. -/
def ServerCode.tryReceiveRequest (code : ServerCode Request Response) (server : QueryServer) :
    QueryServer × Except ServiceError (Option (RmwRequestId × Request)) :=
  match server.queryable.queue with
  | query :: rest =>
    let (pending, result) := code.accept server.pending query
    (⟨{ server.queryable with queue := rest }, pending⟩, result.map some)
  | [] => (server, .ok none)

/-- `none` while the call still waits. -/
def ServerCode.asyncReceiveRequest (code : ServerCode Request Response) (server : QueryServer) :
    Option (QueryServer × Except ServiceError (RmwRequestId × Request)) :=
  match server.queryable.queue with
  | query :: rest =>
    let (pending, result) := code.accept server.pending query
    some (⟨{ server.queryable with queue := rest }, pending⟩, result)
  | [] => if server.queryable.closed then some (server, .error .noReply) else none

def Server.tryReceiveRequest (ext : ZenohExt) (codec : CdrEncoding Req) (respCodec : CdrEncoding Resp) :
    QueryServer → QueryServer × Except ServiceError (Option (RmwRequestId × Req)) :=
  (Server.code ext codec respCodec).tryReceiveRequest

def Server.asyncReceiveRequest (ext : ZenohExt) (codec : CdrEncoding Req) (respCodec : CdrEncoding Resp) :
    QueryServer → Option (QueryServer × Except ServiceError (RmwRequestId × Req)) :=
  (Server.code ext codec respCodec).asyncReceiveRequest

def RawServer.tryReceiveRequest (ext : ZenohExt) :
    QueryServer → QueryServer × Except ServiceError (Option (RmwRequestId × List UInt8)) :=
  (RawServer.code ext).tryReceiveRequest

def RawServer.asyncReceiveRequest (ext : ZenohExt) :
    QueryServer → Option (QueryServer × Except ServiceError (RmwRequestId × List UInt8)) :=
  (RawServer.code ext).asyncReceiveRequest

end Ros2Client.Zenoh
