import Ros2Client.Transition.Components
import Ros2Client.Zenoh.ServedQueries
import Ros2Client.Zenoh.Session

open Transition

namespace Ros2Client.Zenoh

inductive GetReply
  | sample (payload : List UInt8)
  | error
deriving DecidableEq

variable {Req Resp : Type}

def Client.decodeReply (codec : CdrEncoding Resp) : GetReply → Option (Except ServiceError Resp)
  | .sample payload => some ((fromCdr codec payload).mapError .cdr)
  | .error => none

/-- One turn of the loop of `call` and `async_call` over the replies: `none` while it has to wait, and no result where
    it goes on. -/
def Client.turn (codec : CdrEncoding Resp) (replies : Channel GetReply) :
    Option (Channel GetReply × Option (Except ServiceError Resp)) :=
  match replies.queue with
  | reply :: rest => some ({ replies with queue := rest }, Client.decodeReply codec reply)
  | [] => if replies.closed then some (replies, some (.error .noReply)) else none

structure ClientCall (Caller Req : Type) where
  caller : Caller
  req : Req
  id : RmwRequestId
  payload : List UInt8
  attachment : List UInt8

inductive CallProgress (Resp : Type)
  | prepared
  | waiting (replies : Channel GetReply)
  | returned (result : Except ServiceError Resp)

def CallProgress.result? : CallProgress Resp → Option (Except ServiceError Resp)
  | .returned result => some result
  | _ => none

inductive ServerKind
  | typed
  | raw
deriving DecidableEq

namespace ServerKind

def Request (Req : Type) : ServerKind → Type
  | .typed => Req
  | .raw => List UInt8

def Response (Resp : Type) : ServerKind → Type
  | .typed => Resp
  | .raw => List UInt8

def read (ext : ZenohExt) (codec : CdrEncoding Req) :
    (kind : ServerKind) → Query → Except ServiceError (AttachmentData × kind.Request Req)
  | .typed => Server.read ext codec
  | .raw => RawServer.read ext

def write (codec : CdrEncoding Resp) : (kind : ServerKind) → kind.Response Resp → Except CdrError (List UInt8)
  | .typed => toCdr codec
  | .raw => .ok

def code (ext : ZenohExt) (codec : CdrEncoding Req) (respCodec : CdrEncoding Resp) :
    (kind : ServerKind) → ServerCode (kind.Request Req) (kind.Response Resp)
  | .typed => Server.code ext codec respCodec
  | .raw => RawServer.code ext

def Receives (codec : CdrEncoding Req) : (kind : ServerKind) → kind.Request Req → Req → Prop
  | .typed, received, req => received = req
  | .raw, bytes, req => toCdr codec req = .ok bytes

def Answers (codec : CdrEncoding Resp) : (kind : ServerKind) → kind.Response Resp → Resp → Prop
  | .typed, sent, resp => sent = resp
  | .raw, bytes, resp => fromCdr codec bytes = .ok resp

theorem code_eq (ext : ZenohExt) (codec : CdrEncoding Req) (respCodec : CdrEncoding Resp) (kind : ServerKind) :
    kind.code ext codec respCodec = .of ext (kind.read ext codec) (kind.write respCodec) := by
  cases kind with
  | typed => exact Server.code_eq ext codec respCodec
  | raw => exact RawServer.code_eq ext

end ServerKind

variable {Caller Place : Type}

/-- Clients and servers of one service. With each server stands what it has done, and for each query that has come to
    it the call that it is of, if it is of one of these clients. -/
structure ServiceNetwork (Caller Place Req Resp : Type) (kinds : Place → ServerKind) where
  senders : Caller → Sender
  calls : List (ClientCall Caller Req × CallProgress Resp)
  servers : (place : Place) → Service ((kinds place).Request Req) ×
    ServicePast ((kinds place).Request Req) ((kinds place).Response Resp)
  routes : Place → List (Option Nat)

/-- A label of a server is none of an arriving query: these come from the calls, or from a stranger. -/
inductive ServiceNetworkLabel (Caller Place Req Resp : Type) (kinds : Place → ServerKind)
  | call (caller : Caller) (req : Req) (now : Int64)
  | get (index : Nat) (refused : Option String)
  | deliver (index : Nat) (place : Place) (keyExpr : Str)
  | stranger (place : Place) (keyExpr : Str) (payload attachment : Option (List UInt8))
  | serve (place : Place) (label : ServiceLabel ((kinds place).Response Resp))
  | reply (place : Place) (number : Nat)
  | errorReply (index : Nat)
  | endReplies (index : Nat)
  | take (index : Nat)

def attachmentOwner (ext : ZenohExt) (callers : Directory Caller Gid) (attachment : Option (List UInt8)) :
    Option Caller :=
  (attachment.bind (AttachmentData.fromZbytes ext)).bind fun a => callers.owner a.sourceGid

structure ServiceSetting (Caller Place Req Resp : Type) where
  ext : ZenohExt
  codec : CdrEncoding Req
  respCodec : CdrEncoding Resp
  callers : Directory Caller Gid
  kinds : Place → ServerKind

namespace ServiceNetwork

variable {kinds : Place → ServerKind}

def setProgress (network : ServiceNetwork Caller Place Req Resp kinds) (index : Nat) (call : ClientCall Caller Req)
    (progress : CallProgress Resp) : ServiceNetwork Caller Place Req Resp kinds :=
  { network with calls := network.calls.set index (call, progress) }

def onReplies (network : ServiceNetwork Caller Place Req Resp kinds) (index : Nat)
    (change : Channel GetReply → Option (CallProgress Resp)) : Option (ServiceNetwork Caller Place Req Resp kinds) :=
  network.calls[index]?.bind fun (call, progress) =>
    match progress with
    | .waiting replies => (change replies).map (network.setProgress index call)
    | _ => none

variable [DecidableEq Caller] [DecidableEq Place]

def arrive (setting : ServiceSetting Caller Place Req Resp)
    (network : ServiceNetwork Caller Place Req Resp setting.kinds) (place : Place) (keyExpr : Str)
    (payload attachment : Option (List UInt8)) (origin : Option Nat) :
    Option (ServiceNetwork Caller Place Req Resp setting.kinds) :=
  ((serving ((setting.kinds place).code setting.ext setting.codec setting.respCodec)).traced.step
    (network.servers place) (.arrive keyExpr payload attachment)).map fun after =>
    { network with
      servers := Function.update network.servers place after
      routes := Function.update network.routes place (network.routes place ++ [origin]) }

/-- A query may reach any number of servers, and a reply may come at any time, or be lost. -/
def step (setting : ServiceSetting Caller Place Req Resp)
    (network : ServiceNetwork Caller Place Req Resp setting.kinds) :
    ServiceNetworkLabel Caller Place Req Resp setting.kinds →
      Option (ServiceNetwork Caller Place Req Resp setting.kinds)
  | .call caller req now =>
    match Client.requestBytes setting.ext setting.codec (network.senders caller) req now with
    | (.error _, _) => some network
    | (.ok (payload, attachment), sender) =>
      some { network with
        senders := Function.update network.senders caller sender
        calls := network.calls ++
          [(⟨caller, req, ⟨sender.sourceGid, sender.seq⟩, payload, attachment⟩, .prepared)] }
  | .get index refused =>
    network.calls[index]?.bind fun (call, progress) =>
      match progress with
      | .prepared => some (network.setProgress index call
          (refused.elim (.waiting (Channel.new none)) fun reason => .returned (.error (.zenoh reason))))
      | _ => none
  | .deliver index place keyExpr =>
    network.calls[index]?.bind fun (call, progress) =>
      match progress with
      | .prepared => none
      | _ => network.arrive setting place keyExpr (some call.payload) (some call.attachment) (some index)
  | .stranger place keyExpr payload attachment =>
    if (attachmentOwner setting.ext setting.callers attachment).isSome then none
    else network.arrive setting place keyExpr payload attachment none
  | .serve place label =>
    if label.arrives then none
    else ((serving ((setting.kinds place).code setting.ext setting.codec setting.respCodec)).traced.step
      (network.servers place) label).map fun after =>
      { network with servers := Function.update network.servers place after }
  | .reply place number =>
    (network.servers place).1.replies[number]?.bind fun reply =>
      (network.routes place)[reply.query.identity]?.join.bind fun index =>
        network.onReplies index fun replies => some (.waiting (replies.offer (.sample reply.payload)))
  | .errorReply index => network.onReplies index fun replies => some (.waiting (replies.offer .error))
  | .endReplies index => network.onReplies index fun replies => some (.waiting replies.close)
  | .take index =>
    network.onReplies index fun replies =>
      (Client.turn setting.respCodec replies).map fun (rest, result) => result.elim (.waiting rest) .returned

end ServiceNetwork

def serviceNetwork [DecidableEq Caller] [DecidableEq Place] (setting : ServiceSetting Caller Place Req Resp) :
    System (ServiceNetwork Caller Place Req Resp setting.kinds)
      (ServiceNetworkLabel Caller Place Req Resp setting.kinds) where
  initial := {
    senders := fun caller => ⟨0, setting.callers.name caller⟩
    calls := []
    servers := fun place =>
      (serving ((setting.kinds place).code setting.ext setting.codec setting.respCodec)).traced.initial
    routes := fun _ => [] }
  step := ServiceNetwork.step setting

def ServiceNetwork.roomy {kinds : Place → ServerKind} (network : ServiceNetwork Caller Place Req Resp kinds) :
    ServiceNetworkLabel Caller Place Req Resp kinds → Bool
  | .call caller _ _ => (network.senders caller).seq.toInt + 1 < 2 ^ 63
  | _ => true

end Ros2Client.Zenoh
