import Ros2Client.Transition.Runs
import Ros2Client.Zenoh.Creation
import Ros2Client.Zenoh.Liveliness
import Ros2Client.Zenoh.Payload

open Transition Wire

namespace Ros2Client.Zenoh

structure ZenohId where
  text : Str
  plain : '/' ∉ text

def gidFromLivelinessKey (xxh3 : List UInt8 → BitVec 128) (key : Str) : Gid :=
  ⟨encodeOctets 16 (xxh3 (asBytes key)).toNat, length_encodeOctets 16 _⟩

structure Sender where
  seq : Int64
  sourceGid : Gid

def Sender.attachment (ext : ZenohExt) (sender : Sender) (now : Int64) : List UInt8 × Sender :=
  let sequenceNumber := sender.seq + 1
  (AttachmentData.toZbytes ext ⟨sequenceNumber, now, sender.sourceGid⟩, { sender with seq := sequenceNumber })

variable {Message : Type}

def Publisher.encode (ext : ZenohExt) (codec : CdrEncoding Message) (publisher : Sender) (msg : Message) (now : Int64) :
    Except CdrError (List UInt8 × List UInt8) × Sender :=
  match toCdr codec msg with
  | .error error => (.error error, publisher)
  | .ok payload =>
    let (attachment, publisher) := publisher.attachment ext now
    (.ok (payload, attachment), publisher)

def Publisher.publishRaw (ext : ZenohExt) (publisher : Sender) (cdrBytes : List UInt8) (now : Int64) :
    Except CdrError (List UInt8 × List UInt8) × Sender :=
  let (attachment, publisher) := publisher.attachment ext now
  (.ok (cdrBytes, attachment), publisher)

def RawPublisher.publish (ext : ZenohExt) (publisher : Sender) (cdrMessage : List UInt8) (now : Int64) :
    Except CdrError (List UInt8 × List UInt8) × Sender :=
  let (attachment, publisher) := publisher.attachment ext now
  (.ok (cdrMessage, attachment), publisher)

def Client.requestBytes (ext : ZenohExt) (codec : CdrEncoding Message) (client : Sender) (req : Message) (now : Int64) :
    Except CdrError (List UInt8 × List UInt8) × Sender :=
  match toCdr codec req with
  | .error error => (.error error, client)
  | .ok payload =>
    let (attachment, client) := client.attachment ext now
    (.ok (payload, attachment), client)

inductive SendCall (Message : Type)
  | publish (msg : Message)
  | publishRaw (cdrBytes : List UInt8)
  | rawPublish (cdrMessage : List UInt8)
  | call (req : Message)

def SendCall.kind : SendCall Message → EntityKind
  | .call _ => .serviceClient
  | _ => .publisher

def SendCall.encode (ext : ZenohExt) (codec : CdrEncoding Message) (sender : Sender) (now : Int64) :
    SendCall Message → Except CdrError (List UInt8 × List UInt8) × Sender
  | .publish msg => Publisher.encode ext codec sender msg now
  | .publishRaw cdrBytes => Publisher.publishRaw ext sender cdrBytes now
  | .rawPublish cdrMessage => RawPublisher.publish ext sender cdrMessage now
  | .call req => Client.requestBytes ext codec sender req now

structure SessionNode where
  node : ZenohNode
  nextEntityId : UInt64

structure SessionEntity where
  node : Nat
  entityId : UInt64
  kind : EntityKind
  key : Str
  sender : Sender
  /-- The numbers that have been drawn, in order. -/
  drawn : List Int64

/-- A message with its attachment, and who drew which number for it. -/
structure Outgoing where
  entity : Nat
  number : Int64
  payload : List UInt8
  attachment : List UInt8

structure Creating where
  node : Nat
  remaining : List (Except NameError EntityPart)

structure Session where
  domainId : UInt16
  zid : ZenohId
  nextNodeId : UInt64
  nodes : List SessionNode
  creating : List Creating
  entities : List SessionEntity
  /-- The messages that have a number and are not handed to Zenoh yet. -/
  outgoing : List Outgoing
  sent : List Outgoing

/-- A step of the session does one access to one of the counters, or none. -/
inductive SessionLabel (Message : Type)
  | newNode (name : NodeName)
  | create (node : Nat) (call : CreateCall)
  | createNext (index : Nat) (declared : Bool)
  | send (entity : Nat) (call : SendCall Message) (now : Int64)
  | put (index : Nat) (accepted : Bool)

def Session.newNode (session : Session) (name : NodeName) : Session :=
  { session with
    nextNodeId := session.nextNodeId + 1
    nodes := session.nodes ++ [⟨⟨session.domainId, session.zid.text, name, session.nextNodeId⟩, 0⟩] }

def Session.createEntity (xxh3 : List UInt8 → BitVec 128) (session : Session) (index : Nat) (owner : SessionNode)
    (part : EntityPart) : Session :=
  let entityId := owner.nextEntityId
  let key := owner.node.livelinessKey entityId part.kind part.fqn part.ddsType part.hash part.qos
  { session with
    nodes := session.nodes.set index { owner with nextEntityId := entityId + 1 }
    entities := session.entities ++
      [⟨index, entityId, part.kind, key, ⟨0, gidFromLivelinessKey xxh3 key⟩, []⟩] }

/-- The next entity of a call. Only a client needs nothing of Zenoh that could be refused. -/
def Session.createNext (xxh3 : List UInt8 → BitVec 128) (session : Session) (index : Nat) (progress : Creating)
    (declared : Bool) : Option Session :=
  match progress.remaining with
  | .ok part :: rest =>
    if part.kind ≠ .serviceClient ∧ declared = false then
      some { session with creating := session.creating.eraseIdx index }
    else
      session.nodes[progress.node]?.map fun owner =>
        Session.createEntity xxh3
          { session with creating := session.creating.set index { progress with remaining := rest } }
          progress.node owner part
  | _ => some { session with creating := session.creating.eraseIdx index }

def Session.send (ext : ZenohExt) (codec : CdrEncoding Message) (session : Session) (index : Nat)
    (entity : SessionEntity) (call : SendCall Message) (now : Int64) : Session :=
  match call.encode ext codec entity.sender now with
  | (.error _, _) => session
  | (.ok (payload, attachment), sender) =>
    { session with
      entities := session.entities.set index { entity with sender := sender, drawn := entity.drawn ++ [sender.seq] }
      outgoing := session.outgoing ++ [⟨index, sender.seq, payload, attachment⟩] }

def Session.step (xxh3 : List UInt8 → BitVec 128) (sha256 : List UInt8 → List UInt8) (ext : ZenohExt)
    (codec : CdrEncoding Message) (session : Session) : SessionLabel Message → Option Session
  | .newNode name => some (session.newNode name)
  | .create node call =>
    session.nodes[node]?.map fun owner =>
      { session with creating := session.creating ++ [⟨node, call.parts sha256 owner.node.nodeName⟩] }
  | .createNext index declared =>
    session.creating[index]?.bind fun progress => session.createNext xxh3 index progress declared
  | .send index call now =>
    session.entities[index]?.bind fun entity =>
      if entity.kind = call.kind then some (session.send ext codec index entity call now) else none
  | .put index accepted =>
    session.outgoing[index]?.map fun message =>
      { session with
        outgoing := session.outgoing.eraseIdx index
        sent := if accepted then session.sent ++ [message] else session.sent }

def session (xxh3 : List UInt8 → BitVec 128) (sha256 : List UInt8 → List UInt8) (ext : ZenohExt)
    (codec : CdrEncoding Message) (domainId : UInt16) (zid : ZenohId) : System Session (SessionLabel Message) where
  initial := ⟨domainId, zid, 0, [], [], [], [], []⟩
  step := Session.step xxh3 sha256 ext codec

def Session.roomy (session : Session) : SessionLabel Message → Bool
  | .newNode _ => session.nextNodeId.toNat + 1 < UInt64.size
  | .createNext index _ =>
    (session.creating[index]?.bind fun progress => session.nodes[progress.node]?).all fun owner =>
      owner.nextEntityId.toNat + 1 < UInt64.size
  | .send index _ _ => session.entities[index]?.all fun entity => entity.sender.seq.toInt + 1 < 2 ^ 63
  | _ => true

end Ros2Client.Zenoh
