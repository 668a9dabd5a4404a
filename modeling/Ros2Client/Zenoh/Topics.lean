import Ros2Client.Transition.Feeds
import Ros2Client.Zenoh.SharedGraph

open Text Transition Wire

namespace Ros2Client

/-- The key of the messages of a part: a publisher puts on it with its hash, and a subscription listens with the
    wildcard in place of one. -/
def EntityPart.dataKey (part : EntityPart) (domainId : UInt16) (hash : Str) : Str :=
  topicKeyexpr domainId part.fqn part.ddsType hash

structure EntityPart.Plain (part : EntityPart) : Prop where
  fqn : Concrete part.fqn
  ddsType : Concrete part.ddsType
  hash : SingleChunk part.hash

variable {part part' : EntityPart}

theorem EntityPart.Plain.baseKey (plain : part.Plain) (domainId : UInt16) :
    Concrete (baseKey domainId part.fqn part.ddsType) := by
  have stripped : Concrete (stripSlashes part.fqn) := fun char member => plain.fqn char (mem_of_mem_trimMatches member)
  exact (concrete_decimal _).append (.cons rfl (stripped.append (.cons rfl plain.ddsType)))

/-- A subscription listens to the publishers of its topic. -/
theorem EntityPart.dataKey_intersects {intersects : Str → Str → Prop} (zenoh : KeyMatching intersects)
    (plain : part.Plain) (plain' : part'.Plain) (tokenable : part.Tokenable) (tokenable' : part'.Tokenable)
    (domainId domainId' : UInt16) :
    intersects (part.dataKey domainId wildcard) (part'.dataKey domainId' part'.hash) ↔
      domainId = domainId' ∧ SameUpToEnds '/' part.fqn part'.fqn ∧ part.ddsType = part'.ddsType := by
  rw [dataKey, dataKey, topicKeyexpr_eq, topicKeyexpr_eq]
  apply (zenoh.star _ _ part'.hash (plain.baseKey domainId) (plain'.baseKey domainId') plain'.hash).trans
  rw [← baseKey_inj tokenable.type tokenable'.type]
  exact zenoh.concrete _ _ (plain.baseKey domainId) (plain'.baseKey domainId')

namespace Zenoh

structure MessageInfo where
  sourceTimestampNanos : Int64
  sequenceNumber : Int64
  sourceGid : Gid
deriving DecidableEq

inductive TakeError
  | cdr (error : CdrError)
  | attachment
  | closed
deriving DecidableEq

variable {Message : Type}

/-- A message without an attachment is not one of ROS, and has the default information. -/
def messageInfoFrom (ext : ZenohExt) (attachment : Option (List UInt8)) : Except TakeError MessageInfo :=
  match attachment with
  | some zbytes =>
    match AttachmentData.fromZbytes ext zbytes with
    | some a => .ok ⟨a.sourceTimestamp, a.sequenceNumber, a.sourceGid⟩
    | none => .error .attachment
  | none => .ok ⟨0, 0, octetGid 0⟩

def Subscription.decode (ext : ZenohExt) (codec : CdrEncoding Message) (payload : List UInt8)
    (attachment : Option (List UInt8)) : Except TakeError (Message × MessageInfo) := do
  let msg ← (fromCdr codec payload).mapError .cdr
  let info ← messageInfoFrom ext attachment
  return (msg, info)

def Subscription.takeRawKeyed (ext : ZenohExt) (keyExpr : Str) (payload : List UInt8)
    (attachment : Option (List UInt8)) : Except TakeError (Str × List UInt8 × MessageInfo) := do
  let info ← messageInfoFrom ext attachment
  return (keyExpr, payload, info)

structure TopicSample where
  place : Nat
  keyExpr : Str
  message : Outgoing

def TopicSample.publisher (sample : TopicSample) : Nat × Nat := (sample.place, sample.message.entity)

structure TopicSubscription where
  domainId : UInt16
  part : EntityPart
  opened : Bool
  feed : Feed TopicSample

def TopicSubscription.keyExpr (subscription : TopicSubscription) : Str :=
  subscription.part.dataKey subscription.domainId wildcard

structure TopicSetting (Message : Type) extends GraphSetting Message where
  intersects : Str → Str → Bool

def TopicSubscription.hear (intersects : Str → Str → Bool) (sample : TopicSample) (subscription : TopicSubscription) :
    TopicSubscription :=
  if subscription.opened && intersects subscription.keyExpr sample.keyExpr then
    { subscription with feed := subscription.feed.send sample }
  else subscription

structure TopicNetwork where
  contexts : List GraphContext
  subscriptions : List TopicSubscription

/-- Between the subscriber of Zenoh and the call that opens it there is no entity yet, so a subscription stands for
    itself: it is opened for the next part of a call. -/
inductive TopicNetworkLabel (Message : Type)
  | graph (label : GraphNetworkLabel Message)
  | subscribe (place progress : Nat)
  | unsubscribe (number : Nat)
  | arrive (number sample : Nat)
  | lose (number sample : Nat)
  | take (number : Nat)

namespace TopicNetwork

def putting (contexts : List GraphContext) : GraphNetworkLabel Message → Option TopicSample
  | .act place (.put index true) => do
    let context ← contexts[place]?
    let message ← context.session.outgoing[index]?
    let entity ← context.session.entities[message.entity]?
    let part ← context.parts[message.entity]?
    if entity.kind = .publisher then some ⟨place, part.dataKey context.session.domainId part.hash, message⟩ else none
  | _ => none

def opening (context : GraphContext) (progress : Nat) : Option TopicSubscription :=
  context.session.creating[progress]?.bind fun progress => progress.remaining.head?.bind fun part =>
    match part with
    | .ok part => if part.kind = .subscription then some ⟨context.session.domainId, part, true, .empty⟩ else none
    | .error _ => none

def onFeed (network : TopicNetwork) (number : Nat) (change : Feed TopicSample → Option (Feed TopicSample)) :
    Option TopicNetwork :=
  network.subscriptions[number]?.bind fun subscription => (change subscription.feed).map fun feed =>
    { network with subscriptions := network.subscriptions.set number { subscription with feed } }

def step (setting : TopicSetting Message) (network : TopicNetwork) : TopicNetworkLabel Message → Option TopicNetwork
  | .graph label =>
    (GraphNetwork.step setting.toGraphSetting network.contexts label).map fun contexts =>
      { contexts
        subscriptions := match putting network.contexts label with
          | some sample => network.subscriptions.map (TopicSubscription.hear setting.intersects sample)
          | none => network.subscriptions }
  | .subscribe place progress =>
    network.contexts[place]?.bind fun context => (opening context progress).map fun subscription =>
      { network with subscriptions := network.subscriptions ++ [subscription] }
  | .unsubscribe number =>
    network.subscriptions[number]?.map fun subscription =>
      { network with subscriptions := network.subscriptions.set number { subscription with opened := false } }
  | .arrive number sample => network.onFeed number (·.arrive TopicSample.publisher sample)
  | .lose number sample => network.onFeed number (·.lose sample)
  | .take number => network.onFeed number Feed.take

def roomy (network : TopicNetwork) : TopicNetworkLabel Message → Bool
  | .graph label => GraphNetwork.roomy network.contexts label
  | _ => true

end TopicNetwork

def topicNetwork (setting : TopicSetting Message) : System TopicNetwork (TopicNetworkLabel Message) where
  initial := ⟨[], []⟩
  step := TopicNetwork.step setting

end Zenoh

end Ros2Client
