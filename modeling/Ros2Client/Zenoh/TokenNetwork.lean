import Ros2Client.Transition.KeyedUpdates
import Ros2Client.Zenoh.GraphHistory
import Ros2Client.Zenoh.Identities

open Text Transition

namespace Ros2Client

inductive SampleKind
  | put
  | delete
deriving DecidableEq

structure TokenSample where
  key : Str
  kind : SampleKind
deriving DecidableEq

def graphCacheKeyexpr (domainId : UInt16) : Str :=
  ['/'].intercalate [adminSpace, decimal domainId.toNat, "**".toList]

/-- Whether an expression that ends with `**` matches a key. The key has no chunk that only its own text matches behind
    the ones that the expression spells out. -/
def matchesSubtree (keyexpr key : Str) : Bool := (keyexpr.take (keyexpr.length - 2)).isPrefixOf key

/-- The callback of the liveliness subscriber of a context. -/
def GraphCache.onSample (cache : GraphCache) (sample : TokenSample) : GraphCache :=
  match sample.kind with
  | .put => cache.applyPut sample.key
  | .delete => cache.applyDelete sample.key

def GraphOp.ofApplication : GraphOp → Bool
  | .put _ | .delete _ => false
  | _ => true

def Matched (text : Str) : Prop := text.head? ≠ some '@'

instance (text : Str) : Decidable (Matched text) := inferInstanceAs (Decidable (text.head? ≠ some '@'))

/-- The topics that exist in a run of the program: all of them come from `create_topic`. -/
def ZenohTopic.Made (topic : ZenohTopic) : Prop :=
  ∃ (node : NodeName) (name : Name) (type : MessageTypeName) (qos : QosProfile),
    name.Built ∧ Matched type.ros2PackageName ∧ topic = createTopic node name type qos

def HashChunk (hash : Str) : Prop := '/' ∉ hash ∧ Matched hash

def CreateCall.Proper : CreateCall → Prop
  | .publisher topic _ | .rawPublisher topic _ | .subscription topic _ | .rawSubscription topic _ => topic.Made
  | .publisherWithTypeHash topic _ hash | .rawPublisherWithTypeHash topic _ hash => topic.Made ∧ HashChunk hash
  | .client service type | .server service type | .rawServer service type =>
    service.Built ∧ Matched type.msg.ros2PackageName
  | .rawServerWithTypeHash service type hash =>
    service.Built ∧ Matched type.msg.ros2PackageName ∧ HashChunk hash
  | .actionClient action type | .actionServer action type | .rawActionServer action type =>
    action.Built ∧ Matched type.msg.ros2PackageName
  | .rawActionServerWithTypeHashes action type hashes =>
    action.Built ∧ Matched type.msg.ros2PackageName ∧
      HashChunk hashes.sendGoal ∧ HashChunk hashes.getResult ∧ HashChunk hashes.feedbackMessage
  | .parameterServer | .parameterClient _ | .logger | .rosoutReader => True

namespace Zenoh

abbrev ProperCall := { call : CreateCall // call.Proper }

inductive TokenOwner
  | node (index : Nat)
  | entity (index : Nat)
deriving DecidableEq

/-- A context: its session, with the part that each of its entities was made from, the owners whose token is still to
    be declared, those whose token is declared, and its graph with the samples on their way to it. -/
structure GraphContext where
  session : Session
  parts : List EntityPart
  undeclared : List TokenOwner
  alive : List TokenOwner
  cache : GraphCache
  inFlight : List TokenSample

namespace GraphContext

def key (context : GraphContext) : TokenOwner → Option Str
  | .node index => context.session.nodes[index]?.map (·.node.nodeKey)
  | .entity index => context.session.entities[index]?.map (·.key)

def subscribes (context : GraphContext) (key : Str) : Bool :=
  matchesSubtree (graphCacheKeyexpr context.session.domainId) key

def send (kind : SampleKind) (key : Str) (context : GraphContext) : GraphContext :=
  if context.subscribes key then { context with inFlight := context.inFlight ++ [⟨key, kind⟩] } else context

def advance (context : GraphContext) (part : Option EntityPart) (after : Session) : GraphContext :=
  let node := context.session.nodes.length
  let entity := context.session.entities.length
  { context with
    session := after
    parts := context.parts ++ if entity < after.entities.length then part.toList else []
    undeclared := context.undeclared ++ (if node < after.nodes.length then [.node node] else []) ++
      if entity < after.entities.length then [.entity entity] else [] }

end GraphContext

variable {Message : Type}

def Session.nextPart (session : Session) : SessionLabel Message → Option EntityPart
  | .createNext index _ => session.creating[index]?.bind fun progress => progress.remaining.head?.bind Except.toOption
  | _ => none

structure GraphSetting (Message : Type) where
  xxh3 : List UInt8 → BitVec 128
  sha256 : List UInt8 → List UInt8
  ext : ZenohExt
  codec : CdrEncoding Message

/-- A `label` is none of a call that creates entities: these are `create`. An `op` is one of the application. -/
inductive GraphNetworkLabel (Message : Type)
  | openContext (domainId : UInt16) (zid : ZenohId)
  | act (context : Nat) (label : SessionLabel Message)
  | create (context node : Nat) (call : ProperCall)
  | declare (context number : Nat) (accepted : Bool)
  | undeclare (context number : Nat)
  | deliver (context number : Nat)
  | watch (context : Nat) (op : GraphOp)

def SessionLabel.creates : SessionLabel Message → Bool
  | .create _ _ => true
  | _ => false

namespace GraphNetwork

def act (setting : GraphSetting Message) (contexts : List GraphContext) (index : Nat) (label : SessionLabel Message) :
    Option (List GraphContext) :=
  contexts[index]?.bind fun context =>
    (context.session.step setting.xxh3 setting.sha256 setting.ext setting.codec label).map fun after =>
      contexts.set index (context.advance (context.session.nextPart label) after)

def tokens (contexts : List GraphContext) : List Str :=
  contexts.flatMap fun context => context.alive.filterMap context.key

/-- A new context gets the tokens that are alive, which is what its subscriber asks for. After that it gets each
    change, and the changes of one token in their order. -/
def step (setting : GraphSetting Message) (contexts : List GraphContext) :
    GraphNetworkLabel Message → Option (List GraphContext)
  | .openContext domainId zid =>
    if contexts.any fun context => context.session.zid.text = zid.text then none
    else
      let opened : GraphContext :=
        ⟨(session setting.xxh3 setting.sha256 setting.ext setting.codec domainId zid).initial, [], [], [], .new, []⟩
      let history := (tokens contexts).filter opened.subscribes
      some (contexts ++ [{ opened with inFlight := history.map fun key => ⟨key, .put⟩ }])
  | .act index label => if label.creates then none else act setting contexts index label
  | .create index node call => act setting contexts index (.create node call.1)
  | .declare index number accepted =>
    contexts[index]?.bind fun context => context.undeclared[number]?.bind fun owner =>
      (context.key owner).map fun key =>
      let context := { context with undeclared := context.undeclared.eraseIdx number }
      if accepted then
        (contexts.set index { context with alive := context.alive ++ [owner] }).map (GraphContext.send .put key)
      else contexts.set index context
  | .undeclare index number =>
    contexts[index]?.bind fun context => context.alive[number]?.bind fun owner => (context.key owner).map fun key =>
      (contexts.set index { context with alive := context.alive.eraseIdx number }).map (GraphContext.send .delete key)
  | .deliver index number =>
    contexts[index]?.bind fun context => context.inFlight[number]?.bind fun sample =>
      if (context.inFlight.take number).any fun earlier => earlier.key = sample.key then none
      else some (contexts.set index { context with
        cache := context.cache.onSample sample
        inFlight := context.inFlight.eraseIdx number })
  | .watch index op =>
    if op.ofApplication then
      contexts[index]?.map fun context => contexts.set index { context with cache := context.cache.apply op }
    else none

def roomy (contexts : List GraphContext) : GraphNetworkLabel Message → Bool
  | .act index label => contexts[index]?.all fun context => context.session.roomy label
  | _ => true

end GraphNetwork

def graphNetwork (setting : GraphSetting Message) : System (List GraphContext) (GraphNetworkLabel Message) where
  initial := []
  step := GraphNetwork.step setting

end Zenoh

end Ros2Client
