import Ros2Client.Zenoh.DataPlane

namespace Ros2Client

/-- One entity that a call on a node creates: what its token says beside the ids. -/
structure EntityPart where
  kind : EntityKind
  fqn : Str
  ddsType : Str
  hash : Str
  qos : QosProfile
  notNode : kind ≠ .node

structure ActionTypeHashes where
  sendGoal : Str
  getResult : Str
  feedbackMessage : Str

def createPublisherWithTypeHash (topic : ZenohTopic) (qos : Option QosProfile) (hash : Str) : EntityPart :=
  ⟨.publisher, topic.fullyQualifiedName, topic.ddsTypeName, hash, qos.getD topic.qos, nofun⟩

def createRawServerWithTypeHash (node : NodeName) (service : Name) (type : ServiceTypeName) (hash : Str) :
    EntityPart :=
  ⟨.serviceServer, resolveFqn service node, type.ddsServiceType, hash, .subscriptionDefault, nofun⟩

def actionStatusTopic (fqn : Str) (node : NodeName) : Except NameError ZenohTopic :=
  (actionSubName fqn "status".toList).map fun name =>
    createTopic node name (.new "action_msgs".toList "GoalStatusArray".toList) .subscriptionDefault

def actionFeedbackTopic (fqn : Str) (node : NodeName) (type : ActionTypeName) : Except NameError ZenohTopic :=
  (actionSubName fqn "feedback".toList).map fun name =>
    createTopic node name (type.ddsActionTopic "_FeedbackMessage".toList) .subscriptionDefault

def cancelGoalType : ServiceTypeName := .new "action_msgs".toList "CancelGoal".toList

def rosoutTopic (node : NodeName) : Except NameError ZenohTopic :=
  (Name.new "/".toList "rosout".toList).map fun name =>
    createTopic node name (.new "rcl_interfaces".toList "Log".toList) .subscriptionDefault

def parameterType (type : String) : ServiceTypeName := .new "rcl_interfaces".toList type.toList

section

variable (sha256 : List UInt8 → List UInt8) (node : NodeName)

def createPublisher (topic : ZenohTopic) (qos : Option QosProfile) : EntityPart :=
  createPublisherWithTypeHash topic qos (senderHash sha256 topic.ddsTypeName)

def createSubscription (topic : ZenohTopic) (qos : Option QosProfile) : EntityPart :=
  ⟨.subscription, topic.fullyQualifiedName, topic.ddsTypeName, senderHash sha256 topic.ddsTypeName,
    qos.getD topic.qos, nofun⟩

def createClient (service : Name) (type : ServiceTypeName) : EntityPart :=
  ⟨.serviceClient, resolveFqn service node, type.ddsServiceType, senderHash sha256 type.ddsServiceType,
    .subscriptionDefault, nofun⟩

def createServer (service : Name) (type : ServiceTypeName) : EntityPart :=
  ⟨.serviceServer, resolveFqn service node, type.ddsServiceType, senderHash sha256 type.ddsServiceType,
    .subscriptionDefault, nofun⟩

def createRawServer (service : Name) (type : ServiceTypeName) : EntityPart :=
  createRawServerWithTypeHash node service type (senderHash sha256 type.ddsServiceType)

def createActionClient (action : Name) (type : ActionTypeName) : List (Except NameError EntityPart) :=
  let fqn := resolveFqn action node
  [(actionSubName fqn "send_goal".toList).map (createClient sha256 node · (type.ddsActionService "_SendGoal".toList)),
   (actionSubName fqn "get_result".toList).map (createClient sha256 node · (type.ddsActionService "_GetResult".toList)),
   (actionFeedbackTopic fqn node type).map (createSubscription sha256 · none),
   (actionSubName fqn "cancel_goal".toList).map (createClient sha256 node · cancelGoalType),
   (actionStatusTopic fqn node).map (createSubscription sha256 · none)]

def createActionServer (action : Name) (type : ActionTypeName) : List (Except NameError EntityPart) :=
  let fqn := resolveFqn action node
  [(actionSubName fqn "send_goal".toList).map (createServer sha256 node · (type.ddsActionService "_SendGoal".toList)),
   (actionSubName fqn "get_result".toList).map (createServer sha256 node · (type.ddsActionService "_GetResult".toList)),
   (actionFeedbackTopic fqn node type).map (createPublisher sha256 · none),
   (actionSubName fqn "cancel_goal".toList).map (createServer sha256 node · cancelGoalType),
   (actionStatusTopic fqn node).map (createPublisher sha256 · none)]

def createRawActionServerWithTypeHashes (action : Name) (type : ActionTypeName) (hashes : ActionTypeHashes) :
    List (Except NameError EntityPart) :=
  let fqn := resolveFqn action node
  [(actionSubName fqn "send_goal".toList).map
      (createRawServerWithTypeHash node · (type.ddsActionService "_SendGoal".toList) hashes.sendGoal),
   (actionSubName fqn "get_result".toList).map
      (createRawServerWithTypeHash node · (type.ddsActionService "_GetResult".toList) hashes.getResult),
   (actionFeedbackTopic fqn node type).map (createPublisherWithTypeHash · none hashes.feedbackMessage),
   (actionSubName fqn "cancel_goal".toList).map (createServer sha256 node · cancelGoalType),
   (actionStatusTopic fqn node).map (createPublisher sha256 · none)]

def createRawActionServer (action : Name) (type : ActionTypeName) : List (Except NameError EntityPart) :=
  createRawActionServerWithTypeHashes sha256 node action type
    ⟨senderHash sha256 (type.ddsActionService "_SendGoal".toList).ddsServiceType,
     senderHash sha256 (type.ddsActionService "_GetResult".toList).ddsServiceType,
     senderHash sha256 (type.ddsActionTopic "_FeedbackMessage".toList).ddsMsgType⟩

def createParameterServer : List (Except NameError EntityPart) :=
  let services := [("get_parameters", "GetParameters"), ("get_parameter_types", "GetParameterTypes"),
    ("set_parameters", "SetParameters"), ("set_parameters_atomically", "SetParametersAtomically"),
    ("list_parameters", "ListParameters"), ("describe_parameters", "DescribeParameters")]
  (services.map fun (base, type) =>
    (Name.new node.fullyQualifiedName base.toList).map (createServer sha256 node · (parameterType type))) ++
  [(Name.new "/".toList "parameter_events".toList).map fun name => createPublisher sha256
    (createTopic node name (.new "rcl_interfaces".toList "ParameterEvent".toList) .subscriptionDefault) none]

def createParameterClient (remoteNode : NodeName) : List (Except NameError EntityPart) :=
  let services := [("get_parameters", "GetParameters"), ("get_parameter_types", "GetParameterTypes"),
    ("set_parameters", "SetParameters"), ("list_parameters", "ListParameters"),
    ("describe_parameters", "DescribeParameters")]
  services.map fun (base, type) =>
    (Name.new remoteNode.fullyQualifiedName base.toList).map (createClient sha256 node · (parameterType type))

def createLogger : Except NameError EntityPart := (rosoutTopic node).map (createPublisher sha256 · none)

def readRosout : Except NameError EntityPart := (rosoutTopic node).map (createSubscription sha256 · none)

end

/-- The calls on a node that create entities. A raw publisher or subscription is a typed one inside. -/
inductive CreateCall
  | publisher (topic : ZenohTopic) (qos : Option QosProfile)
  | publisherWithTypeHash (topic : ZenohTopic) (qos : Option QosProfile) (hash : Str)
  | rawPublisher (topic : ZenohTopic) (qos : Option QosProfile)
  | rawPublisherWithTypeHash (topic : ZenohTopic) (qos : Option QosProfile) (hash : Str)
  | subscription (topic : ZenohTopic) (qos : Option QosProfile)
  | rawSubscription (topic : ZenohTopic) (qos : Option QosProfile)
  | client (service : Name) (type : ServiceTypeName)
  | server (service : Name) (type : ServiceTypeName)
  | rawServer (service : Name) (type : ServiceTypeName)
  | rawServerWithTypeHash (service : Name) (type : ServiceTypeName) (hash : Str)
  | actionClient (action : Name) (type : ActionTypeName)
  | actionServer (action : Name) (type : ActionTypeName)
  | rawActionServer (action : Name) (type : ActionTypeName)
  | rawActionServerWithTypeHashes (action : Name) (type : ActionTypeName) (hashes : ActionTypeHashes)
  | parameterServer
  | parameterClient (remoteNode : NodeName)
  | logger
  | rosoutReader

/-- The entities of a call, in order. The call ends at the first name that cannot be built. -/
def CreateCall.parts (sha256 : List UInt8 → List UInt8) (node : NodeName) :
    CreateCall → List (Except NameError EntityPart)
  | .publisher topic qos => [.ok (createPublisher sha256 topic qos)]
  | .publisherWithTypeHash topic qos hash => [.ok (createPublisherWithTypeHash topic qos hash)]
  | .rawPublisher topic qos => [.ok (createPublisher sha256 topic qos)]
  | .rawPublisherWithTypeHash topic qos hash => [.ok (createPublisherWithTypeHash topic qos hash)]
  | .subscription topic qos => [.ok (createSubscription sha256 topic qos)]
  | .rawSubscription topic qos => [.ok (createSubscription sha256 topic qos)]
  | .client service type => [.ok (createClient sha256 node service type)]
  | .server service type => [.ok (createServer sha256 node service type)]
  | .rawServer service type => [.ok (createRawServer sha256 node service type)]
  | .rawServerWithTypeHash service type hash => [.ok (createRawServerWithTypeHash node service type hash)]
  | .actionClient action type => createActionClient sha256 node action type
  | .actionServer action type => createActionServer sha256 node action type
  | .rawActionServer action type => createRawActionServer sha256 node action type
  | .rawActionServerWithTypeHashes action type hashes =>
    createRawActionServerWithTypeHashes sha256 node action type hashes
  | .parameterServer => createParameterServer sha256 node
  | .parameterClient remoteNode => createParameterClient sha256 node remoteNode
  | .logger => [createLogger sha256 node]
  | .rosoutReader => [readRosout sha256 node]

end Ros2Client
