import Ros2Client.Zenoh.TokenNetwork

open Text Transition

namespace Ros2Client

structure EntityPart.Tokenable (part : EntityPart) : Prop where
  present : part.fqn ≠ []
  unmangled : '%' ∉ part.fqn
  type : '/' ∉ part.ddsType
  hash : '/' ∉ part.hash

def AllTokenable (parts : List (Except NameError EntityPart)) : Prop :=
  ∀ made ∈ parts, ∀ part, made = .ok part → part.Tokenable

variable {sha256 : List UInt8 → List UInt8} {node : NodeName} {hash : Str} {qos : Option QosProfile}

theorem ZenohTopic.Made.tokenable {topic : ZenohTopic} (made : topic.Made) {kind : EntityKind} {profile : QosProfile}
    {notNode : kind ≠ .node} (chunk : '/' ∉ hash) :
    EntityPart.Tokenable ⟨kind, topic.fullyQualifiedName, topic.ddsTypeName, hash, profile, notNode⟩ := by
  obtain ⟨node, name, type, qos, built, _, rfl⟩ := made
  exact ⟨resolveFqn_ne_nil name node, percent_not_mem_resolveFqn built.valid node,
    type.slash_not_mem_ddsMsgType, chunk⟩

theorem Name.Valid.tokenable {name : Name} (valid : name.Valid) {type : ServiceTypeName} {kind : EntityKind}
    {profile : QosProfile} {notNode : kind ≠ .node} (chunk : '/' ∉ hash) :
    EntityPart.Tokenable ⟨kind, resolveFqn name node, type.ddsServiceType, hash, profile, notNode⟩ :=
  ⟨resolveFqn_ne_nil name node, percent_not_mem_resolveFqn valid node, type.slash_not_mem_ddsServiceType, chunk⟩

theorem createTopic_made {name : Name} {type : MessageTypeName} {profile : QosProfile} (built : name.Built)
    (matched : Matched type.ros2PackageName) : (createTopic node name type profile).Made :=
  ⟨node, name, type, profile, built, matched, rfl⟩

theorem allTokenable_single {part : EntityPart} (tokenable : part.Tokenable) : AllTokenable [.ok part] := by
  intro made member other same
  rw [List.mem_singleton.mp member] at same
  cases same
  exact tokenable

theorem allTokenable_cons {made : Except NameError EntityPart} {rest : List (Except NameError EntityPart)}
    (first : ∀ part, made = .ok part → part.Tokenable) (others : AllTokenable rest) : AllTokenable (made :: rest) :=
  List.forall_mem_cons.mpr ⟨first, others⟩

theorem allTokenable_nil : AllTokenable [] := by
  intro made member
  cases member

/-- A part made from a name that is built on the way. -/
theorem tokenable_of_map {α : Type} {built : Except NameError α} {make : α → EntityPart}
    (tokenable : ∀ made, built = .ok made → (make made).Tokenable) :
    ∀ part, built.map make = .ok part → part.Tokenable := by
  intro part mapped
  cases built with
  | error => cases mapped
  | ok made =>
    cases mapped
    exact tokenable made rfl

theorem topic_tokenable {built : Except NameError Name} {type : MessageTypeName} {profile : QosProfile}
    {make : ZenohTopic → EntityPart} (valid : ∀ name, built = .ok name → name.Built)
    (matched : Matched type.ros2PackageName) (tokenable : ∀ topic : ZenohTopic, topic.Made → (make topic).Tokenable) :
    ∀ part, (built.map fun name => createTopic node name type profile).map make = .ok part → part.Tokenable := by
  apply tokenable_of_map
  intro topic made
  cases built with
  | error => cases made
  | ok name =>
    cases made
    exact tokenable _ (createTopic_made (valid name rfl) matched)

/-- The endpoints of an action, in the order in which all kinds of clients and servers are made. -/
theorem action_tokenable {fqn : Str} {type : ActionTypeName} {sendGoal getResult cancelGoal : Name → EntityPart}
    {feedback status : ZenohTopic → EntityPart} (matched : Matched type.msg.ros2PackageName)
    (goal : ∀ name, name.Built → (sendGoal name).Tokenable)
    (result : ∀ name, name.Built → (getResult name).Tokenable)
    (cancel : ∀ name, name.Built → (cancelGoal name).Tokenable)
    (heard : ∀ topic : ZenohTopic, topic.Made → (feedback topic).Tokenable)
    (told : ∀ topic : ZenohTopic, topic.Made → (status topic).Tokenable) :
    AllTokenable [(actionSubName fqn "send_goal".toList).map sendGoal,
      (actionSubName fqn "get_result".toList).map getResult,
      (actionFeedbackTopic fqn node type).map feedback, (actionSubName fqn "cancel_goal".toList).map cancelGoal,
      (actionStatusTopic fqn node).map status] := by
  apply allTokenable_cons (tokenable_of_map fun name made => goal name (.new made))
  apply allTokenable_cons (tokenable_of_map fun name made => result name (.new made))
  apply allTokenable_cons
  · have matched : Matched (type.ddsActionTopic "_FeedbackMessage".toList).ros2PackageName := matched
    exact topic_tokenable (fun _ => .new) matched heard
  apply allTokenable_cons (tokenable_of_map fun name made => cancel name (.new made))
  exact allTokenable_cons (topic_tokenable (fun _ => .new) (by decide) told) allTokenable_nil

theorem CreateCall.Proper.allTokenable {call : CreateCall} (proper : call.Proper) :
    AllTokenable (call.parts sha256 node) := by
  have sent := slash_not_mem_senderHash sha256
  cases call with
  | publisher topic qos | rawPublisher topic qos | subscription topic qos | rawSubscription topic qos =>
    exact allTokenable_single (proper.tokenable (sent _))
  | publisherWithTypeHash topic qos hash | rawPublisherWithTypeHash topic qos hash =>
    exact allTokenable_single (proper.1.tokenable proper.2.1)
  | client service type | server service type | rawServer service type =>
    exact allTokenable_single (proper.1.valid.tokenable (sent _))
  | rawServerWithTypeHash service type hash =>
    exact allTokenable_single (proper.1.valid.tokenable proper.2.2.1)
  | actionClient action type | actionServer action type | rawActionServer action type =>
    apply action_tokenable proper.2
    · exact fun name built => built.valid.tokenable (sent _)
    · exact fun name built => built.valid.tokenable (sent _)
    · exact fun name built => built.valid.tokenable (sent _)
    · exact fun topic made => made.tokenable (sent _)
    · exact fun topic made => made.tokenable (sent _)
  | rawActionServerWithTypeHashes action type hashes =>
    obtain ⟨_, matched, goal, result, feedback⟩ := proper
    apply action_tokenable matched
    · exact fun name built => built.valid.tokenable goal.1
    · exact fun name built => built.valid.tokenable result.1
    · exact fun name built => built.valid.tokenable (sent _)
    · exact fun topic made => made.tokenable feedback.1
    · exact fun topic made => made.tokenable (sent _)
  | parameterServer =>
    unfold CreateCall.parts createParameterServer AllTokenable
    rw [List.forall_mem_append, List.forall_mem_map]
    constructor
    · intro service _
      exact tokenable_of_map fun name made => (Name.new_valid made).tokenable (sent _)
    · refine allTokenable_cons ?_ allTokenable_nil
      apply tokenable_of_map
      intro name made
      exact (createTopic_made (.new made) (by decide)).tokenable (sent _)
  | parameterClient remoteNode =>
    unfold CreateCall.parts createParameterClient AllTokenable
    rw [List.forall_mem_map]
    intro service _
    exact tokenable_of_map fun name made => (Name.new_valid made).tokenable (sent _)
  | logger | rosoutReader =>
    refine allTokenable_cons ?_ allTokenable_nil
    exact topic_tokenable (fun _ => .new) (by decide) fun topic made => made.tokenable (sent _)

end Ros2Client
