import Ros2Client.Names.Resolution
import Ros2Client.Names.TypeName
import Ros2Client.Zenoh.GraphCache
import Ros2Client.Zenoh.QosEncoding

open Text

namespace Ros2Client

structure ZenohNode where
  domainId : UInt16
  zid : Str
  nodeName : NodeName
  nodeId : UInt64

def ZenohNode.ids (node : ZenohNode) (entityId : UInt64) : EntityIds where
  sessionId := node.zid
  nodeId := node.nodeId
  entityId := entityId
  enclave := []
  nodeNamespace := node.nodeName.nodeNamespace
  nodeName := node.nodeName.baseName

def ZenohNode.nodeKey (node : ZenohNode) : Str := nodeLivelinessKeyexpr node.domainId (node.ids node.nodeId)

def ZenohNode.livelinessKey (node : ZenohNode) (entityId : UInt64) (kind : EntityKind)
    (fqn ddsType hash : Str) (qos : QosProfile) : Str :=
  entityLivelinessKeyexpr node.domainId (node.ids entityId) kind fqn ddsType hash (encodeQos qos)

theorem isNameChar_ne {char other : Char} (named : isNameChar char = true) (unnamed : isNameChar other = false) :
    char ≠ other := by
  intro same
  subst same
  simp [unnamed] at named

theorem NodeName.percent_not_mem_namespace (node : NodeName) : '%' ∉ node.nodeNamespace := by
  intro member
  rcases (NodeName.check_ok node.checked).2.2.2.1 _ member with named | slash
  · exact isNameChar_ne named (by decide) rfl
  · cases slash

theorem NodeName.namespace_ne_nil (node : NodeName) : node.nodeNamespace ≠ [] := by
  rw [node.namespace_eq]
  simp

theorem NodeName.percent_not_mem_baseName (node : NodeName) : '%' ∉ node.baseName := by
  intro member
  exact isNameChar_ne ((NodeName.check_ok node.checked).2.1 _ member) (by decide) rfl

theorem percent_not_mem_resolveFqn {name : Name} (valid : name.Valid) (node : NodeName) :
    '%' ∉ resolveFqn name node := by
  intro member
  rcases resolveFqn_chars valid node _ member with named | slash
  · exact isNameChar_ne named (by decide) rfl
  · cases slash

theorem resolveFqn_ne_nil (name : Name) (node : NodeName) : resolveFqn name node ≠ [] := by
  rw [resolveFqn_eq]
  simp

theorem NodeName.joinFqn_eq (node : NodeName) :
    joinFqn node.nodeNamespace node.baseName = node.fullyQualifiedName := by
  have closed := (NodeName.check_ok node.checked).2.2.2.2
  unfold joinFqn NodeName.fullyQualifiedName
  by_cases root : node.nodeNamespace = ['/']
  · simp [root]
  · have unclosed : node.nodeNamespace.getLast? ≠ some '/' := fun ends => root (closed ends)
    simp [root, unclosed, node.namespace_ne_nil]

theorem parse_nodeKey (node : ZenohNode) (session : '/' ∉ node.zid) :
    parseLivelinessKey node.nodeKey = some ⟨node.domainId, node.zid, node.nodeId, node.nodeId, .node,
      node.nodeName.nodeNamespace, node.nodeName.baseName, none, none, none, none⟩ := by
  have base := (NodeName.check_ok node.nodeName.checked).1
  rw [ZenohNode.nodeKey, parse_nodeLivelinessKeyexpr _ session]
  simp [ZenohNode.ids, demangle_mangle node.nodeName.namespace_ne_nil node.nodeName.percent_not_mem_namespace,
    demangle_mangle base node.nodeName.percent_not_mem_baseName]

theorem parse_livelinessKey (node : ZenohNode) (entityId : UInt64) (kind : EntityKind) {name : Name}
    (type : EndpointType) {hash : Str} (qos : QosProfile) (session : '/' ∉ node.zid) (valid : name.Valid)
    (chunk : '/' ∉ hash) :
    parseLivelinessKey
        (node.livelinessKey entityId kind (resolveFqn name node.nodeName) type.ddsType hash qos) =
      some ⟨node.domainId, node.zid, node.nodeId, entityId, kind, node.nodeName.nodeNamespace,
        node.nodeName.baseName, described kind (resolveFqn name node.nodeName),
        described kind type.ddsType, described kind hash, described kind (encodeQos qos)⟩ := by
  have base := (NodeName.check_ok node.nodeName.checked).1
  rw [ZenohNode.livelinessKey, parse_entityLivelinessKeyexpr _ _ _ session type.slash_not_mem_ddsType chunk
    (slash_not_mem_encodeQos qos)]
  simp [ZenohNode.ids, demangle_mangle node.nodeName.namespace_ne_nil node.nodeName.percent_not_mem_namespace,
    demangle_mangle base node.nodeName.percent_not_mem_baseName,
    demangle_mangle (resolveFqn_ne_nil name node.nodeName) (percent_not_mem_resolveFqn valid node.nodeName)]

theorem liveliness_tokens_survive (node : ZenohNode) (entityId : UInt64) (kind : EntityKind) (name : Name)
    (type : EndpointType) (hash : Str) (qos : QosProfile) (session : '/' ∉ node.zid) (built : name.Built)
    (chunk : '/' ∉ hash) :
    (∃ entity, parseLivelinessKey node.nodeKey = some entity ∧
      entity = ⟨node.domainId, node.zid, node.nodeId, node.nodeId, .node, node.nodeName.nodeNamespace,
        node.nodeName.baseName, none, none, none, none⟩ ∧
      (GraphEntity.ofParsed entity).nodeName = node.nodeName.fullyQualifiedName) ∧
    (∃ entity, parseLivelinessKey
        (node.livelinessKey entityId kind (resolveFqn name node.nodeName) type.ddsType hash qos) = some entity ∧
      entity = ⟨node.domainId, node.zid, node.nodeId, entityId, kind, node.nodeName.nodeNamespace,
        node.nodeName.baseName, described kind (resolveFqn name node.nodeName),
        described kind type.ddsType, described kind hash, described kind (encodeQos qos)⟩ ∧
      (GraphEntity.ofParsed entity).nodeName = node.nodeName.fullyQualifiedName) := by
  refine ⟨⟨_, parse_nodeKey node session, rfl, ?_⟩, ⟨_, parse_livelinessKey node entityId kind type qos session
    built.valid chunk, rfl, ?_⟩⟩
  · exact node.nodeName.joinFqn_eq
  · exact node.nodeName.joinFqn_eq

def talkerNode : ZenohNode := ⟨0, "aac3178e146ba6f1fc6e6a4085e77f21".toList, nestedNode, 3⟩

theorem liveliness_tokens_survive_talker :
    ∃ entity, parseLivelinessKey (talkerNode.livelinessKey 10 .publisher (resolveFqn chatter nestedNode)
        (EndpointType.message (.new "std_msgs".toList "String".toList)).ddsType "RIHS01_df66".toList
        .subscriptionDefault) = some entity ∧
      entity.topicName = some "/robot1/chatter".toList ∧
      entity.typeName = some "std_msgs::msg::dds_::String_".toList ∧
      (GraphEntity.ofParsed entity).nodeName = "/robot1/talker".toList := by
  have built : Name.new [] "chatter".toList = .ok chatter := by decide
  obtain ⟨_, entity, parsed, rfl, _⟩ := liveliness_tokens_survive talkerNode 10 .publisher chatter
    (.message (.new "std_msgs".toList "String".toList)) "RIHS01_df66".toList .subscriptionDefault (by decide)
    (.new built) (by decide)
  exact ⟨_, parsed, by decide⟩

end Ros2Client
