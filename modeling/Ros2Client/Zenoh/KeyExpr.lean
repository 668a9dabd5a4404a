import Ros2Client.Text.Str

open Text

namespace Ros2Client

def adminSpace : Str := "@ros2_lv".toList

inductive EntityKind
  | node
  | publisher
  | subscription
  | serviceServer
  | serviceClient
deriving DecidableEq

def EntityKind.code : EntityKind → Str
  | .node => "NN".toList
  | .publisher => "MP".toList
  | .subscription => "MS".toList
  | .serviceServer => "SS".toList
  | .serviceClient => "SC".toList

def mangle (name : Str) : Str := if name = [] then "%".toList else replace '/' "%".toList name

def demangle (name : Str) : Str := replace '%' "/".toList name

def stripSlashes (fqName : Str) : Str := trimMatches '/' fqName

def topicKeyexpr (domainId : UInt16) (fqName typeName typeHash : Str) : Str :=
  ['/'].intercalate [decimal domainId.toNat, stripSlashes fqName, typeName, typeHash]

structure EntityIds where
  sessionId : Str
  nodeId : UInt64
  entityId : UInt64
  enclave : Str
  nodeNamespace : Str
  nodeName : Str

/-- The token of a node, whose own id stands where other tokens have the id of the entity. -/
def nodeLivelinessKeyexpr (domainId : UInt16) (ids : EntityIds) : Str :=
  ['/'].intercalate [adminSpace, decimal domainId.toNat, ids.sessionId, decimal ids.nodeId.toNat,
    decimal ids.nodeId.toNat, EntityKind.node.code, mangle ids.enclave, mangle ids.nodeNamespace,
    mangle ids.nodeName]

def entityLivelinessKeyexpr (domainId : UInt16) (ids : EntityIds) (kind : EntityKind)
    (qualifiedName typeName typeHash qos : Str) : Str :=
  ['/'].intercalate [adminSpace, decimal domainId.toNat, ids.sessionId, decimal ids.nodeId.toNat,
    decimal ids.entityId.toNat, kind.code, mangle ids.enclave, mangle ids.nodeNamespace,
    mangle ids.nodeName, mangle qualifiedName, typeName, typeHash, qos]

structure ParsedEntity where
  domainId : UInt16
  zid : Str
  nodeId : UInt64
  entityId : UInt64
  kind : EntityKind
  nodeNamespace : Str
  nodeName : Str
  topicName : Option Str
  typeName : Option Str
  typeHash : Option Str
  qos : Option Str
deriving DecidableEq

def parseKind (code : Str) : Option EntityKind :=
  if code = "NN".toList then some .node
  else if code = "MP".toList then some .publisher
  else if code = "MS".toList then some .subscription
  else if code = "SS".toList then some .serviceServer
  else if code = "SC".toList then some .serviceClient
  else none

def parseU16 (text : Str) : Option UInt16 :=
  (parseDecimal text).bind fun number => if number < UInt16.size then some (.ofNat number) else none

def parseU64 (text : Str) : Option UInt64 :=
  (parseDecimal text).bind fun number => if number < UInt64.size then some (.ofNat number) else none

/-- Reads a token back. What stands behind the parts it needs is ignored. -/
def parseLivelinessKey (key : Str) : Option ParsedEntity :=
  match key.splitOn '/' with
  | admin :: domain :: zid :: node :: entity :: code :: _ :: nodeNamespace :: nodeName :: rest => do
    if admin ≠ adminSpace then none else
    let domainId ← parseU16 domain
    let nodeId ← parseU64 node
    let entityId ← parseU64 entity
    let kind ← parseKind code
    if kind = .node then
      some ⟨domainId, zid, nodeId, entityId, kind, demangle nodeNamespace, demangle nodeName,
        none, none, none, none⟩
    else match rest with
      | topic :: type :: hash :: qos :: _ =>
        some ⟨domainId, zid, nodeId, entityId, kind, demangle nodeNamespace, demangle nodeName,
          some (demangle topic), some type, some hash, some qos⟩
      | _ => none
  | _ => none

theorem parseKind_code (kind : EntityKind) : parseKind kind.code = some kind := by
  cases kind <;> decide

theorem parseU16_decimal (number : UInt16) : parseU16 (decimal number.toNat) = some number := by
  simp [parseU16, parseDecimal_decimal, number.toNat_lt]

theorem parseU64_decimal (number : UInt64) : parseU64 (decimal number.toNat) = some number := by
  simp [parseU64, parseDecimal_decimal, number.toNat_lt]

theorem slash_not_mem_mangle (name : Str) : '/' ∉ mangle name := by
  unfold mangle
  split
  · decide
  · exact not_mem_replace (by decide) name

theorem demangle_mangle {name : Str} (present : name ≠ []) (absent : '%' ∉ name) :
    demangle (mangle name) = name := by
  rw [mangle, if_neg present]
  exact replace_replace absent

theorem parse_nodeLivelinessKeyexpr (domainId : UInt16) {ids : EntityIds} (session : '/' ∉ ids.sessionId) :
    parseLivelinessKey (nodeLivelinessKeyexpr domainId ids) =
      some ⟨domainId, ids.sessionId, ids.nodeId, ids.nodeId, .node, demangle (mangle ids.nodeNamespace),
        demangle (mangle ids.nodeName), none, none, none, none⟩ := by
  have digits : ∀ number, '/' ∉ decimal number := not_mem_decimal rfl
  have chunks : ∀ chunk ∈ [adminSpace, decimal domainId.toNat, ids.sessionId, decimal ids.nodeId.toNat,
      decimal ids.nodeId.toNat, EntityKind.node.code, mangle ids.enclave, mangle ids.nodeNamespace,
      mangle ids.nodeName], '/' ∉ chunk := by
    simp only [List.forall_mem_cons]
    refine ⟨by decide, digits _, session, digits _, digits _, by decide, slash_not_mem_mangle _,
      slash_not_mem_mangle _, slash_not_mem_mangle _, ?_⟩
    simp
  rw [parseLivelinessKey, nodeLivelinessKeyexpr, List.splitOn_intercalate _ chunks (by simp)]
  simp only [ne_eq, not_true_eq_false, if_false, parseU16_decimal, parseU64_decimal, parseKind_code,
    Option.bind_eq_bind, Option.bind_some, if_true]

def described (kind : EntityKind) (text : Str) : Option Str := if kind = .node then none else some text

theorem parse_entityLivelinessKeyexpr (domainId : UInt16) {ids : EntityIds} (kind : EntityKind)
    (qualifiedName : Str) {typeName typeHash qos : Str} (session : '/' ∉ ids.sessionId)
    (type : '/' ∉ typeName) (hash : '/' ∉ typeHash) (profile : '/' ∉ qos) :
    parseLivelinessKey (entityLivelinessKeyexpr domainId ids kind qualifiedName typeName typeHash qos) =
      some ⟨domainId, ids.sessionId, ids.nodeId, ids.entityId, kind, demangle (mangle ids.nodeNamespace),
        demangle (mangle ids.nodeName), described kind (demangle (mangle qualifiedName)),
        described kind typeName, described kind typeHash, described kind qos⟩ := by
  have digits : ∀ number, '/' ∉ decimal number := not_mem_decimal rfl
  have code : '/' ∉ kind.code := by cases kind <;> decide
  have chunks : ∀ chunk ∈ [adminSpace, decimal domainId.toNat, ids.sessionId, decimal ids.nodeId.toNat,
      decimal ids.entityId.toNat, kind.code, mangle ids.enclave, mangle ids.nodeNamespace,
      mangle ids.nodeName, mangle qualifiedName, typeName, typeHash, qos], '/' ∉ chunk := by
    simp only [List.forall_mem_cons]
    refine ⟨by decide, digits _, session, digits _, digits _, code, slash_not_mem_mangle _,
      slash_not_mem_mangle _, slash_not_mem_mangle _, slash_not_mem_mangle _, type, hash, profile, ?_⟩
    simp
  rw [parseLivelinessKey, entityLivelinessKeyexpr, List.splitOn_intercalate _ chunks (by simp)]
  simp only [ne_eq, not_true_eq_false, if_false, parseU16_decimal, parseU64_decimal, parseKind_code,
    Option.bind_eq_bind, Option.bind_some, described]
  by_cases node : kind = .node
  · simp only [node, if_true]
  · simp only [node, if_false]

end Ros2Client
