import Ros2Client.Transition.Threads
import Ros2Client.Zenoh.Session
import Mathlib.Data.List.Nodup
import Mathlib.Data.List.Perm.Basic

open Text Transition Wire

namespace Ros2Client.Zenoh

/-- The head of every token of a session: the ids and the kind. -/
def token (domainId : UInt16) (session : Str) (node entity : Nat) (kind : EntityKind) (rest : Str) : Str :=
  adminSpace ++ '/' :: (decimal domainId.toNat ++ '/' :: (session ++ '/' :: (decimal node ++ '/' ::
    (decimal entity ++ '/' :: (kind.code ++ '/' :: rest)))))

theorem code_inj {kind other : EntityKind} (same : kind.code = other.code) : kind = other := by
  have read := congrArg parseKind same
  rw [parseKind_code, parseKind_code] at read
  exact Option.some.inj read

theorem token_inj {domainId : UInt16} {session : Str} (plain : '/' ∉ session) {node entity node' entity' : Nat}
    {kind kind' : EntityKind} {rest rest' : Str}
    (same : token domainId session node entity kind rest = token domainId session node' entity' kind' rest') :
    node = node' ∧ entity = entity' ∧ kind = kind' := by
  have digits : ∀ number, '/' ∉ decimal number := not_mem_decimal rfl
  have code : ∀ kind : EntityKind, '/' ∉ kind.code := by
    intro kind
    cases kind <;> decide
  unfold token at same
  rw [append_cons_inj_left (by decide) (by decide), append_cons_inj_left (digits _) (digits _),
    append_cons_inj_left plain plain, append_cons_inj_left (digits _) (digits _),
    append_cons_inj_left (digits _) (digits _), append_cons_inj_left (code _) (code _)] at same
  obtain ⟨_, _, _, nodes, entities, kinds, _⟩ := same
  exact ⟨decimal_inj.mp nodes, decimal_inj.mp entities, code_inj kinds⟩

theorem nodeKey_eq_token (node : ZenohNode) :
    ∃ rest, node.nodeKey = token node.domainId node.zid node.nodeId.toNat node.nodeId.toNat .node rest :=
  ⟨['/'].intercalate [mangle [], mangle node.nodeName.nodeNamespace, mangle node.nodeName.baseName], rfl⟩

theorem livelinessKey_eq_token (node : ZenohNode) (entityId : UInt64) (kind : EntityKind) (fqn ddsType hash : Str)
    (qos : QosProfile) :
    ∃ rest, node.livelinessKey entityId kind fqn ddsType hash qos =
      token node.domainId node.zid node.nodeId.toNat entityId.toNat kind rest :=
  ⟨['/'].intercalate [mangle [], mangle node.nodeName.nodeNamespace, mangle node.nodeName.baseName, mangle fqn,
    ddsType, hash, encodeQos qos], rfl⟩

theorem gidFromLivelinessKey_inj {xxh3 : List UInt8 → BitVec 128} {first second : Str}
    (same : gidFromLivelinessKey xxh3 first = gidFromLivelinessKey xxh3 second) :
    xxh3 (asBytes first) = xxh3 (asBytes second) := by
  have octets := congrArg (fun gid => decodeOctets gid.bytes) same
  have bound : ∀ word : BitVec 128, word.toNat < 256 ^ 16 := fun word => word.isLt
  simp only [gidFromLivelinessKey, decodeOctets_encodeOctets (bound _)] at octets
  exact BitVec.eq_of_toNat_eq octets

theorem toNat_add_one {number : UInt64} (roomy : number.toNat + 1 < UInt64.size) :
    (number + 1).toNat = number.toNat + 1 := by
  rw [UInt64.toNat_add]
  exact Nat.mod_eq_of_lt roomy

def Session.keys (state : Session) : List Str :=
  state.nodes.map (·.node.nodeKey) ++ state.entities.map (·.key)

def Outgoing.identity (ext : ZenohExt) (message : Outgoing) : Option (Gid × Int64) :=
  (AttachmentData.fromZbytes ext message.attachment).map fun a => (a.sourceGid, a.sequenceNumber)

structure Session.Sound (xxh3 : List UInt8 → BitVec 128) (ext : ZenohExt) (state : Session) : Prop where
  counter : state.nextNodeId.toNat = state.nodes.length
  nodes : ∀ (index : Nat) (owner : SessionNode), state.nodes[index]? = some owner →
    owner.node.nodeId.toNat = index ∧ owner.node.domainId = state.domainId ∧ owner.node.zid = state.zid.text
  entities : ∀ entity ∈ state.entities, ∃ owner, state.nodes[entity.node]? = some owner ∧
    entity.entityId.toNat < owner.nextEntityId.toNat
  keyed : ∀ entity ∈ state.entities, entity.kind ≠ .node ∧
    (∃ rest, entity.key = token state.domainId state.zid.text entity.node entity.entityId.toNat entity.kind rest) ∧
    entity.sender.sourceGid = gidFromLivelinessKey xxh3 entity.key
  distinct : (state.entities.map fun entity => (entity.node, entity.entityId)).Nodup
  numbered : ∀ entity ∈ state.entities,
    entity.drawn = (List.range entity.drawn.length).map (fun index => Int64.ofNat (index + 1)) ∧
    entity.sender.seq = Int64.ofNat entity.drawn.length ∧ entity.drawn.length < 2 ^ 63
  carried : ∀ message ∈ state.outgoing ++ state.sent, ∃ entity, state.entities[message.entity]? = some entity ∧
    message.number ∈ entity.drawn ∧ message.identity ext = some (entity.sender.sourceGid, message.number)
  single : ((state.outgoing ++ state.sent).map fun message => (message.entity, message.number)).Nodup

section

variable {Message : Type} {xxh3 : List UInt8 → BitVec 128} {sha256 : List UInt8 → List UInt8} {ext : ZenohExt}
  {codec : CdrEncoding Message} {state after : Session}

theorem Session.Sound.newNode (held : state.Sound xxh3 ext) (name : NodeName)
    (roomy : state.nextNodeId.toNat + 1 < UInt64.size) : (state.newNode name).Sound xxh3 ext := by
  have next : (state.nextNodeId + 1).toNat = state.nextNodeId.toNat + 1 := toNat_add_one roomy
  refine ⟨?_, ?_, ?_, held.keyed, held.distinct, held.numbered, held.carried, held.single⟩
  · simp only [Session.newNode, List.length_append, List.length_singleton, next, held.counter]
  · intro index owner looked
    rcases lookup_concat looked with old | ⟨place, new⟩
    · exact held.nodes index owner old
    · rw [new, place]
      exact ⟨held.counter, rfl, rfl⟩
  · intro entity member
    obtain ⟨owner, looked, below⟩ := held.entities entity member
    exact ⟨owner, List.getElem?_append_left (List.getElem?_eq_some_iff.mp looked).1 ▸ looked, below⟩

theorem Session.Sound.unused_id (held : state.Sound xxh3 ext) {index : Nat} {owner : SessionNode}
    (looked : state.nodes[index]? = some owner) :
    (index, owner.nextEntityId) ∉ state.entities.map fun entity => (entity.node, entity.entityId) := by
  intro member
  obtain ⟨entity, old, same⟩ := List.mem_map.mp member
  obtain ⟨rfl, ids⟩ := Prod.mk.inj same
  obtain ⟨other, found, below⟩ := held.entities entity old
  rw [looked, Option.some_inj] at found
  subst found
  rw [ids] at below
  omega

theorem Session.Sound.createEntity (held : state.Sound xxh3 ext) {index : Nat} {owner : SessionNode} (part : EntityPart)
    (looked : state.nodes[index]? = some owner) (roomy : owner.nextEntityId.toNat + 1 < UInt64.size) :
    (state.createEntity xxh3 index owner part).Sound xxh3 ext := by
  have next : (owner.nextEntityId + 1).toNat = owner.nextEntityId.toNat + 1 := toNat_add_one roomy
  have inside := (List.getElem?_eq_some_iff.mp looked).1
  obtain ⟨nodeId, domain, zid⟩ := held.nodes index owner looked
  have fresh := held.unused_id looked
  refine ⟨?_, ?_, ?_, ?_, ?_, ?_, ?_, held.single⟩
  · simp only [Session.createEntity, List.length_set, held.counter]
  · intro place other found
    rcases lookup_set found with ⟨rfl, rfl⟩ | ⟨_, old⟩
    · exact ⟨nodeId, domain, zid⟩
    · exact held.nodes place other old
  · intro entity member
    simp only [Session.createEntity, List.mem_append, List.mem_singleton] at member
    simp only [Session.createEntity]
    rcases member with old | new
    · obtain ⟨other, found, below⟩ := held.entities entity old
      refine exists_lookup_set looked ?_ found below
      simp only [next]
      omega
    · subst new
      refine ⟨_, List.getElem?_set_self inside, ?_⟩
      simp only [next]
      omega
  · intro entity member
    rcases List.mem_append.mp member with old | new
    · exact held.keyed entity old
    · rw [List.mem_singleton.mp new]
      obtain ⟨rest, key⟩ := livelinessKey_eq_token owner.node owner.nextEntityId part.kind part.fqn part.ddsType
        part.hash part.qos
      refine ⟨part.notNode, ⟨rest, ?_⟩, rfl⟩
      simp only [key, domain, zid, nodeId]
      rfl
  · simp only [Session.createEntity, List.map_append, List.map_cons, List.map_nil]
    exact List.nodup_append.mpr ⟨held.distinct, List.pairwise_singleton _ _, by
      intro first old second new same
      exact fresh (List.mem_singleton.mp new ▸ same ▸ old)⟩
  · intro entity member
    rcases List.mem_append.mp member with old | new
    · exact held.numbered entity old
    · rw [List.mem_singleton.mp new]
      exact ⟨rfl, rfl, Nat.two_pow_pos 63⟩
  · intro message member
    obtain ⟨entity, found, drawn⟩ := held.carried message member
    have bound := (List.getElem?_eq_some_iff.mp found).1
    exact ⟨entity, by rw [Session.createEntity, List.getElem?_append_left bound, found], drawn⟩

theorem Session.Sound.createNext (held : state.Sound xxh3 ext) {index : Nat} {progress : Creating} {declared : Bool}
    (roomy : ∀ owner, state.nodes[progress.node]? = some owner → owner.nextEntityId.toNat + 1 < UInt64.size)
    (stepped : state.createNext xxh3 index progress declared = some after) : after.Sound xxh3 ext := by
  have abandoned : Session.Sound xxh3 ext { state with creating := state.creating.eraseIdx index } :=
    ⟨held.counter, held.nodes, held.entities, held.keyed, held.distinct, held.numbered, held.carried, held.single⟩
  unfold Session.createNext at stepped
  split at stepped
  · rename_i part rest _
    split at stepped
    · cases stepped
      exact abandoned
    · obtain ⟨owner, looked, rfl⟩ := Option.map_eq_some_iff.mp stepped
      have advanced : Session.Sound xxh3 ext
          { state with creating := state.creating.set index { progress with remaining := rest } } :=
        ⟨held.counter, held.nodes, held.entities, held.keyed, held.distinct, held.numbered, held.carried, held.single⟩
      exact advanced.createEntity part looked (roomy owner looked)
  · cases stepped
    exact abandoned

theorem SendCall.encode_cases (ext : ZenohExt) (codec : CdrEncoding Message) (sender : Sender) (now : Int64)
    (call : SendCall Message) :
    (∃ error, call.encode ext codec sender now = (.error error, sender)) ∨
    ∃ payload, call.encode ext codec sender now =
      (.ok (payload, AttachmentData.toZbytes ext ⟨sender.seq + 1, now, sender.sourceGid⟩),
        { sender with seq := sender.seq + 1 }) := by
  cases call with
  | publish msg =>
    cases written : toCdr codec msg with
    | error error => exact .inl ⟨error, by simp [encode, Publisher.encode, written]⟩
    | ok payload => exact .inr ⟨payload, by simp [encode, Publisher.encode, written, Sender.attachment]⟩
  | publishRaw cdrBytes => exact .inr ⟨cdrBytes, rfl⟩
  | rawPublish cdrMessage => exact .inr ⟨cdrMessage, rfl⟩
  | call req =>
    cases written : toCdr codec req with
    | error error => exact .inl ⟨error, by simp [encode, Client.requestBytes, written]⟩
    | ok payload => exact .inr ⟨payload, by simp [encode, Client.requestBytes, written, Sender.attachment]⟩

theorem ofNat_not_mem_numbers {count : Nat} (bound : count + 1 < 2 ^ 63) :
    Int64.ofNat (count + 1) ∉ (List.range count).map fun index => Int64.ofNat (index + 1) := by
  intro member
  obtain ⟨index, below, same⟩ := List.mem_map.mp member
  have small := List.mem_range.mp below
  have numbers := congrArg Int64.toInt same
  rw [Int64.toInt_ofNat_of_lt (by omega), Int64.toInt_ofNat_of_lt (by omega)] at numbers
  omega

/-- An entity draws its next number for a message that carries it. -/
theorem Session.Sound.unsent_number (held : state.Sound xxh3 ext) {index : Nat} {entity : SessionEntity}
    (looked : state.entities[index]? = some entity) (room : entity.drawn.length + 1 < 2 ^ 63) :
    (index, Int64.ofNat (entity.drawn.length + 1)) ∉
      (state.outgoing ++ state.sent).map fun message => (message.entity, message.number) := by
  intro sent
  obtain ⟨other, old, same⟩ := List.mem_map.mp sent
  obtain ⟨place, clash⟩ := Prod.mk.inj same
  obtain ⟨owner, found, inDrawn, _⟩ := held.carried other old
  rw [place, looked, Option.some_inj] at found
  subst found
  have drawn := (held.numbered entity (List.mem_of_getElem? looked)).1
  rw [clash, drawn, List.length_map, List.length_range] at inDrawn
  exact ofNat_not_mem_numbers room inDrawn

theorem Session.Sound.draw (held : state.Sound xxh3 ext) {index : Nat} {entity new : SessionEntity} {message : Outgoing}
    (looked : state.entities[index]? = some entity) (room : entity.drawn.length + 1 < 2 ^ 63)
    (number : message.number = Int64.ofNat (entity.drawn.length + 1)) (sender : message.entity = index)
    (identity : message.identity ext = some (entity.sender.sourceGid, message.number))
    (drew : { entity with sender := ⟨message.number, entity.sender.sourceGid⟩
                          drawn := entity.drawn ++ [message.number] } = new) :
    Session.Sound xxh3 ext { state with
      entities := state.entities.set index new
      outgoing := state.outgoing ++ [message] } := by
  subst drew
  have member := List.mem_of_getElem? looked
  have inside := (List.getElem?_eq_some_iff.mp looked).1
  have drawn := (held.numbered entity member).1
  have fresh := held.unsent_number looked room
  rw [← sender, ← number] at fresh
  refine ⟨held.counter, held.nodes, forall_set held.entities (held.entities entity member),
    forall_set held.keyed (held.keyed entity member), ?_, forall_set held.numbered ?_, ?_, ?_⟩
  · rw [map_set_same (f := fun entity : SessionEntity => (entity.node, entity.entityId)) looked]
    · exact held.distinct
    · rfl
  · simp only [List.length_append, List.length_singleton, List.range_succ, List.map_append, List.map_cons,
      List.map_nil, ← drawn, number]
    exact ⟨trivial, trivial, room⟩
  · intro other sent
    have places : other ∈ state.outgoing ++ state.sent ∨ other = message := by
      simp only [List.mem_append, List.mem_singleton] at sent ⊢
      tauto
    rcases places with old | rfl
    · obtain ⟨owner, found, carried⟩ := held.carried other old
      refine exists_lookup_set looked ?_ found carried
      intro ⟨inDrawn, carries⟩
      exact ⟨List.mem_append_left _ inDrawn, carries⟩
    · refine ⟨_, by rw [sender, List.getElem?_set_self inside], ?_⟩
      exact ⟨List.mem_append_right _ List.mem_cons_self, identity⟩
  · have moved : (state.outgoing ++ [message] ++ state.sent).Perm (message :: (state.outgoing ++ state.sent)) := by
      rw [List.append_assoc]
      exact List.perm_middle
    rw [(moved.map _).nodup_iff, List.map_cons, List.nodup_cons]
    exact ⟨fresh, held.single⟩

theorem Session.Sound.send (held : state.Sound xxh3 ext) {index : Nat} {entity : SessionEntity}
    (call : SendCall Message) (now : Int64) (looked : state.entities[index]? = some entity)
    (roomy : entity.sender.seq.toInt + 1 < 2 ^ 63) :
    (state.send ext codec index entity call now).Sound xxh3 ext := by
  rcases SendCall.encode_cases ext codec entity.sender now call with ⟨error, failed⟩ | ⟨payload, encoded⟩
  · simp only [Session.send, failed]
    exact held
  · obtain ⟨_, seq, bound⟩ := held.numbered entity (List.mem_of_getElem? looked)
    have next : entity.sender.seq + 1 = Int64.ofNat (entity.drawn.length + 1) := by
      rw [seq, Int64.ofNat_add]
      rfl
    have room : entity.drawn.length + 1 < 2 ^ 63 := by
      rw [seq, Int64.toInt_ofNat_of_lt bound] at roomy
      omega
    simp only [Session.send, encoded]
    have identity : Outgoing.identity ext ⟨index, entity.sender.seq + 1, payload,
        AttachmentData.toZbytes ext ⟨entity.sender.seq + 1, now, entity.sender.sourceGid⟩⟩ =
        some (entity.sender.sourceGid, entity.sender.seq + 1) := by
      simp [Outgoing.identity, AttachmentData.fromZbytes_toZbytes]
    exact held.draw looked room next rfl identity rfl

theorem Session.Sound.put (held : state.Sound xxh3 ext) {index : Nat} {message : Outgoing} (accepted : Bool)
    (looked : state.outgoing[index]? = some message) :
    Session.Sound xxh3 ext { state with
      outgoing := state.outgoing.eraseIdx index
      sent := if accepted then state.sent ++ [message] else state.sent } := by
  have fewer : List.Subperm (state.outgoing.eraseIdx index ++ if accepted then state.sent ++ [message] else state.sent)
      (state.outgoing ++ state.sent) := by
    obtain ⟨inside, rfl⟩ := List.getElem?_eq_some_iff.mp looked
    have whole := (List.getElem_cons_eraseIdx_perm inside).append_right state.sent
    cases accepted with
    | true =>
      have moved : (state.outgoing.eraseIdx index ++ (state.sent ++ [state.outgoing[index]])).Perm
          (state.outgoing[index] :: (state.outgoing.eraseIdx index ++ state.sent)) := by
        rw [← List.append_assoc]
        exact List.perm_append_singleton _ _
      exact (moved.trans whole).subperm
    | false => exact ((List.sublist_cons_self _ _).append_right _).subperm.trans whole.subperm
  refine ⟨held.counter, held.nodes, held.entities, held.keyed, held.distinct, held.numbered, ?_, ?_⟩
  · intro other member
    exact held.carried other (fewer.subset member)
  · obtain ⟨kept, permuted, sublist⟩ := fewer
    exact (permuted.map _).nodup_iff.mp ((sublist.map _).nodup held.single)

theorem Session.Sound.step (held : state.Sound xxh3 ext) {label : SessionLabel Message}
    (roomy : state.roomy label = true) (stepped : state.step xxh3 sha256 ext codec label = some after) :
    after.Sound xxh3 ext := by
  cases label with
  | newNode name =>
    cases stepped
    exact held.newNode name (of_decide_eq_true roomy)
  | create node call =>
    obtain ⟨owner, _, rfl⟩ := Option.map_eq_some_iff.mp stepped
    exact ⟨held.counter, held.nodes, held.entities, held.keyed, held.distinct, held.numbered, held.carried, held.single⟩
  | createNext index declared =>
    obtain ⟨progress, looked, stepped⟩ := Option.bind_eq_some_iff.mp stepped
    apply held.createNext _ stepped
    intro owner found
    simpa [Session.roomy, looked, found] using roomy
  | send index call now =>
    obtain ⟨entity, looked, stepped⟩ := Option.bind_eq_some_iff.mp stepped
    split at stepped
    · cases stepped
      exact held.send call now looked (by simpa [Session.roomy, looked] using roomy)
    · cases stepped
  | put index accepted =>
    obtain ⟨message, looked, rfl⟩ := Option.map_eq_some_iff.mp stepped
    exact held.put accepted looked

theorem nodup_map_of_inj {α β γ : Type} {items : List α} {f : α → β} {g : α → γ} (distinct : (items.map f).Nodup)
    (finer : ∀ first ∈ items, ∀ second ∈ items, g first = g second → f first = f second) : (items.map g).Nodup := by
  rw [List.Nodup, List.pairwise_map] at distinct ⊢
  apply distinct.imp_of_mem
  intro first second member member' different same
  exact different (finer first member second member' same)

theorem Session.Sound.nodup_nodeKeys (held : state.Sound xxh3 ext) :
    (state.nodes.map (·.node.nodeKey)).Nodup := by
  apply List.nodup_iff_getElem?_ne_getElem?.mpr
  intro first second before inside same
  have inside' : second < state.nodes.length := by simpa using inside
  have lookedFirst : state.nodes[first]? = some state.nodes[first] := List.getElem?_eq_getElem (by omega)
  have lookedSecond : state.nodes[second]? = some state.nodes[second] := List.getElem?_eq_getElem inside'
  obtain ⟨firstId, domain, zid⟩ := held.nodes _ _ lookedFirst
  obtain ⟨secondId, domain', zid'⟩ := held.nodes _ _ lookedSecond
  obtain ⟨rest, key⟩ := nodeKey_eq_token state.nodes[first].node
  obtain ⟨rest', key'⟩ := nodeKey_eq_token state.nodes[second].node
  rw [List.getElem?_map, List.getElem?_map, lookedFirst, lookedSecond, Option.map_some, Option.map_some,
    Option.some_inj, key, key', domain, zid, domain', zid', firstId, secondId] at same
  have clash := (token_inj state.zid.plain same).1
  omega

theorem Session.Sound.nodup_entityKeys (held : state.Sound xxh3 ext) : (state.entities.map (·.key)).Nodup := by
  apply nodup_map_of_inj held.distinct
  intro first member second member' same
  obtain ⟨_, ⟨rest, key⟩, _⟩ := held.keyed first member
  obtain ⟨_, ⟨rest', key'⟩, _⟩ := held.keyed second member'
  rw [key, key'] at same
  obtain ⟨node, entity, _⟩ := token_inj state.zid.plain same
  rw [node, UInt64.toNat_inj.mp entity]

theorem Session.Sound.nodup_keys (held : state.Sound xxh3 ext) : state.keys.Nodup := by
  apply List.nodup_append.mpr ⟨held.nodup_nodeKeys, held.nodup_entityKeys, _⟩
  intro nodeKey isNode entityKey isEntity same
  obtain ⟨owner, member, rfl⟩ := List.mem_map.mp isNode
  obtain ⟨entity, member', rfl⟩ := List.mem_map.mp isEntity
  obtain ⟨index, looked⟩ := List.getElem?_of_mem member
  obtain ⟨_, domain, zid⟩ := held.nodes index owner looked
  obtain ⟨rest, key⟩ := nodeKey_eq_token owner.node
  obtain ⟨notNode, ⟨rest', key'⟩, _⟩ := held.keyed entity member'
  rw [key, key', domain, zid] at same
  exact notNode (token_inj state.zid.plain same).2.2.symm

end

structure UniqueIdentities (xxh3 : List UInt8 → BitVec 128) (ext : ZenohExt) (state : Session) : Prop where
  keys : state.keys.Nodup
  pairs : (∀ first ∈ state.keys, ∀ second ∈ state.keys, xxh3 (asBytes first) = xxh3 (asBytes second) → first = second) →
    (state.sent.map (Outgoing.identity ext)).Nodup
  carried : ∀ message ∈ state.sent, ∃ entity, state.entities[message.entity]? = some entity ∧
    message.number ∈ entity.drawn ∧
    message.identity ext = some (gidFromLivelinessKey xxh3 entity.key, message.number)
  numbers : ∀ entity ∈ state.entities,
    entity.drawn = (List.range entity.drawn.length).map fun index => Int64.ofNat (index + 1)

theorem Session.Sound.unique {xxh3 : List UInt8 → BitVec 128} {ext : ZenohExt} {state : Session}
    (held : state.Sound xxh3 ext) : UniqueIdentities xxh3 ext state := by
  have carried : ∀ message ∈ state.sent, ∃ entity, state.entities[message.entity]? = some entity ∧
      message.number ∈ entity.drawn ∧
      message.identity ext = some (gidFromLivelinessKey xxh3 entity.key, message.number) := by
    intro message member
    obtain ⟨entity, looked, drawn, identity⟩ := held.carried message (List.mem_append_right _ member)
    have gid := (held.keyed entity (List.mem_of_getElem? looked)).2.2
    exact ⟨entity, looked, drawn, gid ▸ identity⟩
  refine ⟨held.nodup_keys, ?_, carried, fun entity member => (held.numbered entity member).1⟩
  intro injective
  have single : (state.sent.map fun message => (message.entity, message.number)).Nodup :=
    ((List.sublist_append_right _ _).map _).nodup held.single
  apply nodup_map_of_inj single
  intro first member second member' same
  obtain ⟨entity, looked, _, identity⟩ := carried first member
  obtain ⟨entity', looked', _, identity'⟩ := carried second member'
  rw [identity, identity', Option.some_inj, Prod.mk.injEq] at same
  have inKeys : ∀ (entity : SessionEntity) (index : Nat), state.entities[index]? = some entity →
      entity.key ∈ state.keys := by
    intro entity index looked
    exact List.mem_append_right _ (List.mem_map_of_mem (List.mem_of_getElem? looked))
  have keys := injective _ (inKeys _ _ looked) _ (inKeys _ _ looked') (gidFromLivelinessKey_inj same.1)
  have inside : first.entity < (state.entities.map (·.key)).length := by
    simpa using (List.getElem?_eq_some_iff.mp looked).1
  have places : (state.entities.map (·.key))[first.entity]? = (state.entities.map (·.key))[second.entity]? := by
    rw [List.getElem?_map, List.getElem?_map, looked, looked', Option.map_some, Option.map_some, keys]
  rw [(List.getElem?_inj inside held.nodup_entityKeys).mp places, same.2]

/-- In every run of a session in which no counter reaches its limit, all identities are unique. -/
def UniqueInEveryRun {Message : Type} (xxh3 : List UInt8 → BitVec 128) (sha256 : List UInt8 → List UInt8)
    (ext : ZenohExt) (codec : CdrEncoding Message) (domainId : UInt16) (zid : ZenohId) : Prop :=
  ∀ state, ((session xxh3 sha256 ext codec domainId zid).restrict fun state label => state.roomy label = true).Reachable
    state → UniqueIdentities xxh3 ext state

theorem identities_unique {Message : Type} (xxh3 : List UInt8 → BitVec 128) (sha256 : List UInt8 → List UInt8)
    (ext : ZenohExt) (codec : CdrEncoding Message) (domainId : UInt16) (zid : ZenohId) :
    UniqueInEveryRun xxh3 sha256 ext codec domainId zid := by
  intro state reachable
  have held : state.Sound xxh3 ext := by
    apply reachable.invariant (Session.Sound xxh3 ext)
    · exact ⟨rfl, nofun, nofun, nofun, List.nodup_nil, nofun, nofun, List.nodup_nil⟩
    · intro before label after held stepped
      obtain ⟨roomy, stepped⟩ := System.restrict_step.mp stepped
      exact held.step roomy stepped
  exact held.unique

end Ros2Client.Zenoh
