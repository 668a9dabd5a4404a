import Ros2Client.Zenoh.TokenParts

open Text Transition

namespace Ros2Client.Zenoh

variable {Message : Type} {setting : GraphSetting Message} {context : GraphContext} {owner : TokenOwner}

def SessionEntity.token (entity : SessionEntity) : Nat × UInt64 × EntityKind × Str :=
  (entity.node, entity.entityId, entity.kind, entity.key)

/-- What a step does to a session, as far as tokens go: it may add nodes, and it may make one entity of the part. -/
structure Session.Grows (part : Option EntityPart) (before after : Session) : Prop where
  domainId : after.domainId = before.domainId
  zid : after.zid = before.zid
  nodes : ∃ new, after.nodes.map (·.node) = before.nodes.map (·.node) ++ new
  entities : after.entities.map SessionEntity.token = before.entities.map SessionEntity.token ∨
    ∃ made index owner entityId, part = some made ∧ before.nodes[index]? = some owner ∧
      after.entities.map SessionEntity.token = before.entities.map SessionEntity.token ++ [(index, entityId, made.kind,
        owner.node.livelinessKey entityId made.kind made.fqn made.ddsType made.hash made.qos)]

section Steps

variable {before after : Session} {part : Option EntityPart}

theorem Session.Grows.same (domainId : after.domainId = before.domainId) (zid : after.zid = before.zid)
    (nodes : after.nodes = before.nodes) (entities : after.entities = before.entities) : before.Grows part after :=
  ⟨domainId, zid, ⟨[], by rw [nodes, List.append_nil]⟩, .inl (by rw [entities])⟩

theorem Session.createNext_grows {xxh3 : List UInt8 → BitVec 128} {index : Nat} {progress : Creating} {declared : Bool}
    (stepped : before.createNext xxh3 index progress declared = some after) :
    before.Grows (progress.remaining.head?.bind Except.toOption) after := by
  unfold createNext at stepped
  split at stepped
  · rename_i made rest remaining
    split at stepped
    · cases stepped
      exact .same rfl rfl rfl rfl
    · obtain ⟨owner, looked, rfl⟩ := Option.map_eq_some_iff.mp stepped
      refine ⟨rfl, rfl, ⟨[], ?_⟩, .inr ⟨made, progress.node, owner, owner.nextEntityId, ?_, looked, ?_⟩⟩
      · rw [List.append_nil]
        exact map_set_same looked rfl
      · rw [remaining]
        rfl
      · simp only [createEntity, List.map_append, List.map_cons, List.map_nil]
        rfl
  · cases stepped
    exact .same rfl rfl rfl rfl

theorem Session.step_grows {label : SessionLabel Message}
    (stepped : before.step setting.xxh3 setting.sha256 setting.ext setting.codec label = some after) :
    before.Grows (before.nextPart label) after := by
  cases label with
  | newNode name =>
    cases stepped
    exact ⟨rfl, rfl, ⟨_, List.map_append⟩, .inl rfl⟩
  | create node call =>
    obtain ⟨owner, _, rfl⟩ := Option.map_eq_some_iff.mp stepped
    exact .same rfl rfl rfl rfl
  | createNext index declared =>
    obtain ⟨progress, looked, stepped⟩ := Option.bind_eq_some_iff.mp stepped
    rw [nextPart, looked]
    exact createNext_grows stepped
  | send index call now =>
    obtain ⟨entity, looked, stepped⟩ := Option.bind_eq_some_iff.mp stepped
    split at stepped
    · cases stepped
      rcases SendCall.encode_cases setting.ext setting.codec entity.sender now call with ⟨_, failed⟩ | ⟨_, encoded⟩
      · simp only [Session.send, failed]
        exact .same rfl rfl rfl rfl
      · simp only [Session.send, encoded]
        exact ⟨rfl, rfl, ⟨[], (List.append_nil _).symm⟩, .inl (map_set_same looked rfl)⟩
    · cases stepped
  | put index accepted =>
    obtain ⟨message, _, rfl⟩ := Option.map_eq_some_iff.mp stepped
    exact .same rfl rfl rfl rfl

theorem Session.Grows.node_kept (grows : before.Grows part after) {index : Nat} {owner : SessionNode}
    (looked : before.nodes[index]? = some owner) :
    ∃ later, after.nodes[index]? = some later ∧ later.node = owner.node := by
  obtain ⟨new, nodes⟩ := grows.nodes
  have mapped : (before.nodes.map (·.node))[index]? = some owner.node := by rw [List.getElem?_map, looked]; rfl
  have kept : (after.nodes.map (·.node))[index]? = some owner.node := by
    rw [nodes, List.getElem?_append_left (List.getElem?_eq_some_iff.mp mapped).1]
    exact mapped
  rw [List.getElem?_map] at kept
  exact Option.map_eq_some_iff.mp kept

theorem Session.Grows.entity_kept (grows : before.Grows part after) {index : Nat} {entity : SessionEntity}
    (looked : before.entities[index]? = some entity) :
    ∃ later, after.entities[index]? = some later ∧ later.token = entity.token := by
  have mapped : (before.entities.map SessionEntity.token)[index]? = some entity.token := by
    rw [List.getElem?_map, looked]
    rfl
  have kept : (after.entities.map SessionEntity.token)[index]? = some entity.token := by
    rcases grows.entities with same | ⟨_, _, _, _, _, _, grown⟩
    · rw [same, mapped]
    · rw [grown, List.getElem?_append_left (List.getElem?_eq_some_iff.mp mapped).1]
      exact mapped
  rw [List.getElem?_map] at kept
  exact Option.map_eq_some_iff.mp kept

end Steps

def GraphContext.shown (context : GraphContext) : TokenOwner → Option ParsedEntity
  | .node index => context.session.nodes[index]?.map fun ⟨node, _⟩ =>
      ⟨node.domainId, node.zid, node.nodeId, node.nodeId, .node, node.nodeName.nodeNamespace, node.nodeName.baseName,
        none, none, none, none⟩
  | .entity index =>
    context.session.entities[index]?.bind fun entity => context.parts[index]?.bind fun part =>
      context.session.nodes[entity.node]?.map fun ⟨node, _⟩ =>
        ⟨node.domainId, node.zid, node.nodeId, entity.entityId, part.kind, node.nodeName.nodeNamespace,
          node.nodeName.baseName, some part.fqn, some part.ddsType, some part.hash, some (encodeQos part.qos)⟩

def SessionEntity.MadeFrom (entity : SessionEntity) (part : EntityPart) (owner : SessionNode) : Prop :=
  entity.kind = part.kind ∧
    entity.key = owner.node.livelinessKey entity.entityId part.kind part.fqn part.ddsType part.hash part.qos

structure GraphContext.Sound (setting : GraphSetting Message) (context : GraphContext) : Prop where
  session : context.session.Sound setting.xxh3 setting.ext
  creating : ∀ progress ∈ context.session.creating, AllTokenable progress.remaining
  tokenable : ∀ part ∈ context.parts, part.Tokenable
  length : context.parts.length = context.session.entities.length
  made : ∀ (index : Nat) (entity : SessionEntity), context.session.entities[index]? = some entity →
    ∃ part owner, context.parts[index]? = some part ∧ context.session.nodes[entity.node]? = some owner ∧
      entity.MadeFrom part owner
  held : ∀ owner ∈ context.undeclared ++ context.alive, ∃ key, context.key owner = some key
  once : (context.undeclared ++ context.alive).Nodup

section Keys

variable {key : Str}

theorem GraphContext.Sound.parse_key (sound : context.Sound setting) (keyed : context.key owner = some key) :
    ∃ entity, context.shown owner = some entity ∧ parseLivelinessKey key = some entity ∧
      entity.domainId = context.session.domainId ∧ entity.zid = context.session.zid.text := by
  have plain := context.session.zid.plain
  cases owner with
  | node index =>
    obtain ⟨owner, looked, rfl⟩ := Option.map_eq_some_iff.mp keyed
    obtain ⟨_, domain, zid⟩ := sound.session.nodes index owner looked
    refine ⟨_, ?_, parse_nodeKey owner.node (zid ▸ plain), domain, zid⟩
    simp only [GraphContext.shown, looked, Option.map_some]
  | entity index =>
    obtain ⟨entity, looked, rfl⟩ := Option.map_eq_some_iff.mp keyed
    obtain ⟨part, owner, made, node, kind, key⟩ := sound.made index entity looked
    obtain ⟨_, domain, zid⟩ := sound.session.nodes entity.node owner node
    have tokenable := sound.tokenable part (List.mem_of_getElem? made)
    have base := (NodeName.check_ok owner.node.nodeName.checked).1
    have notNode := part.notNode
    refine ⟨⟨owner.node.domainId, owner.node.zid, owner.node.nodeId, entity.entityId, part.kind,
      owner.node.nodeName.nodeNamespace, owner.node.nodeName.baseName, some part.fqn, some part.ddsType,
      some part.hash, some (encodeQos part.qos)⟩, ?_, ?_, domain, zid⟩
    · simp only [GraphContext.shown, looked, made, node, Option.bind_some, Option.map_some]
    · have plain : '/' ∉ owner.node.zid := zid ▸ plain
      rw [key, ZenohNode.livelinessKey, parse_entityLivelinessKeyexpr _ _ _ plain tokenable.type tokenable.hash
        (slash_not_mem_encodeQos part.qos)]
      simp [ZenohNode.ids, described, notNode, demangle_mangle tokenable.present tokenable.unmangled,
        demangle_mangle base owner.node.nodeName.percent_not_mem_baseName,
        demangle_mangle owner.node.nodeName.namespace_ne_nil owner.node.nodeName.percent_not_mem_namespace]

/-- In one session no two owners have one token. -/
theorem GraphContext.Sound.owner_unique (sound : context.Sound setting) {other : TokenOwner}
    (keyed : context.key owner = some key) (keyed' : context.key other = some key) : owner = other := by
  have nodeKeys := sound.session.nodup_nodeKeys
  have entityKeys := sound.session.nodup_entityKeys
  have apart := (List.nodup_append.mp sound.session.nodup_keys).2.2
  have node : ∀ index, context.key (.node index) = (context.session.nodes.map (·.node.nodeKey))[index]? := by
    intro index
    rw [List.getElem?_map]
    rfl
  have entity : ∀ index, context.key (.entity index) = (context.session.entities.map (·.key))[index]? := by
    intro index
    rw [List.getElem?_map]
    rfl
  cases owner with
  | node index =>
    rw [node] at keyed
    cases other with
    | node index' =>
      rw [node] at keyed'
      rw [(List.getElem?_inj (List.getElem?_eq_some_iff.mp keyed).1 nodeKeys).mp (keyed.trans keyed'.symm)]
    | entity index' =>
      rw [entity] at keyed'
      exact absurd rfl (apart key (List.mem_of_getElem? keyed) key (List.mem_of_getElem? keyed'))
  | entity index =>
    rw [entity] at keyed
    cases other with
    | node index' =>
      rw [node] at keyed'
      exact absurd rfl (apart key (List.mem_of_getElem? keyed') key (List.mem_of_getElem? keyed))
    | entity index' =>
      rw [entity] at keyed'
      rw [(List.getElem?_inj (List.getElem?_eq_some_iff.mp keyed).1 entityKeys).mp (keyed.trans keyed'.symm)]

/-- A subscriber gets the tokens of its own domain. -/
theorem GraphContext.Sound.subscribes_iff (sound : context.Sound setting) (keyed : context.key owner = some key)
    (observer : GraphContext) :
    observer.subscribes key = true ↔ observer.session.domainId = context.session.domainId := by
  obtain ⟨rest, same⟩ : ∃ rest,
      key = adminSpace ++ '/' :: (decimal context.session.domainId.toNat ++ '/' :: rest) := by
    cases owner with
    | node index =>
      obtain ⟨owner, looked, rfl⟩ := Option.map_eq_some_iff.mp keyed
      obtain ⟨_, domain, _⟩ := sound.session.nodes index owner looked
      obtain ⟨rest, key⟩ := nodeKey_eq_token owner.node
      rw [key, domain]
      exact ⟨_, rfl⟩
    | entity index =>
      obtain ⟨entity, looked, rfl⟩ := Option.map_eq_some_iff.mp keyed
      obtain ⟨_, ⟨rest, key⟩, _⟩ := sound.session.keyed entity (List.mem_of_getElem? looked)
      rw [key]
      exact ⟨_, rfl⟩
  have spelled : ∀ domainId : UInt16, (graphCacheKeyexpr domainId).take ((graphCacheKeyexpr domainId).length - 2) =
      adminSpace ++ '/' :: (decimal domainId.toNat ++ ['/']) := by
    intro domainId
    have split :
        graphCacheKeyexpr domainId = adminSpace ++ '/' :: (decimal domainId.toNat ++ ['/']) ++ "**".toList := by
      simp [graphCacheKeyexpr, List.intercalate_cons_cons]
    rw [split]
    apply List.take_left'
    simp only [List.length_append, List.length_cons]
    rfl
  have digits : ∀ number, '/' ∉ decimal number := not_mem_decimal rfl
  rw [subscribes, matchesSubtree, spelled, List.isPrefixOf_iff_prefix, same]
  constructor
  · intro ⟨tail, joined⟩
    rw [List.append_assoc, List.cons_append, append_cons_inj_left (by decide) (by decide), List.append_assoc,
      List.singleton_append, append_cons_inj_left (digits _) (digits _), decimal_inj, UInt16.toNat_inj] at joined
    exact joined.2.1
  · intro domain
    rw [domain]
    exact ⟨rest, by simp⟩

end Keys

section Advance

variable {label : SessionLabel Message} {after : Session}

theorem Session.createNext_creating {before : Session} {xxh3 : List UInt8 → BitVec 128} {index : Nat}
    {progress : Creating} {declared : Bool} (stepped : before.createNext xxh3 index progress declared = some after)
    (looked : before.creating[index]? = some progress)
    (tokenable : ∀ progress ∈ before.creating, AllTokenable progress.remaining) :
    ∀ progress ∈ after.creating, AllTokenable progress.remaining := by
  have fewer : ∀ progress ∈ before.creating.eraseIdx index, AllTokenable progress.remaining :=
    fun progress member => tokenable progress (List.mem_of_mem_eraseIdx member)
  unfold createNext at stepped
  split at stepped
  · rename_i made rest remaining
    split at stepped
    · cases stepped
      exact fewer
    · obtain ⟨owner, _, rfl⟩ := Option.map_eq_some_iff.mp stepped
      have parts := tokenable progress (List.mem_of_getElem? looked)
      rw [remaining] at parts
      exact forall_set tokenable (List.forall_mem_cons.mp parts).2
  · cases stepped
    exact fewer

theorem Session.step_creating {before : Session}
    (stepped : before.step setting.xxh3 setting.sha256 setting.ext setting.codec label = some after)
    (tokenable : ∀ progress ∈ before.creating, AllTokenable progress.remaining)
    (proper : ∀ node call, label = .create node call → call.Proper) :
    ∀ progress ∈ after.creating, AllTokenable progress.remaining := by
  cases label with
  | newNode name =>
    cases stepped
    exact tokenable
  | create node call =>
    obtain ⟨owner, _, rfl⟩ := Option.map_eq_some_iff.mp stepped
    intro progress member
    rcases List.mem_append.mp member with old | new
    · exact tokenable progress old
    · rw [List.mem_singleton.mp new]
      exact (proper node call rfl).allTokenable
  | createNext index declared =>
    obtain ⟨progress, looked, stepped⟩ := Option.bind_eq_some_iff.mp stepped
    exact createNext_creating stepped looked tokenable
  | send index call now =>
    obtain ⟨entity, looked, stepped⟩ := Option.bind_eq_some_iff.mp stepped
    split at stepped
    · cases stepped
      rcases SendCall.encode_cases setting.ext setting.codec entity.sender now call with ⟨_, failed⟩ | ⟨_, encoded⟩
      · simp only [Session.send, failed]
        exact tokenable
      · simp only [Session.send, encoded]
        exact tokenable
    · cases stepped
  | put index accepted =>
    obtain ⟨message, _, rfl⟩ := Option.map_eq_some_iff.mp stepped
    exact tokenable

theorem Session.nextPart_tokenable {session : Session} {part : EntityPart}
    (tokenable : ∀ progress ∈ session.creating, AllTokenable progress.remaining)
    (next : session.nextPart label = some part) : part.Tokenable := by
  cases label with
  | createNext index declared =>
    obtain ⟨progress, looked, next⟩ := Option.bind_eq_some_iff.mp next
    obtain ⟨made, head, same⟩ := Option.bind_eq_some_iff.mp next
    cases made with
    | error => cases same
    | ok made =>
      cases same
      exact tokenable progress (List.mem_of_getElem? looked) _ (List.mem_of_mem_head? head) part rfl
  | _ => cases next

theorem Session.Grows.key_kept {part : Option EntityPart} {key : Str} (grows : context.session.Grows part after)
    (keyed : context.key owner = some key) : (context.advance part after).key owner = some key := by
  cases owner with
  | node index =>
    obtain ⟨owner, looked, rfl⟩ := Option.map_eq_some_iff.mp keyed
    obtain ⟨later, found, same⟩ := grows.node_kept looked
    exact Option.map_eq_some_iff.mpr ⟨later, found, by rw [same]⟩
  | entity index =>
    obtain ⟨entity, looked, rfl⟩ := Option.map_eq_some_iff.mp keyed
    obtain ⟨later, found, same⟩ := grows.entity_kept looked
    exact Option.map_eq_some_iff.mpr ⟨later, found, congrArg (·.2.2.2) same⟩

theorem nodup_between {α : Type} {first new last : List α} (distinct : (first ++ last).Nodup) (fresh : new.Nodup)
    (unused : ∀ item ∈ new, item ∉ first ++ last) : (first ++ new ++ last).Nodup := by
  have moved : (first ++ new ++ last).Perm (new ++ (first ++ last)) := by
    rw [← List.append_assoc]
    exact List.perm_append_comm.append_right last
  rw [moved.nodup_iff, List.nodup_append]
  exact ⟨fresh, distinct, fun item member other member' same => unused item member (same ▸ member')⟩

def GraphContext.newOwners (context : GraphContext) (after : Session) : List TokenOwner :=
  (if context.session.nodes.length < after.nodes.length then [.node context.session.nodes.length] else []) ++
    if context.session.entities.length < after.entities.length then [.entity context.session.entities.length] else []

theorem GraphContext.newOwners_nodup (context : GraphContext) (after : Session) : (context.newOwners after).Nodup := by
  unfold newOwners
  split <;> split <;> simp

theorem GraphContext.newOwners_unkeyed (context : GraphContext) {after : Session}
    (member : owner ∈ context.newOwners after) : context.key owner = none := by
  rcases List.mem_append.mp member with node | entity
  · split at node
    · rw [List.mem_singleton.mp node, key, List.getElem?_eq_none le_rfl]
      rfl
    · cases node
  · split at entity
    · rw [List.mem_singleton.mp entity, key, List.getElem?_eq_none le_rfl]
      rfl
    · cases entity

theorem GraphContext.newOwners_keyed {part : Option EntityPart} (member : owner ∈ context.newOwners after) :
    ∃ key, (context.advance part after).key owner = some key := by
  rcases List.mem_append.mp member with node | entity
  · split at node
    · rename_i grown
      rw [List.mem_singleton.mp node]
      exact ⟨_, Option.map_eq_some_iff.mpr ⟨_, List.getElem?_eq_getElem grown, rfl⟩⟩
    · cases node
  · split at entity
    · rename_i grown
      rw [List.mem_singleton.mp entity]
      exact ⟨_, Option.map_eq_some_iff.mpr ⟨_, List.getElem?_eq_getElem grown, rfl⟩⟩
    · cases entity

theorem SessionEntity.MadeFrom.of_token {entity later : SessionEntity} {part : EntityPart} {owner owner' : SessionNode}
    (made : entity.MadeFrom part owner) (same : later.token = entity.token) (node : owner'.node = owner.node) :
    later.MadeFrom part owner' := by
  obtain ⟨_, entityId, kind, key⟩ : later.node = entity.node ∧ later.entityId = entity.entityId ∧
      later.kind = entity.kind ∧ later.key = entity.key := by
    simpa [token] using same
  exact ⟨kind.trans made.1, by rw [key, made.2, entityId, node]⟩

theorem GraphContext.Sound.made_kept {part : Option EntityPart} (sound : context.Sound setting)
    (grows : context.session.Grows part after) {index : Nat} {old entity : SessionEntity}
    (looked : context.session.entities[index]? = some old) (same : entity.token = old.token) :
    ∃ made owner, context.parts[index]? = some made ∧ after.nodes[entity.node]? = some owner ∧
      entity.MadeFrom made owner := by
  obtain ⟨made, owner, placed, node, from_⟩ := sound.made index old looked
  obtain ⟨later, found, kept⟩ := grows.node_kept node
  have node : entity.node = old.node := congrArg Prod.fst same
  exact ⟨made, later, placed, node ▸ found, from_.of_token same kept⟩

theorem GraphContext.Sound.advance_parts {part : Option EntityPart} (sound : context.Sound setting)
    (grows : context.session.Grows part after) :
    (∀ made ∈ (context.advance part after).parts, made ∈ context.parts ∨ part = some made) ∧
    (context.advance part after).parts.length = after.entities.length ∧
    ∀ (index : Nat) (entity : SessionEntity), after.entities[index]? = some entity →
      ∃ made owner, (context.advance part after).parts[index]? = some made ∧ after.nodes[entity.node]? = some owner ∧
        entity.MadeFrom made owner := by
  have tokens : ∀ (index : Nat) (entity : SessionEntity), after.entities[index]? = some entity →
      (after.entities.map SessionEntity.token)[index]? = some entity.token := by
    intro index entity looked
    rw [List.getElem?_map, looked]
    rfl
  rcases grows.entities with same | ⟨made, index, owner, entityId, rfl, node, grown⟩
  · have count : after.entities.length = context.session.entities.length := by
      simpa using congrArg List.length same
    have parts : (context.advance part after).parts = context.parts := by
      simp [GraphContext.advance, count]
    rw [parts]
    refine ⟨fun _ => .inl, sound.length.trans count.symm, ?_⟩
    intro index entity looked
    have token := tokens index entity looked
    rw [same, List.getElem?_map] at token
    obtain ⟨old, found, kept⟩ := Option.map_eq_some_iff.mp token
    exact sound.made_kept grows found kept.symm
  · have count : after.entities.length = context.session.entities.length + 1 := by
      simpa using congrArg List.length grown
    have parts : (context.advance (some made) after).parts = context.parts ++ [made] := by
      simp [GraphContext.advance, count]
    rw [parts]
    refine ⟨?_, ?_, ?_⟩
    · intro other member
      rcases List.mem_append.mp member with old | new
      · exact .inl old
      · exact .inr (by rw [List.mem_singleton.mp new])
    · rw [List.length_append, List.length_singleton, sound.length, count]
    · intro place entity looked
      have token := tokens place entity looked
      rw [grown] at token
      rcases lookup_concat token with old | ⟨last, new⟩
      · rw [List.getElem?_map] at old
        obtain ⟨old, found, kept⟩ := Option.map_eq_some_iff.mp old
        obtain ⟨part, owner, placed, rest⟩ := sound.made_kept grows found kept.symm
        rw [List.getElem?_append_left (List.getElem?_eq_some_iff.mp placed).1]
        exact ⟨part, owner, placed, rest⟩
      · obtain ⟨later, found, kept⟩ := grows.node_kept node
        obtain ⟨rfl, rfl, kind, key⟩ : entity.node = index ∧ entity.entityId = entityId ∧ entity.kind = made.kind ∧
            entity.key = _ := by
          simpa [SessionEntity.token] using new
        rw [List.length_map] at last
        refine ⟨made, later, ?_, found, kind, by rw [key, kept]⟩
        rw [last, ← sound.length]
        exact List.getElem?_concat_length

theorem GraphContext.Sound.advance (sound : context.Sound setting)
    (stepped : context.session.step setting.xxh3 setting.sha256 setting.ext setting.codec label = some after)
    (roomy : context.session.roomy label = true) (proper : ∀ node call, label = .create node call → call.Proper) :
    (context.advance (context.session.nextPart label) after).Sound setting := by
  have grows := Session.step_grows stepped
  have owners : (context.advance (context.session.nextPart label) after).undeclared =
      context.undeclared ++ context.newOwners after := List.append_assoc ..
  obtain ⟨parts, length, made⟩ := sound.advance_parts grows
  refine ⟨sound.session.step roomy stepped, Session.step_creating stepped sound.creating proper, ?_, length, made,
    ?_, ?_⟩
  · intro part member
    rcases parts part member with old | new
    · exact sound.tokenable part old
    · exact Session.nextPart_tokenable sound.creating new
  · intro owner member
    rw [owners, List.append_assoc, List.mem_append, List.mem_append] at member
    rcases member with old | new | old
    · obtain ⟨key, keyed⟩ := sound.held owner (List.mem_append_left _ old)
      exact ⟨key, grows.key_kept keyed⟩
    · exact GraphContext.newOwners_keyed new
    · obtain ⟨key, keyed⟩ := sound.held owner (List.mem_append_right _ old)
      exact ⟨key, grows.key_kept keyed⟩
  · rw [owners]
    apply nodup_between sound.once (context.newOwners_nodup after)
    intro owner new old
    obtain ⟨key, keyed⟩ := sound.held owner old
    rw [context.newOwners_unkeyed new] at keyed
    cases keyed

end Advance

end Ros2Client.Zenoh
