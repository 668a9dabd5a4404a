import Ros2Client.Zenoh.TokenOwners

open Text Transition
open Std (TreeMap)

namespace Ros2Client.Zenoh

def tokenUpdates : KeyedUpdates Str TokenSample (Option ParsedEntity) where
  key := TokenSample.key
  apply sample entry :=
    match sample.kind with
    | .put => (parseLivelinessKey sample.key).or entry
    | .delete => none

def GraphContext.entries (context : GraphContext) (key : Str) : Option ParsedEntity := context.cache.entities[key]?

/-- The graph of a context, once all samples on their way have come, has the tokens that are alive and that it
    subscribes to, and no others. -/
def GraphContext.Settles (context : GraphContext) (alive : Str → Prop) : Prop :=
  ∀ key entity, tokenUpdates.settle context.entries context.inFlight key = some entity ↔
    parseLivelinessKey key = some entity ∧ alive key ∧ context.subscribes key = true

def GraphContext.HasToken (context : GraphContext) (key : Str) : Prop :=
  ∃ owner ∈ context.alive, context.key owner = some key

def Alive (contexts : List GraphContext) (key : Str) : Prop :=
  ∃ (place : Nat) (context : GraphContext), contexts[place]? = some context ∧ context.HasToken key

structure SharedGraph {Message : Type} (setting : GraphSetting Message) (contexts : List GraphContext) : Prop where
  each : ∀ context ∈ contexts, context.Sound setting
  zids : (contexts.map (·.session.zid.text)).Nodup
  settled : ∀ context ∈ contexts, context.Settles (Alive contexts)

variable {Message : Type} {setting : GraphSetting Message} {contexts after : List GraphContext}
  {context changed : GraphContext} {index : Nat} {key : Str} {alive alive' : Str → Prop}

theorem entries_onSample (context : GraphContext) (sample : TokenSample) :
    GraphContext.entries { context with cache := context.cache.onSample sample } =
      tokenUpdates.one context.entries sample := by
  funext key
  obtain ⟨token, kind⟩ := sample
  have own : tokenUpdates.key ⟨token, kind⟩ = token := rfl
  by_cases same : token = key
  · subst same
    rw [KeyedUpdates.one_same own]
    cases kind with
    | put =>
      show (context.cache.apply (.put token)).entities[token]? = _
      rw [GraphCache.apply_entities, Entities.getElem?_apply, if_pos rfl]
      rfl
    | delete =>
      show (context.cache.apply (.delete token)).entities[token]? = _
      rw [GraphCache.apply_entities, Entities.getElem?_apply, if_neg (by simp), if_pos rfl]
      rfl
  · rw [KeyedUpdates.one_other same]
    cases kind with
    | put =>
      show (context.cache.apply (.put token)).entities[key]? = _
      rw [GraphCache.apply_entities, Entities.getElem?_apply, if_neg (by simpa using same), if_neg (by simp)]
      rfl
    | delete =>
      show (context.cache.apply (.delete token)).entities[key]? = _
      rw [GraphCache.apply_entities, Entities.getElem?_apply, if_neg (by simp), if_neg (by simpa using same)]
      rfl

theorem entries_ofApplication (context : GraphContext) {op : GraphOp} (own : op.ofApplication = true) :
    GraphContext.entries { context with cache := context.cache.apply op } = context.entries := by
  funext key
  show (context.cache.apply op).entities[key]? = _
  rw [GraphCache.apply_entities]
  cases op with
  | put | delete => cases own
  | subscribe | recv | drop => rfl

theorem GraphContext.Settles.congr (settles : context.Settles alive) (same : ∀ key, alive' key ↔ alive key) :
    context.Settles alive' := by
  intro key entity
  rw [settles key entity, same key]

/-- Every context that subscribes to a token hears of its change. -/
theorem GraphContext.Settles.send (settles : context.Settles alive) (kind : SampleKind) (token : Str)
    {later : Str → Prop} (others : ∀ key, key ≠ token → (later key ↔ alive key))
    (own : ∀ value entity, (value = some entity → parseLivelinessKey token = some entity) →
      (tokenUpdates.apply ⟨token, kind⟩ value = some entity ↔ parseLivelinessKey token = some entity ∧ later token)) :
    (context.send kind token).Settles later := by
  intro key entity
  have before := settles key entity
  unfold GraphContext.send
  by_cases subscribed : context.subscribes token = true
  · rw [if_pos subscribed]
    show tokenUpdates.settle context.entries (context.inFlight ++ [⟨token, kind⟩]) key = some entity ↔
      _ ∧ _ ∧ context.subscribes key = true
    have named : tokenUpdates.key ⟨token, kind⟩ = token := rfl
    rw [KeyedUpdates.settle_concat]
    by_cases same : token = key
    · subst same
      rw [KeyedUpdates.one_same named, own _ _ fun found => (before.mp found).1]
      simp [subscribed]
    · rw [KeyedUpdates.one_other same, before, others key (Ne.symm same)]
  · rw [if_neg subscribed, before]
    by_cases same : key = token
    · subst same
      simp [subscribed]
    · rw [others key same]

theorem GraphContext.Settles.put (settles : context.Settles alive) (token : Str) :
    (context.send .put token).Settles fun key => key = token ∨ alive key := by
  refine settles.send .put token ?_ ?_
  · intro key other
    simp only [other, false_or]
  · intro value entity parsed
    show (parseLivelinessKey token).or value = some entity ↔ _
    rw [Option.or_eq_some_iff]
    tauto

theorem GraphContext.Settles.delete (settles : context.Settles alive) (token : Str) :
    (context.send .delete token).Settles fun key => key ≠ token ∧ alive key := by
  refine settles.send .delete token ?_ ?_
  · intro key other
    simp only [ne_eq, other, not_false_eq_true, true_and]
  · intro value entity _
    show none = some entity ↔ _
    simp

theorem GraphContext.Sound.onGraph (sound : context.Sound setting) (cache : GraphCache) (inFlight : List TokenSample) :
    GraphContext.Sound setting { context with cache, inFlight } :=
  ⟨sound.session, sound.creating, sound.tokenable, sound.length, sound.made, sound.held, sound.once⟩

theorem GraphContext.send_eq (context : GraphContext) (kind : SampleKind) (token : Str) :
    ∃ inFlight, context.send kind token = { context with inFlight } := by
  unfold GraphContext.send
  split
  · exact ⟨_, rfl⟩
  · exact ⟨context.inFlight, rfl⟩

theorem GraphContext.Sound.send (sound : context.Sound setting) (kind : SampleKind) (token : Str) :
    (context.send kind token).Sound setting := by
  obtain ⟨inFlight, same⟩ := context.send_eq kind token
  rw [same]
  exact sound.onGraph context.cache inFlight

structure SameTokens (before after : GraphContext) : Prop where
  domainId : after.session.domainId = before.session.domainId
  zid : after.session.zid = before.session.zid
  keys : ∀ owner key, before.key owner = some key → after.key owner = some key
  settle : tokenUpdates.settle after.entries after.inFlight = tokenUpdates.settle before.entries before.inFlight

theorem SameTokens.settles (same : SameTokens context changed) (settles : context.Settles alive) :
    changed.Settles alive := by
  intro key entity
  rw [same.settle, settles key entity, GraphContext.subscribes, GraphContext.subscribes, same.domainId]

theorem SharedGraph.set (shared : SharedGraph setting contexts) (looked : contexts[index]? = some context)
    (sound : changed.Sound setting) (same : SameTokens context changed) :
    (∀ context ∈ contexts.set index changed, context.Sound setting) ∧
    ((contexts.set index changed).map (·.session.zid.text)).Nodup ∧
    ∀ context ∈ contexts.set index changed, context.Settles (Alive contexts) := by
  refine ⟨forall_set shared.each sound, ?_, forall_set shared.settled ?_⟩
  · rw [map_set_same looked (by rw [same.zid])]
    exact shared.zids
  · exact same.settles (shared.settled context (List.mem_of_getElem? looked))

/-- What is alive once one context has changed, and what is alive in the others. -/
theorem alive_set (looked : contexts[index]? = some context) :
    Alive (contexts.set index changed) key ↔ changed.HasToken key ∨
      ∃ place other, place ≠ index ∧ contexts[place]? = some other ∧ other.HasToken key := by
  have inside := (List.getElem?_eq_some_iff.mp looked).1
  constructor
  · intro ⟨place, other, found, held⟩
    rcases lookup_set found with ⟨_, rfl⟩ | ⟨different, old⟩
    · exact .inl held
    · exact .inr ⟨place, other, different, old, held⟩
  · rintro (held | ⟨place, other, different, found, held⟩)
    · exact ⟨index, changed, List.getElem?_set_self inside, held⟩
    · exact ⟨place, other, (List.getElem?_set_ne different.symm).trans found, held⟩

theorem alive_iff (looked : contexts[index]? = some context) :
    Alive contexts key ↔ context.HasToken key ∨
      ∃ place other, place ≠ index ∧ contexts[place]? = some other ∧ other.HasToken key := by
  have same : contexts.set index context = contexts := by
    obtain ⟨inside, rfl⟩ := List.getElem?_eq_some_iff.mp looked
    exact List.set_getElem_self inside
  rw [← alive_set looked, same]

theorem alive_set_same (looked : contexts[index]? = some context)
    (same : ∀ key, changed.HasToken key ↔ context.HasToken key) :
    Alive (contexts.set index changed) key ↔ Alive contexts key := by
  rw [alive_set looked, alive_iff looked, same]

theorem alive_set_declared {token : Str} (looked : contexts[index]? = some context)
    (same : ∀ key, changed.HasToken key ↔ key = token ∨ context.HasToken key) :
    Alive (contexts.set index changed) key ↔ key = token ∨ Alive contexts key := by
  rw [alive_set looked, alive_iff looked, same, or_assoc]

theorem GraphContext.Sound.hasToken_same (sound : context.Sound setting) (alive : changed.alive = context.alive)
    (keys : ∀ owner key, context.key owner = some key → changed.key owner = some key) (key : Str) :
    changed.HasToken key ↔ context.HasToken key := by
  unfold GraphContext.HasToken
  rw [alive]
  constructor
  · intro ⟨owner, held, keyed⟩
    obtain ⟨key', keyed'⟩ := sound.held owner (List.mem_append_right _ held)
    have same := keys owner key' keyed'
    rw [keyed] at same
    exact ⟨owner, held, keyed'.trans same.symm⟩
  · intro ⟨owner, held, keyed⟩
    exact ⟨owner, held, keys owner key keyed⟩

/-- No token is declared in two contexts. -/
theorem SharedGraph.token_once (shared : SharedGraph setting contexts) {place place' : Nat} {other : GraphContext}
    {owner owner' : TokenOwner} (looked : contexts[place]? = some context) (looked' : contexts[place']? = some other)
    (keyed : context.key owner = some key) (keyed' : other.key owner' = some key) :
    place = place' ∧ owner = owner' := by
  have sound := shared.each context (List.mem_of_getElem? looked)
  obtain ⟨entity, _, parsed, _, zid⟩ := sound.parse_key keyed
  obtain ⟨entity', _, parsed', _, zid'⟩ := (shared.each other (List.mem_of_getElem? looked')).parse_key keyed'
  rw [parsed, Option.some_inj] at parsed'
  have texts : (contexts.map (·.session.zid.text))[place]? = (contexts.map (·.session.zid.text))[place']? := by
    rw [List.getElem?_map, List.getElem?_map, looked, looked', Option.map_some, Option.map_some, ← zid, ← zid',
      parsed']
  have inside : place < (contexts.map (·.session.zid.text)).length := by
    rw [List.length_map]
    exact (List.getElem?_eq_some_iff.mp looked).1
  have same := (List.getElem?_inj inside shared.zids).mp texts
  subst same
  rw [looked, Option.some_inj] at looked'
  subst looked'
  exact ⟨rfl, sound.owner_unique keyed keyed'⟩

theorem alive_send (kind : SampleKind) (token : Str) :
    Alive (contexts.map (GraphContext.send kind token)) key ↔ Alive contexts key := by
  have same : ∀ context : GraphContext, (context.send kind token).HasToken key ↔ context.HasToken key := by
    intro context
    obtain ⟨inFlight, sent⟩ := context.send_eq kind token
    rw [sent]
    rfl
  constructor
  · intro ⟨place, context, looked, held⟩
    rw [List.getElem?_map] at looked
    obtain ⟨before, found, rfl⟩ := Option.map_eq_some_iff.mp looked
    exact ⟨place, before, found, (same before).mp held⟩
  · intro ⟨place, context, looked, held⟩
    refine ⟨place, context.send kind token, ?_, (same context).mpr held⟩
    rw [List.getElem?_map, looked]
    rfl

theorem zids_send (kind : SampleKind) (token : Str) (contexts : List GraphContext) :
    (contexts.map (GraphContext.send kind token)).map (·.session.zid.text) = contexts.map (·.session.zid.text) := by
  rw [List.map_map]
  apply List.map_congr_left
  intro context _
  obtain ⟨inFlight, same⟩ := context.send_eq kind token
  rw [Function.comp_apply, same]

section Steps

theorem SharedGraph.set_same (shared : SharedGraph setting contexts) (looked : contexts[index]? = some context)
    (sound : changed.Sound setting) (same : SameTokens context changed)
    (tokens : ∀ key, changed.HasToken key ↔ context.HasToken key) :
    SharedGraph setting (contexts.set index changed) := by
  obtain ⟨each, zids, settled⟩ := shared.set looked sound same
  refine ⟨each, zids, ?_⟩
  intro other member
  exact (settled other member).congr fun key => alive_set_same looked tokens

/-- A context has changed which tokens are alive, and all of them get a sample about it. -/
theorem SharedGraph.announce (shared : SharedGraph setting contexts) (looked : contexts[index]? = some context)
    (sound : changed.Sound setting) (same : SameTokens context changed) {kind : SampleKind} {token : Str}
    {now : Str → Prop}
    (hears : ∀ other : GraphContext, other.Settles (Alive contexts) → (other.send kind token).Settles now)
    (tokens : ∀ key, Alive (contexts.set index changed) key ↔ now key) :
    SharedGraph setting ((contexts.set index changed).map (GraphContext.send kind token)) := by
  obtain ⟨each, zids, settled⟩ := shared.set looked sound same
  refine ⟨?_, (zids_send kind token _).symm ▸ zids, ?_⟩
  · rw [List.forall_mem_map]
    exact fun other member => (each other member).send kind token
  · rw [List.forall_mem_map]
    intro other member
    exact (hears other (settled other member)).congr fun key => (alive_send kind token).trans (tokens key)

theorem SharedGraph.act (shared : SharedGraph setting contexts) {label : SessionLabel Message}
    (proper : ∀ node call, label = .create node call → call.Proper)
    (roomy : ∀ context, contexts[index]? = some context → context.session.roomy label = true)
    (stepped : GraphNetwork.act setting contexts index label = some after) : SharedGraph setting after := by
  obtain ⟨context, looked, stepped⟩ := Option.bind_eq_some_iff.mp stepped
  obtain ⟨grown, moved, rfl⟩ := Option.map_eq_some_iff.mp stepped
  have sound := shared.each context (List.mem_of_getElem? looked)
  have grows := Session.step_grows moved
  have keys : ∀ owner key, context.key owner = some key →
      (context.advance (context.session.nextPart label) grown).key owner = some key := fun _ _ => grows.key_kept
  exact shared.set_same looked (sound.advance moved (roomy context looked) proper)
    ⟨grows.domainId, grows.zid, keys, rfl⟩ (sound.hasToken_same rfl keys)

theorem GraphContext.Sound.declared (sound : context.Sound setting) {number : Nat} {owner : TokenOwner}
    (pending : context.undeclared[number]? = some owner) (accepted : Bool) :
    GraphContext.Sound setting { context with
      undeclared := context.undeclared.eraseIdx number
      alive := if accepted then context.alive ++ [owner] else context.alive } := by
  have fewer : List.Subperm (context.undeclared.eraseIdx number ++
      if accepted then context.alive ++ [owner] else context.alive) (context.undeclared ++ context.alive) := by
    obtain ⟨inside, rfl⟩ := List.getElem?_eq_some_iff.mp pending
    cases accepted with
    | true =>
      have moved : (context.undeclared.eraseIdx number ++ (context.alive ++ [context.undeclared[number]])).Perm
          (context.undeclared[number] :: context.undeclared.eraseIdx number ++ context.alive) := by
        rw [← List.append_assoc]
        exact List.perm_append_singleton _ _
      exact (moved.trans ((List.getElem_cons_eraseIdx_perm inside).append_right _)).subperm
    | false => exact ((List.eraseIdx_sublist ..).append_right _).subperm
  refine ⟨sound.session, sound.creating, sound.tokenable, sound.length, sound.made, ?_, ?_⟩
  · intro other member
    exact sound.held other (fewer.subset member)
  · obtain ⟨kept, permuted, sublist⟩ := fewer
    exact permuted.nodup_iff.mp (sublist.nodup sound.once)

theorem SharedGraph.declare (shared : SharedGraph setting contexts) {number : Nat} {accepted : Bool}
    (stepped : GraphNetwork.step setting contexts (.declare index number accepted) = some after) :
    SharedGraph setting after := by
  obtain ⟨context, looked, stepped⟩ := Option.bind_eq_some_iff.mp stepped
  obtain ⟨owner, pending, stepped⟩ := Option.bind_eq_some_iff.mp stepped
  obtain ⟨token, keyed, rfl⟩ := Option.map_eq_some_iff.mp stepped
  have sound := shared.each context (List.mem_of_getElem? looked)
  have declared := sound.declared pending accepted
  cases accepted with
  | true =>
    apply shared.announce looked declared ⟨rfl, rfl, fun _ _ keyed => keyed, rfl⟩
      (fun other settles => settles.put token)
    intro key
    apply alive_set_declared looked
    intro key
    constructor
    · intro ⟨other, member, keyed'⟩
      rcases List.mem_append.mp member with old | new
      · exact .inr ⟨other, old, keyed'⟩
      · rw [List.mem_singleton.mp new] at keyed'
        exact .inl (Option.some.inj (keyed'.symm.trans keyed))
    · rintro (rfl | ⟨other, member, keyed'⟩)
      · exact ⟨owner, List.mem_append_right _ List.mem_cons_self, keyed⟩
      · exact ⟨other, List.mem_append_left _ member, keyed'⟩
  | false => exact shared.set_same looked declared ⟨rfl, rfl, fun _ _ keyed => keyed, rfl⟩ fun _ => Iff.rfl

theorem GraphContext.Sound.undeclared (sound : context.Sound setting) {number : Nat} {owner : TokenOwner} {token : Str}
    (held : context.alive[number]? = some owner) (keyed : context.key owner = some token) :
    GraphContext.Sound setting { context with alive := context.alive.eraseIdx number } ∧
      ∀ key, GraphContext.HasToken { context with alive := context.alive.eraseIdx number } key ↔
        key ≠ token ∧ context.HasToken key := by
  have fewer := (List.eraseIdx_sublist context.alive number).append_left context.undeclared
  refine ⟨⟨sound.session, sound.creating, sound.tokenable, sound.length, sound.made, ?_, ?_⟩, ?_⟩
  · exact fun other member => sound.held other (fewer.subset member)
  · exact fewer.nodup sound.once
  · intro key
    have once := (List.nodup_append.mp sound.once).2.1
    constructor
    · intro ⟨other, member, keyed'⟩
      obtain ⟨place, different, found⟩ := List.mem_eraseIdx_iff_getElem?.mp member
      refine ⟨?_, other, List.mem_of_getElem? found, keyed'⟩
      rintro rfl
      have same := sound.owner_unique keyed keyed'
      rw [← same, ← held] at found
      exact different ((List.getElem?_inj (List.getElem?_eq_some_iff.mp (found.trans held)).1 once).mp found)
    · intro ⟨different, other, member, keyed'⟩
      obtain ⟨place, found⟩ := List.getElem?_of_mem member
      refine ⟨other, List.mem_eraseIdx_iff_getElem?.mpr ⟨place, ?_, found⟩, keyed'⟩
      rintro rfl
      rw [held, Option.some_inj] at found
      rw [← found, keyed, Option.some_inj] at keyed'
      exact different keyed'.symm

theorem SharedGraph.undeclare (shared : SharedGraph setting contexts) {number : Nat}
    (stepped : GraphNetwork.step setting contexts (.undeclare index number) = some after) :
    SharedGraph setting after := by
  obtain ⟨context, looked, stepped⟩ := Option.bind_eq_some_iff.mp stepped
  obtain ⟨owner, held, stepped⟩ := Option.bind_eq_some_iff.mp stepped
  obtain ⟨token, keyed, rfl⟩ := Option.map_eq_some_iff.mp stepped
  obtain ⟨sound, tokens⟩ :=
    (shared.each context (List.mem_of_getElem? looked)).undeclared held keyed
  apply shared.announce looked sound ⟨rfl, rfl, fun _ _ keyed => keyed, rfl⟩
    (fun other settles => settles.delete token)
  intro key
  rw [alive_set looked, alive_iff looked, tokens, and_or_left]
  apply or_congr_right
  constructor
  · intro ⟨place, other, different, found, owner', held', keyed'⟩
    refine ⟨?_, place, other, different, found, owner', held', keyed'⟩
    rintro rfl
    exact different (shared.token_once found looked keyed' keyed).1
  · exact And.right

theorem SharedGraph.deliver (shared : SharedGraph setting contexts) {number : Nat}
    (stepped : GraphNetwork.step setting contexts (.deliver index number) = some after) :
    SharedGraph setting after := by
  obtain ⟨context, looked, stepped⟩ := Option.bind_eq_some_iff.mp stepped
  obtain ⟨sample, sent, stepped⟩ := Option.bind_eq_some_iff.mp stepped
  have sound := shared.each context (List.mem_of_getElem? looked)
  split at stepped
  · cases stepped
  · rename_i first
    cases stepped
    have next : tokenUpdates.Next context.inFlight number sample := by
      refine ⟨sent, ?_⟩
      intro earlier member same
      exact first (List.any_eq_true.mpr ⟨earlier, member, decide_eq_true same⟩)
    have delivered := sound.onGraph (context.cache.onSample sample) (context.inFlight.eraseIdx number)
    apply shared.set_same looked delivered ⟨rfl, rfl, fun _ _ keyed => keyed, _⟩ fun _ => Iff.rfl
    rw [← KeyedUpdates.settle_deliver next, ← entries_onSample]
    rfl

theorem SharedGraph.watch (shared : SharedGraph setting contexts) {op : GraphOp}
    (stepped : GraphNetwork.step setting contexts (.watch index op) = some after) : SharedGraph setting after := by
  simp only [GraphNetwork.step] at stepped
  split at stepped
  · rename_i own
    obtain ⟨context, looked, rfl⟩ := Option.map_eq_some_iff.mp stepped
    have sound := shared.each context (List.mem_of_getElem? looked)
    have watched := sound.onGraph (context.cache.apply op) context.inFlight
    apply shared.set_same looked watched ⟨rfl, rfl, fun _ _ keyed => keyed, _⟩ fun _ => Iff.rfl
    show tokenUpdates.settle (GraphContext.entries { context with cache := context.cache.apply op }) _ = _
    rw [entries_ofApplication context own]
  · cases stepped

theorem opened_sound (domainId : UInt16) (zid : ZenohId) (inFlight : List TokenSample) : GraphContext.Sound setting
    ⟨(session setting.xxh3 setting.sha256 setting.ext setting.codec domainId zid).initial,
      [], [], [], .new, inFlight⟩ := by
  refine ⟨⟨rfl, ?_, ?_, ?_, List.nodup_nil, ?_, ?_, List.nodup_nil⟩, ?_, ?_, rfl, ?_, ?_, List.nodup_nil⟩
  all_goals simp [session]

theorem settle_history (keys : List Str) (key : Str) (entity : ParsedEntity) :
    tokenUpdates.settle (fun key => GraphCache.new.entities[key]?) (keys.map fun key => ⟨key, .put⟩) key = some entity ↔
      parseLivelinessKey key = some entity ∧ key ∈ keys := by
  induction keys using List.reverseRecOn with
  | nil => simp [KeyedUpdates.settle, GraphCache.new]
  | append_singleton keys last ih =>
    have own : tokenUpdates.key ⟨last, .put⟩ = last := rfl
    rw [List.map_append, List.map_singleton, KeyedUpdates.settle_concat, List.mem_append, List.mem_singleton]
    by_cases same : last = key
    · subst same
      rw [KeyedUpdates.one_same own]
      show (parseLivelinessKey last).or _ = some entity ↔ _
      rw [Option.or_eq_some_iff, ih]
      tauto
    · rw [KeyedUpdates.one_other same, ih]
      simp only [Ne.symm same, or_false]

theorem mem_tokens : key ∈ GraphNetwork.tokens contexts ↔ Alive contexts key := by
  simp only [GraphNetwork.tokens, List.mem_flatMap, List.mem_filterMap]
  constructor
  · intro ⟨context, member, held⟩
    obtain ⟨place, looked⟩ := List.getElem?_of_mem member
    exact ⟨place, context, looked, held⟩
  · intro ⟨place, context, looked, held⟩
    exact ⟨context, List.mem_of_getElem? looked, held⟩

theorem alive_concat {opened : GraphContext} (silent : opened.alive = []) :
    Alive (contexts ++ [opened]) key ↔ Alive contexts key := by
  constructor
  · intro ⟨place, context, looked, held⟩
    rcases lookup_concat looked with old | ⟨_, rfl⟩
    · exact ⟨place, context, old, held⟩
    · obtain ⟨owner, member, _⟩ := held
      rw [silent] at member
      cases member
  · intro ⟨place, context, looked, held⟩
    exact ⟨place, context, (List.getElem?_append_left (List.getElem?_eq_some_iff.mp looked).1).trans looked, held⟩

/-- A context that opens later hears of all tokens that are alive then. -/
theorem SharedGraph.openContext (shared : SharedGraph setting contexts) {domainId : UInt16} {zid : ZenohId}
    (stepped : GraphNetwork.step setting contexts (.openContext domainId zid) = some after) :
    SharedGraph setting after := by
  simp only [GraphNetwork.step] at stepped
  split at stepped
  · cases stepped
  · rename_i fresh
    cases stepped
    refine ⟨?_, ?_, ?_⟩
    · intro context member
      rcases List.mem_append.mp member with old | new
      · exact shared.each context old
      · rw [List.mem_singleton.mp new]
        exact opened_sound domainId zid _
    · rw [List.map_append, List.nodup_append]
      refine ⟨shared.zids, List.nodup_singleton _, ?_⟩
      intro text old text' new same
      obtain ⟨context, member, rfl⟩ := List.mem_map.mp old
      rw [List.mem_singleton.mp new] at same
      exact fresh (List.any_eq_true.mpr ⟨context, member, decide_eq_true same⟩)
    · intro context member
      rcases List.mem_append.mp member with old | new
      · exact (shared.settled context old).congr fun key => alive_concat rfl
      · rw [List.mem_singleton.mp new]
        intro key entity
        have history := settle_history
          ((GraphNetwork.tokens contexts).filter (matchesSubtree (graphCacheKeyexpr domainId))) key entity
        rw [List.mem_filter, mem_tokens] at history
        exact history.trans (and_congr_right fun _ => and_congr_left fun _ => (alive_concat rfl).symm)

end Steps

theorem shared_graph {network : List GraphContext}
    (reachable : ((graphNetwork setting).restrict fun network label =>
      GraphNetwork.roomy network label = true).Reachable network) : SharedGraph setting network := by
  apply reachable.invariant (SharedGraph setting)
  · exact ⟨List.forall_mem_nil _, List.nodup_nil, List.forall_mem_nil _⟩
  · intro before label after shared stepped
    obtain ⟨roomy, stepped⟩ := System.restrict_step.mp stepped
    cases label with
    | openContext domainId zid => exact shared.openContext stepped
    | act index label =>
      have stepped : (if label.creates then none else GraphNetwork.act setting before index label) = some after :=
        stepped
      split at stepped
      · cases stepped
      · rename_i other
        apply shared.act _ _ stepped
        · rintro node call rfl
          exact absurd rfl other
        · intro context looked
          simpa [GraphNetwork.roomy, looked] using roomy
    | create index node call =>
      apply shared.act _ _ stepped
      · intro node call same
        cases same
        exact call.2
      · exact fun _ _ => rfl
    | declare index number accepted => exact shared.declare stepped
    | undeclare index number => exact shared.undeclare stepped
    | deliver index number => exact shared.deliver stepped
    | watch index op => exact shared.watch stepped

end Ros2Client.Zenoh
