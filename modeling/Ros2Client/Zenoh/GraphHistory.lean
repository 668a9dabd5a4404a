import Ros2Client.Transition.Channel
import Ros2Client.Zenoh.GraphCache
import Mathlib.Data.Char
import Mathlib.Data.List.Lex
import Mathlib.Data.Set.Card

open Text Transition
open Std (TreeMap)

namespace Ros2Client

def Entities.nodeNames (entities : Entities) : List Str :=
  let names := ((entities.toList.map (·.2)).filter (·.kind = .node)).map fun entity =>
    joinFqn entity.nodeNamespace entity.nodeName
  dropRepeats (names.mergeSort fun first second => first ≤ second)

/-- The receiver of a subscription: what stands in its channel and what has been taken out of it. -/
structure GraphStream where
  channel : Channel GraphEvent
  taken : List GraphEvent

def GraphStream.received (stream : GraphStream) : List GraphEvent := stream.taken ++ stream.channel.queue

structure GraphCache where
  entities : Entities
  /-- The senders that the cache holds, by the streams they lead to. -/
  subscribers : List Nat
  streams : List GraphStream

def GraphCache.new : GraphCache := ⟨∅, [], []⟩

def GraphCache.isClosed (cache : GraphCache) (subscriber : Nat) : Bool :=
  cache.streams[subscriber]?.any (·.channel.closed)

def offerTo (event : GraphEvent) (streams : List GraphStream) (subscriber : Nat) : List GraphStream :=
  streams.modify subscriber fun stream => { stream with channel := stream.channel.offer event }

def GraphCache.broadcast (cache : GraphCache) (event : GraphEvent) : GraphCache :=
  let subscribers := cache.subscribers.filter fun subscriber => !cache.isClosed subscriber
  { cache with subscribers := subscribers, streams := subscribers.foldl (offerTo event) cache.streams }

def GraphCache.applyPut (cache : GraphCache) (key : Str) : GraphCache :=
  match parseLivelinessKey key with
  | some entity =>
    let event := .entityDeclared (.ofParsed entity)
    { cache with entities := cache.entities.insert key entity }.broadcast event
  | none => cache

def GraphCache.applyDelete (cache : GraphCache) (key : Str) : GraphCache :=
  match cache.entities[key]? with
  | some entity =>
    { cache with entities := cache.entities.erase key }.broadcast (.entityUndeclared (.ofParsed entity))
  | none => cache

def GraphCache.subscribe (cache : GraphCache) : GraphCache :=
  { cache with
    subscribers := cache.subscribers ++ [cache.streams.length]
    streams := cache.streams ++ [⟨Channel.new none, []⟩] }

def GraphStream.recv (stream : GraphStream) : GraphStream :=
  match stream.channel.queue with
  | [] => stream
  | event :: rest => ⟨{ stream.channel with queue := rest }, stream.taken ++ [event]⟩

def GraphStream.drop (stream : GraphStream) : GraphStream := { stream with channel := stream.channel.close }

inductive GraphOp
  | put (key : Str)
  | delete (key : Str)
  | subscribe
  | recv (stream : Nat)
  | drop (stream : Nat)
deriving DecidableEq

def GraphCache.apply (cache : GraphCache) : GraphOp → GraphCache
  | .put key => cache.applyPut key
  | .delete key => cache.applyDelete key
  | .subscribe => cache.subscribe
  | .recv stream => { cache with streams := cache.streams.modify stream GraphStream.recv }
  | .drop stream => { cache with streams := cache.streams.modify stream GraphStream.drop }

def GraphCache.run (cache : GraphCache) (ops : List GraphOp) : GraphCache := ops.foldl GraphCache.apply cache

def LastIsPut (ops : List GraphOp) (key : Str) : Prop :=
  ∃ earlier later, ops = earlier ++ .put key :: later ∧ .delete key ∉ later

/-- The cache holds the tokens that are alive after the operations, and nothing else. -/
structure HoldsLiveTokens (ops : List GraphOp) (cache : GraphCache) : Prop where
  entities : ∀ (key : Str) (entity : ParsedEntity), cache.entities[key]? = some entity ↔
    parseLivelinessKey key = some entity ∧ LastIsPut ops key
  counts : ∀ kind topic, cache.entities.countKindOnTopic kind topic =
    Set.ncard {key | LastIsPut ops key ∧ ∃ entity, parseLivelinessKey key = some entity ∧ entity.kind = kind ∧
      entity.topicName = some topic}
  increasing : cache.entities.nodeNames.Pairwise (· < ·)
  names : ∀ name, name ∈ cache.entities.nodeNames ↔ ∃ key entity, LastIsPut ops key ∧
    parseLivelinessKey key = some entity ∧ entity.kind = .node ∧ joinFqn entity.nodeNamespace entity.nodeName = name
  absent : ∀ key : Str, cache.entities[key]? = none → cache.applyDelete key = cache

def Entities.apply (entities : Entities) : GraphOp → Entities
  | .put key =>
    match parseLivelinessKey key with
    | some entity => entities.insert key entity
    | none => entities
  | .delete key => if entities[key]?.isSome then entities.erase key else entities
  | _ => entities

theorem GraphCache.apply_entities (cache : GraphCache) (op : GraphOp) :
    (cache.apply op).entities = cache.entities.apply op := by
  cases op with
  | put key =>
    simp only [GraphCache.apply, GraphCache.applyPut, Entities.apply]
    cases parseLivelinessKey key <;> rfl
  | delete key =>
    simp only [GraphCache.apply, GraphCache.applyDelete, Entities.apply]
    cases cache.entities[key]? <;> rfl
  | subscribe => rfl
  | recv stream => rfl
  | drop stream => rfl

theorem GraphCache.run_entities (cache : GraphCache) (ops : List GraphOp) :
    (cache.run ops).entities = ops.foldl Entities.apply cache.entities := by
  induction ops generalizing cache with
  | nil => rfl
  | cons op ops ih =>
    rw [GraphCache.run, List.foldl_cons, List.foldl_cons, ← apply_entities]
    exact ih (cache.apply op)

theorem lastIsPut_concat {ops : List GraphOp} {op : GraphOp} {key : Str} :
    LastIsPut (ops ++ [op]) key ↔ op = .put key ∨ (LastIsPut ops key ∧ op ≠ .delete key) := by
  constructor
  · intro last
    obtain ⟨earlier, later, split, undeleted⟩ := last
    rcases List.eq_nil_or_concat later with rfl | ⟨rest, final, rfl⟩
    · have same := List.append_inj_right' split rfl
      exact .inl (List.cons.inj same).1
    · rw [List.concat_eq_append, ← List.cons_append, ← List.append_assoc] at split
      obtain ⟨front, final'⟩ := List.append_inj' split rfl
      cases final'
      right
      refine ⟨⟨earlier, rest, front, ?_⟩, ?_⟩
      · intro member
        exact undeleted (by simp [member])
      · intro same
        exact undeleted (by simp [same])
  · intro held
    rcases held with rfl | ⟨⟨earlier, later, split, undeleted⟩, different⟩
    · exact ⟨ops, [], rfl, by simp⟩
    · refine ⟨earlier, later ++ [op], by simp [split], ?_⟩
      intro member
      rcases List.mem_append.mp member with old | new
      · exact undeleted old
      · exact different (List.mem_singleton.mp new).symm

/-- What one operation does to the entry of a key. -/
theorem Entities.getElem?_apply (entities : Entities) (op : GraphOp) (key : Str) :
    (entities.apply op)[key]? =
      if op = .put key then (parseLivelinessKey key).or entities[key]?
      else if op = .delete key then none else entities[key]? := by
  cases op with
  | put other =>
    by_cases same : other = key
    · subst same
      cases parsed : parseLivelinessKey other <;> simp [Entities.apply, parsed]
    · cases parsed : parseLivelinessKey other <;> simp [Entities.apply, parsed, same, TreeMap.getElem?_insert]
  | delete other =>
    by_cases same : other = key
    · subst same
      cases found : entities[other]? <;> simp [Entities.apply, found]
    · cases found : entities[other]? <;> simp [Entities.apply, found, same, TreeMap.getElem?_erase]
  | subscribe => simp [Entities.apply]
  | recv stream => simp [Entities.apply]
  | drop stream => simp [Entities.apply]

theorem entities_lastIsPut (ops : List GraphOp) (key : Str) (entity : ParsedEntity) :
    (ops.foldl Entities.apply ∅ : Entities)[key]? = some entity ↔
      parseLivelinessKey key = some entity ∧ LastIsPut ops key := by
  induction ops using List.reverseRecOn generalizing entity with
  | nil =>
    simp [LastIsPut]
  | append_singleton ops op ih =>
    rw [List.foldl_append, List.foldl_cons, List.foldl_nil, Entities.getElem?_apply, lastIsPut_concat]
    by_cases put : op = .put key
    · rw [if_pos put, Option.or_eq_some_iff, ih]
      constructor
      · intro found
        rcases found with parsed | ⟨_, parsed, _⟩
        · exact ⟨parsed, .inl put⟩
        · exact ⟨parsed, .inl put⟩
      · intro held
        exact .inl held.1
    · rw [if_neg put]
      by_cases deleted : op = .delete key
      · rw [if_pos deleted]
        simp [deleted]
      · rw [if_neg deleted, ih]
        simp [put, deleted]

theorem Entities.countKindOnTopic_eq_ncard (entities : Entities) (kind : EntityKind) (topic : Str) :
    entities.countKindOnTopic kind topic = Set.ncard {key : Str | ∃ entity, entities[key]? = some entity ∧
      entity.kind = kind ∧ entity.topicName = some topic} := by
  have distinct : ((entities.toList.filter fun entry => entry.2.counts kind topic).map (·.1)).Nodup := by
    rw [List.Nodup, List.pairwise_map]
    apply List.Pairwise.filter
    apply (TreeMap.distinct_keys_toList (t := entities)).imp
    intro first second different same
    exact different (by simp [same])
  have members : {key : Str | ∃ entity, entities[key]? = some entity ∧ entity.kind = kind ∧
      entity.topicName = some topic} =
      ((entities.toList.filter fun entry => entry.2.counts kind topic).map (·.1)).toFinset := by
    ext key
    simp only [Set.mem_ofPred_eq, List.coe_toFinset, List.mem_map, List.mem_filter, Prod.exists, exists_and_right,
      exists_eq_right, TreeMap.mem_toList_iff_getElem?_eq_some, ParsedEntity.counts, Bool.and_eq_true,
      decide_eq_true_eq]
  rw [members, Set.ncard_coe_finset, List.toFinset_card_of_nodup distinct, List.length_map, countKindOnTopic_eq,
    List.countP_eq_length_filter]

theorem Entities.nodeNames_increasing (entities : Entities) : entities.nodeNames.Pairwise (· < ·) := by
  apply dropRepeats_strict
  have sorted := @List.pairwise_mergeSort Str (fun first second => decide (first ≤ second))
    (by simpa using fun first second third => le_trans) (by simpa using le_total)
  simpa using sorted _

theorem Entities.mem_nodeNames {entities : Entities} {name : Str} :
    name ∈ entities.nodeNames ↔ ∃ (key : Str) (entity : ParsedEntity), entities[key]? = some entity ∧
      entity.kind = .node ∧ joinFqn entity.nodeNamespace entity.nodeName = name := by
  simp only [nodeNames, mem_dropRepeats, List.mem_mergeSort, List.mem_map, List.mem_filter, Prod.exists,
    TreeMap.mem_toList_iff_getElem?_eq_some, decide_eq_true_eq]
  constructor
  · intro held
    obtain ⟨entity, ⟨⟨key, _, found, rfl⟩, node⟩, named⟩ := held
    exact ⟨key, _, found, node, named⟩
  · intro held
    obtain ⟨key, entity, found, node, named⟩ := held
    exact ⟨entity, ⟨⟨key, entity, found, rfl⟩, node⟩, named⟩

theorem cache_holds_live_tokens (ops : List GraphOp) : HoldsLiveTokens ops (GraphCache.new.run ops) := by
  have entities : (GraphCache.new.run ops).entities = ops.foldl Entities.apply ∅ := GraphCache.run_entities _ _
  refine ⟨?_, ?_, Entities.nodeNames_increasing _, ?_, ?_⟩
  · intro key entity
    rw [entities]
    exact entities_lastIsPut ops key entity
  · intro kind topic
    rw [Entities.countKindOnTopic_eq_ncard, entities]
    simp only [entities_lastIsPut, and_assoc]
    congr 1
    ext key
    simp only [Set.mem_ofPred_eq]
    constructor
    · intro held
      obtain ⟨entity, parsed, last, same⟩ := held
      exact ⟨last, entity, parsed, same⟩
    · intro held
      obtain ⟨last, entity, parsed, same⟩ := held
      exact ⟨entity, parsed, last, same⟩
  · intro name
    rw [Entities.mem_nodeNames, entities]
    simp only [entities_lastIsPut]
    constructor
    · intro held
      obtain ⟨key, entity, ⟨parsed, last⟩, same⟩ := held
      exact ⟨key, entity, last, parsed, same⟩
    · intro held
      obtain ⟨key, entity, last, parsed, same⟩ := held
      exact ⟨key, entity, ⟨parsed, last⟩, same⟩
  · intro key absent
    rw [GraphCache.applyDelete, absent]

end Ros2Client
