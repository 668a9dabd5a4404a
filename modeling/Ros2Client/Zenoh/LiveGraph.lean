import Ros2Client.Zenoh.SharedGraph

open Text Transition
open Std (TreeMap)

namespace Ros2Client.Zenoh

def Live (contexts : List GraphContext) (domainId : UInt16) (which : Nat × TokenOwner) (key : Str)
    (entity : ParsedEntity) : Prop :=
  ∃ context, contexts[which.1]? = some context ∧ context.session.domainId = domainId ∧ which.2 ∈ context.alive ∧
    context.key which.2 = some key ∧ context.shown which.2 = some entity

/-- The graph of a context has the entities of its domain that are alive, as they were made, and no others. -/
structure ShowsLiveEntities (contexts : List GraphContext) (observer : GraphContext) : Prop where
  entities : ∀ (key : Str) (entity : ParsedEntity), observer.cache.entities[key]? = some entity ↔
    ∃ which, Live contexts observer.session.domainId which key entity
  counts : ∀ kind topic, observer.cache.entities.countKindOnTopic kind topic =
    Set.ncard {which | ∃ key entity, Live contexts observer.session.domainId which key entity ∧ entity.kind = kind ∧
      entity.topicName = some topic}
  increasing : observer.cache.entities.nodeNames.Pairwise (· < ·)
  names : ∀ name, name ∈ observer.cache.entities.nodeNames ↔
    ∃ (place : Nat) (context : GraphContext) (index : Nat) (owner : SessionNode), contexts[place]? = some context ∧
      context.session.domainId = observer.session.domainId ∧ .node index ∈ context.alive ∧
      context.session.nodes[index]? = some owner ∧ owner.node.nodeName.fullyQualifiedName = name

variable {Message : Type} {setting : GraphSetting Message} {contexts : List GraphContext} {observer : GraphContext}
  {key : Str} {entity : ParsedEntity}

theorem SharedGraph.live_iff (shared : SharedGraph setting contexts) (observer : GraphContext) :
    parseLivelinessKey key = some entity ∧ Alive contexts key ∧ observer.subscribes key = true ↔
      ∃ which, Live contexts observer.session.domainId which key entity := by
  constructor
  · intro ⟨parsed, ⟨place, context, looked, owner, held, keyed⟩, subscribed⟩
    have sound := shared.each context (List.mem_of_getElem? looked)
    obtain ⟨shown, described, parsed', _⟩ := sound.parse_key keyed
    rw [parsed, Option.some_inj] at parsed'
    rw [← parsed'] at described
    exact ⟨(place, owner), context, looked, ((sound.subscribes_iff keyed observer).mp subscribed).symm, held, keyed,
      described⟩
  · intro ⟨⟨place, owner⟩, context, looked, domain, held, keyed, described⟩
    have sound := shared.each context (List.mem_of_getElem? looked)
    obtain ⟨shown, described', parsed, _⟩ := sound.parse_key keyed
    rw [described, Option.some_inj] at described'
    rw [← described'] at parsed
    exact ⟨parsed, ⟨place, context, looked, owner, held, keyed⟩, (sound.subscribes_iff keyed observer).mpr domain.symm⟩

theorem SharedGraph.entities (shared : SharedGraph setting contexts) (member : observer ∈ contexts)
    (quiet : observer.inFlight = []) : observer.cache.entities[key]? = some entity ↔
      ∃ which, Live contexts observer.session.domainId which key entity := by
  have settled := shared.settled observer member key entity
  rw [quiet] at settled
  exact settled.trans (shared.live_iff observer)

def keyOf (contexts : List GraphContext) (which : Nat × TokenOwner) : Str :=
  (contexts[which.1]?.bind fun context => context.key which.2).getD []

theorem Live.keyOf_eq {domainId : UInt16} {which : Nat × TokenOwner} (live : Live contexts domainId which key entity) :
    keyOf contexts which = key := by
  obtain ⟨context, looked, _, _, keyed, _⟩ := live
  rw [keyOf, looked, Option.bind_some, keyed, Option.getD_some]

theorem SharedGraph.live_once (shared : SharedGraph setting contexts) {domainId domainId' : UInt16}
    {which which' : Nat × TokenOwner} {entity' : ParsedEntity} (live : Live contexts domainId which key entity)
    (live' : Live contexts domainId' which' key entity') : which = which' := by
  obtain ⟨context, looked, _, _, keyed, _⟩ := live
  obtain ⟨context', looked', _, _, keyed', _⟩ := live'
  obtain ⟨place, owner⟩ := shared.token_once looked looked' keyed keyed'
  exact Prod.ext place owner

theorem SharedGraph.counts (shared : SharedGraph setting contexts) (member : observer ∈ contexts)
    (quiet : observer.inFlight = []) (kind : EntityKind) (topic : Str) :
    observer.cache.entities.countKindOnTopic kind topic =
      Set.ncard {which | ∃ key entity, Live contexts observer.session.domainId which key entity ∧ entity.kind = kind ∧
        entity.topicName = some topic} := by
  have injective : Set.InjOn (keyOf contexts) {which | ∃ key entity,
      Live contexts observer.session.domainId which key entity ∧ entity.kind = kind ∧
        entity.topicName = some topic} := by
    intro which ⟨key, entity, live, _⟩ which' ⟨key', entity', live', _⟩ same
    rw [live.keyOf_eq, live'.keyOf_eq] at same
    subst same
    exact shared.live_once live live'
  rw [Entities.countKindOnTopic_eq_ncard, ← injective.ncard_image]
  congr 1
  ext key
  constructor
  · intro ⟨entity, found, same⟩
    obtain ⟨which, live⟩ := (shared.entities member quiet).mp found
    exact ⟨which, ⟨key, entity, live, same⟩, live.keyOf_eq⟩
  · rintro ⟨which, ⟨key, entity, live, same⟩, rfl⟩
    rw [Set.mem_ofPred_eq, live.keyOf_eq]
    exact ⟨entity, (shared.entities member quiet).mpr ⟨which, live⟩, same⟩

theorem SharedGraph.names (shared : SharedGraph setting contexts) (member : observer ∈ contexts)
    (quiet : observer.inFlight = []) (name : Str) : name ∈ observer.cache.entities.nodeNames ↔
      ∃ (place : Nat) (context : GraphContext) (index : Nat) (owner : SessionNode), contexts[place]? = some context ∧
        context.session.domainId = observer.session.domainId ∧ .node index ∈ context.alive ∧
        context.session.nodes[index]? = some owner ∧ owner.node.nodeName.fullyQualifiedName = name := by
  rw [Entities.mem_nodeNames]
  constructor
  · intro ⟨key, entity, found, node, named⟩
    obtain ⟨⟨place, owner⟩, context, looked, domain, held, _, shown⟩ := (shared.entities member quiet).mp found
    cases owner with
    | node index =>
      obtain ⟨owner, ofNode, rfl⟩ := Option.map_eq_some_iff.mp shown
      exact ⟨place, context, index, owner, looked, domain, held, ofNode, owner.node.nodeName.joinFqn_eq ▸ named⟩
    | entity index =>
      obtain ⟨made, _, shown⟩ := Option.bind_eq_some_iff.mp shown
      obtain ⟨part, _, shown⟩ := Option.bind_eq_some_iff.mp shown
      obtain ⟨owner, _, rfl⟩ := Option.map_eq_some_iff.mp shown
      exact absurd node part.notNode
  · rintro ⟨place, context, index, owner, looked, domain, held, ofNode, rfl⟩
    have sound := shared.each context (List.mem_of_getElem? looked)
    have keyed : context.key (.node index) = some owner.node.nodeKey := by
      rw [GraphContext.key, ofNode]
      rfl
    obtain ⟨entity, shown, _⟩ := sound.parse_key keyed
    refine ⟨owner.node.nodeKey, entity, (shared.entities member quiet).mpr ⟨(place, .node index), context, looked,
      domain, held, keyed, shown⟩, ?_⟩
    rw [GraphContext.shown, ofNode] at shown
    cases shown
    exact ⟨rfl, owner.node.nodeName.joinFqn_eq⟩

/-- Once all samples on their way to a context have come, its graph is that of the entities that are alive: those of
    all contexts of its domain, in whatever order these were opened and made and dropped their entities. -/
theorem graphs_show_live_entities (setting : GraphSetting Message) (contexts : List GraphContext)
    (reachable : ((graphNetwork setting).restrict fun network label =>
      GraphNetwork.roomy network label = true).Reachable contexts)
    (place : Nat) (observer : GraphContext) (looked : contexts[place]? = some observer)
    (quiet : observer.inFlight = []) : ShowsLiveEntities contexts observer := by
  have shared := shared_graph reachable
  have member := List.mem_of_getElem? looked
  exact {
    entities := fun key entity => shared.entities member quiet
    counts := shared.counts member quiet
    increasing := observer.cache.entities.nodeNames_increasing
    names := shared.names member quiet }

def octetSetting : GraphSetting UInt32 := ⟨fun _ => 0, fun _ => [], zenohExt, cdrWord32⟩

def chatterCall : ProperCall where
  val := .publisherWithTypeHash
    (createTopic rootNode chatter (.new "std_msgs".toList "String".toList) .subscriptionDefault) none
    "RIHS01_df66".toList
  property := by
    have built : Name.new [] "chatter".toList = .ok chatter := by decide
    exact ⟨createTopic_made (.new built) (by decide), by decide, by decide⟩

def firstZid : ZenohId := ⟨"a".toList, by decide⟩

def secondZid : ZenohId := ⟨"b".toList, by decide⟩

/-- The second context hears of the publisher first, and of its node last. -/
def overtakenNode : List (GraphNetworkLabel UInt32) :=
  [.openContext 0 firstZid, .openContext 0 secondZid, .act 0 (.newNode rootNode), .declare 0 0 true,
    .create 0 0 chatterCall, .act 0 (.createNext 0 true), .declare 0 0 true, .deliver 1 1, .deliver 1 0]

def heardAll (contexts : List GraphContext) : Bool :=
  contexts[0]?.map (·.alive) = some [.node 0, .entity 0] ∧ contexts[1]?.map (·.inFlight) = some []

theorem second_context_shows_publisher : ∃ (contexts : List GraphContext) (observer : GraphContext),
    contexts[0]?.map (·.alive) = some [.node 0, .entity 0] ∧ ShowsLiveEntities contexts observer := by
  obtain ⟨contexts, reachable, checked⟩ := System.reachable_of_check
    ((graphNetwork octetSetting).restrict fun network label => GraphNetwork.roomy network label = true) overtakenNode
    heardAll (by decide +kernel)
  obtain ⟨alive, quiet⟩ := of_decide_eq_true checked
  obtain ⟨observer, looked, empty⟩ := Option.map_eq_some_iff.mp quiet
  exact ⟨contexts, observer, alive, graphs_show_live_entities octetSetting contexts reachable 1 observer looked empty⟩

end Ros2Client.Zenoh
