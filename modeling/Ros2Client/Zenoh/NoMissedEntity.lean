import Ros2Client.Transition.Threads
import Ros2Client.Zenoh.WaitFor

open Transition
open Std (TreeMap)

namespace Ros2Client

/-- No wait is blocked on an empty channel while the cache holds what it waits for, unless a put or
    a delete is still to broadcast its event. -/
def NoMissedEntity (system : System GraphState GraphLabel) : Prop :=
  ∀ state, system.Reachable state → ∀ subscription ∈ state.subscriptions, ∀ wait,
    subscription.holder = .waitFor wait → wait.phase = .receiving → subscription.channel.queue = [] →
    state.inFlight = [] → state.broadcast = none → state.entities.countKindOnTopic wait.kind wait.name = 0

structure SubscriberStep (entities : Entities) (before after : GraphSubscriber) : Prop where
  alive : after.holder ≠ .dropped → before.holder ≠ .dropped ∧
    after.channel.closed = before.channel.closed ∧ after.channel.capacity = before.channel.capacity
  /-- A wait begins to receive when the cache holds nothing for it, and goes on only past events that
      do not concern it. -/
  receiving : ∀ wait, after.holder = .waitFor wait → wait.phase = .receiving →
    entities.countKindOnTopic wait.kind wait.name = 0 ∨ (before.holder = .waitFor wait ∧
      ∀ event ∈ before.channel.queue, wait.wants event = true → event ∈ after.channel.queue)

theorem GraphSubscriber.step_spec {subscriber after : GraphSubscriber} {entities : Entities}
    {action : SubscriberAction} (stepped : subscriber.step entities action = some after) :
    SubscriberStep entities subscriber after := by
  cases action with
  | check =>
    simp only [GraphSubscriber.step] at stepped
    split at stepped
    · rename_i wait held
      split at stepped
      · cases stepped
        refine ⟨fun _ => ⟨by simp [held], rfl, rfl⟩, ?_⟩
        rintro _ ⟨⟩ receiving
        dsimp only at receiving ⊢
        split at receiving
        · cases receiving
        · exact .inl (by omega)
      · cases stepped
    · cases stepped
  | recv =>
    simp only [GraphSubscriber.step] at stepped
    split at stepped
    · rename_i wait event rest held queue
      split at stepped
      · rename_i receiving
        cases stepped
        refine ⟨fun _ => ⟨by simp [held], rfl, rfl⟩, ?_⟩
        rintro _ ⟨⟩ still
        dsimp only at still
        split at still
        · cases still
        · rename_i unwanted
          have same : { wait with phase := if wait.wants event then .returned else .receiving } = wait := by
            rw [if_neg unwanted, ← receiving]
          rw [same]
          refine .inr ⟨held, ?_⟩
          intro other member wanted
          rw [queue] at member
          rcases List.mem_cons.mp member with rfl | later
          · exact absurd wanted unwanted
          · exact later
      · cases stepped
    · rename_i held _
      cases stepped
      refine ⟨fun kept => ⟨kept, rfl, rfl⟩, ?_⟩
      intro wait waiting
      have streams : subscriber.holder = .waitFor wait := waiting
      simp [held] at streams
    · cases stepped
  | drop =>
    cases stepped
    exact ⟨fun kept => absurd rfl kept, fun wait held => by cases held⟩

def GraphState.OnTheWay (state : GraphState) (index : Nat) (wait : WaitFor) : Prop :=
  (∃ event ∈ state.inFlight, wait.wants event = true) ∨
    ∃ broadcast, state.broadcast = some broadcast ∧ wait.wants broadcast.event = true ∧ index ∈ broadcast.remaining

structure GraphInvariant (state : GraphState) : Prop where
  registered : ∀ (index : Nat) (subscription : GraphSubscriber), state.subscriptions[index]? = some subscription →
    subscription.holder ≠ .dropped →
    subscription.channel.closed = false ∧ subscription.channel.capacity = none ∧ index ∈ state.subscribers
  awake : ∀ (index : Nat) (subscription : GraphSubscriber) (wait : WaitFor),
    state.subscriptions[index]? = some subscription → subscription.holder = .waitFor wait →
    wait.phase = .receiving → 0 < state.entities.countKindOnTopic wait.kind wait.name →
    (∃ event ∈ subscription.channel.queue, wait.wants event = true) ∨ state.OnTheWay index wait

theorem GraphInvariant.initial : GraphInvariant graphWaiting.initial where
  registered index subscription found := by simp [graphWaiting] at found
  awake index subscription wait found := by simp [graphWaiting] at found

/-- An event that an entity table emits ends the waits for what the table did not hold before. -/
theorem GraphInvariant.emit {state : GraphState} (invariant : GraphInvariant state) {entities : Entities}
    {event : GraphEvent} (announced : ∀ wait : WaitFor, 0 < entities.countKindOnTopic wait.kind wait.name →
      wait.wants event = true ∨ 0 < state.entities.countKindOnTopic wait.kind wait.name) :
    GraphInvariant { state with entities, inFlight := state.inFlight ++ [event] } where
  registered := invariant.registered
  awake index subscription wait found held receiving positive := by
    rcases announced wait positive with wanted | earlier
    · exact .inr (.inl ⟨event, List.mem_append_right _ (List.mem_singleton.mpr rfl), wanted⟩)
    · rcases invariant.awake index subscription wait found held receiving earlier with queued | flying | sending
      · exact .inl queued
      · obtain ⟨event, member, wanted⟩ := flying
        exact .inr (.inl ⟨event, List.mem_append_left _ member, wanted⟩)
      · exact .inr (.inr sending)

theorem GraphInvariant.applyPut {state : GraphState} (invariant : GraphInvariant state) (key : Str)
    (entity : ParsedEntity) :
    GraphInvariant { state with
      entities := state.entities.insert key entity
      inFlight := state.inFlight ++ [.entityDeclared (.ofParsed entity)] } := by
  apply invariant.emit
  intro wait positive
  rcases Entities.countKindOnTopic_insert positive with ⟨kind, name⟩ | earlier
  · left
    simp [WaitFor.wants, GraphEntity.ofParsed, kind, name]
  · exact .inr earlier

theorem GraphInvariant.applyDelete {state : GraphState} (invariant : GraphInvariant state) (key : Str)
    (event : GraphEvent) :
    GraphInvariant { state with entities := state.entities.erase key, inFlight := state.inFlight ++ [event] } :=
  invariant.emit fun _ positive => .inr (Entities.countKindOnTopic_erase positive)

theorem GraphInvariant.subscribe {state : GraphState} {holder : GraphHolder} (invariant : GraphInvariant state)
    (fresh : holder.isNew = true) :
    GraphInvariant { state with
      subscriptions := state.subscriptions ++ [⟨Channel.new none, holder⟩]
      subscribers := state.subscribers ++ [state.subscriptions.length] } := by
  refine ⟨?_, ?_⟩
  · intro index subscription looked kept
    rcases lookup_concat looked with old | ⟨rfl, rfl⟩
    · obtain ⟨opened, unbounded, present⟩ := invariant.registered _ _ old kept
      exact ⟨opened, unbounded, List.mem_append_left _ present⟩
    · exact ⟨rfl, rfl, by simp⟩
  · intro index subscription wait looked held receiving positive
    rcases lookup_concat looked with old | ⟨rfl, rfl⟩
    · exact invariant.awake _ _ _ old held receiving positive
    · have waits : holder = .waitFor wait := held
      simp [waits, GraphHolder.isNew, receiving] at fresh

theorem GraphInvariant.startBroadcast {state : GraphState} {index : Nat} {event : GraphEvent}
    (invariant : GraphInvariant state) (free : state.broadcast = none)
    (flying : state.inFlight[index]? = some event) :
    GraphInvariant { state with
      subscribers := state.subscribers.filter fun subscriber => !state.isClosed subscriber
      inFlight := state.inFlight.eraseIdx index
      broadcast := some ⟨event, state.subscribers.filter fun subscriber => !state.isClosed subscriber⟩ } := by
  have kept : ∀ (place : Nat) (subscription : GraphSubscriber), state.subscriptions[place]? = some subscription →
      subscription.holder ≠ .dropped →
      place ∈ state.subscribers.filter fun subscriber => !state.isClosed subscriber := by
    intro place subscription found alive
    obtain ⟨opened, _, present⟩ := invariant.registered _ _ found alive
    simp [List.mem_filter, present, GraphState.isClosed, found, opened]
  refine ⟨?_, ?_⟩
  · intro place subscription found alive
    obtain ⟨opened, unbounded, _⟩ := invariant.registered _ _ found alive
    exact ⟨opened, unbounded, kept place subscription found alive⟩
  · intro place subscription wait found held receiving positive
    rcases invariant.awake _ _ _ found held receiving positive with queued | ⟨other, member, wanted⟩ | sending
    · exact .inl queued
    · -- The event that ends the wait is the one now broadcast, or is still in flight.
      by_cases same : other = event
      · subst same
        exact .inr (.inr ⟨_, rfl, wanted, kept place subscription found (by simp [held])⟩)
      · obtain ⟨at_, found'⟩ := List.mem_iff_getElem?.mp member
        have apart : at_ ≠ index := by
          intro same
          subst same
          rw [flying] at found'
          exact same (Option.some.inj found').symm
        refine .inr (.inl ⟨other, ?_, wanted⟩)
        exact List.mem_eraseIdx_iff_getElem?.mpr ⟨at_, apart, found'⟩
    · obtain ⟨broadcast, running, _⟩ := sending
      simp [free] at running

theorem GraphInvariant.send {state : GraphState} {event : GraphEvent} {subscriber : Nat} {remaining : List Nat}
    {subscription : GraphSubscriber} (invariant : GraphInvariant state)
    (running : state.broadcast = some ⟨event, subscriber :: remaining⟩)
    (found : state.subscriptions[subscriber]? = some subscription) :
    GraphInvariant { state with
      subscriptions := state.subscriptions.set subscriber
        { subscription with channel := subscription.channel.offer event }
      broadcast := some ⟨event, remaining⟩ } := by
  refine ⟨?_, ?_⟩
  · intro place other looked alive
    rcases lookup_set looked with ⟨rfl, rfl⟩ | ⟨_, old⟩
    · simpa using invariant.registered _ _ found alive
    · exact invariant.registered _ _ old alive
  · intro place other wait looked held receiving positive
    rcases lookup_set looked with ⟨rfl, rfl⟩ | ⟨apart, old⟩
    · have waits : subscription.holder = .waitFor wait := held
      obtain ⟨opened, unbounded, _⟩ := invariant.registered _ _ found (by simp [waits])
      rcases invariant.awake _ _ _ found waits receiving positive with ⟨queued, member, wanted⟩ | flying | sending
      · exact .inl ⟨queued, Channel.mem_offer_of_mem member, wanted⟩
      · exact .inr (.inl flying)
      · obtain ⟨broadcast, same, wanted, _⟩ := sending
        rw [running] at same
        cases same
        exact .inl ⟨event, Channel.mem_offer opened unbounded, wanted⟩
    · rcases invariant.awake _ _ _ old held receiving positive with queued | flying | sending
      · exact .inl queued
      · exact .inr (.inl flying)
      · obtain ⟨broadcast, same, wanted, member⟩ := sending
        rw [running] at same
        cases same
        rcases List.mem_cons.mp member with here | later
        · exact absurd here apart
        · exact .inr (.inr ⟨_, rfl, wanted, later⟩)

theorem GraphInvariant.finishBroadcast {state : GraphState} {event : GraphEvent} (invariant : GraphInvariant state)
    (running : state.broadcast = some ⟨event, []⟩) : GraphInvariant { state with broadcast := none } where
  registered := invariant.registered
  awake index subscription wait found held receiving positive := by
    rcases invariant.awake _ _ _ found held receiving positive with queued | flying | sending
    · exact .inl queued
    · exact .inr (.inl flying)
    · obtain ⟨broadcast, same, _, member⟩ := sending
      rw [running] at same
      cases same
      cases member

theorem GraphInvariant.subscriber {state : GraphState} {index : Nat} {subscription after : GraphSubscriber}
    (invariant : GraphInvariant state) (found : state.subscriptions[index]? = some subscription)
    (stepped : SubscriberStep state.entities subscription after) :
    GraphInvariant { state with subscriptions := state.subscriptions.set index after } := by
  refine ⟨?_, ?_⟩
  · intro place other looked alive
    rcases lookup_set looked with ⟨rfl, rfl⟩ | ⟨_, old⟩
    · obtain ⟨alive', closed, capacity⟩ := stepped.alive alive
      rw [closed, capacity]
      exact invariant.registered _ _ found alive'
    · exact invariant.registered _ _ old alive
  · intro place other wait looked held receiving positive
    rcases lookup_set looked with ⟨rfl, rfl⟩ | ⟨_, old⟩
    · rcases stepped.receiving wait held receiving with none | ⟨waits, kept⟩
      · exact absurd positive (by simp [none])
      · rcases invariant.awake _ _ _ found waits receiving positive with ⟨event, member, wanted⟩ | coming
        · exact .inl ⟨event, kept event member wanted, wanted⟩
        · exact .inr coming
    · exact invariant.awake _ _ _ old held receiving positive

theorem GraphInvariant.step {state after : GraphState} {label : GraphLabel} (invariant : GraphInvariant state)
    (stepped : state.step label = some after) : GraphInvariant after := by
  cases label with
  | applyPut key =>
    simp only [GraphState.step] at stepped
    split at stepped
    · cases stepped
      exact invariant.applyPut key _
    · cases stepped
      exact invariant
  | applyDelete key =>
    simp only [GraphState.step] at stepped
    split at stepped
    · cases stepped
      exact invariant.applyDelete key _
    · cases stepped
      exact invariant
  | subscribe holder =>
    simp only [GraphState.step, Option.ite_none_right_eq_some, Bool.and_eq_true] at stepped
    obtain ⟨⟨_, fresh⟩, same⟩ := stepped
    cases same
    exact invariant.subscribe fresh
  | startBroadcast index =>
    simp only [GraphState.step, Option.ite_none_right_eq_some] at stepped
    obtain ⟨free, started⟩ := stepped
    obtain ⟨event, flying, rfl⟩ := Option.map_eq_some_iff.mp started
    exact invariant.startBroadcast (by simpa using free) flying
  | send =>
    simp only [GraphState.step] at stepped
    split at stepped
    · obtain ⟨subscription, found, rfl⟩ := Option.map_eq_some_iff.mp stepped
      exact invariant.send ‹_› found
    · cases stepped
  | finishBroadcast =>
    simp only [GraphState.step] at stepped
    split at stepped
    · cases stepped
      exact invariant.finishBroadcast ‹_›
    · cases stepped
  | subscriber index action =>
    obtain ⟨subscription, found, moved⟩ := Option.bind_eq_some_iff.mp stepped
    obtain ⟨next, stepped', rfl⟩ := Option.map_eq_some_iff.mp moved
    exact invariant.subscriber found (GraphSubscriber.step_spec stepped')

theorem no_missed_entity : NoMissedEntity graphWaiting := by
  intro state reachable subscription member wait held receiving empty none quiet
  have invariant : GraphInvariant state := by
    apply reachable.invariant GraphInvariant .initial
    intro before label after holds stepped
    exact holds.step stepped
  obtain ⟨index, found⟩ := List.mem_iff_getElem?.mp member
  by_contra present
  rcases invariant.awake index subscription wait found held receiving (Nat.pos_of_ne_zero present) with
    ⟨event, queued, _⟩ | ⟨event, flying, _⟩ | ⟨broadcast, running, _⟩
  · simp [empty] at queued
  · simp [none] at flying
  · simp [quiet] at running

end Ros2Client
