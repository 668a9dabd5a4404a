import Ros2Client.Zenoh.GraphHistory
import Ros2Client.Zenoh.Liveliness

open Text Transition
open Std (TreeMap)

namespace Ros2Client

def GraphOp.change (entities : Entities) : GraphOp → List GraphEvent
  | .put key =>
    match parseLivelinessKey key with
    | some entity => if entities[key]?.isNone then [.entityDeclared (.ofParsed entity)] else []
    | none => []
  | .delete key =>
    match entities[key]? with
    | some entity => [.entityUndeclared (.ofParsed entity)]
    | none => []
  | _ => []

def changes : Entities → List GraphOp → List GraphEvent
  | _, [] => []
  | entities, op :: ops => op.change entities ++ changes (entities.apply op) ops

def GraphEvent.declares (kind : EntityKind) (name : Str) : GraphEvent → Bool
  | .entityDeclared entity => entity.kind = kind && entity.name = some name
  | .entityUndeclared _ => false

def GraphEvent.undeclares (kind : EntityKind) (name : Str) : GraphEvent → Bool
  | .entityDeclared _ => false
  | .entityUndeclared entity => entity.kind = kind && entity.name = some name

/-- How much the events of a stream say that a count has grown. -/
def balance (kind : EntityKind) (name : Str) (events : List GraphEvent) : Int :=
  events.countP (GraphEvent.declares kind name) - events.countP (GraphEvent.undeclares kind name)

/-- A subscriber that registers between the operations hears exactly of the changes that come after. -/
def EventsReplay (before after : List GraphOp) : Prop :=
  let start := GraphCache.new.run before
  let finish := start.subscribe.run after
  ∃ stream, finish.streams[start.streams.length]? = some stream ∧
    stream.received = changes start.entities after ∧
    ∀ kind name, balance kind name stream.received =
      finish.entities.countKindOnTopic kind name - start.entities.countKindOnTopic kind name

def PutsAreNew : Entities → List GraphOp → Prop
  | _, [] => True
  | entities, op :: ops =>
    (∀ key, op = .put key → parseLivelinessKey key ≠ none → entities[key]? = none) ∧ PutsAreNew (entities.apply op) ops

/-- The event that the code sends for an operation. -/
def GraphOp.emitted (entities : Entities) : GraphOp → List GraphEvent
  | .put key =>
    match parseLivelinessKey key with
    | some entity => [.entityDeclared (.ofParsed entity)]
    | none => []
  | .delete key =>
    match entities[key]? with
    | some entity => [.entityUndeclared (.ofParsed entity)]
    | none => []
  | _ => []

def emissions : Entities → List GraphOp → List GraphEvent
  | _, [] => []
  | entities, op :: ops => op.emitted entities ++ emissions (entities.apply op) ops

structure GraphCache.Wired (cache : GraphCache) : Prop where
  nodup : cache.subscribers.Nodup
  inside : ∀ subscriber ∈ cache.subscribers, subscriber < cache.streams.length

structure GraphCache.Feeds (cache : GraphCache) (index : Nat) (events : List GraphEvent) : Prop where
  listed : index ∈ cache.subscribers
  fed : ∃ stream, cache.streams[index]? = some stream ∧ stream.channel.closed = false ∧
    stream.channel.capacity = none ∧ stream.received = events

theorem length_offers (event : GraphEvent) (streams : List GraphStream) (subscribers : List Nat) :
    (subscribers.foldl (offerTo event) streams).length = streams.length := by
  induction subscribers generalizing streams with
  | nil => rfl
  | cons subscriber subscribers ih => rw [List.foldl_cons, ih, offerTo, List.length_modify]

theorem getElem?_offers (event : GraphEvent) (streams : List GraphStream) {subscribers : List Nat}
    (nodup : subscribers.Nodup) {index : Nat} (member : index ∈ subscribers) :
    (subscribers.foldl (offerTo event) streams)[index]? =
      streams[index]?.map fun stream => { stream with channel := stream.channel.offer event } := by
  have untouched : ∀ (subscribers : List Nat) (streams : List GraphStream), index ∉ subscribers →
      (subscribers.foldl (offerTo event) streams)[index]? = streams[index]? := by
    intro subscribers
    induction subscribers with
    | nil => intros; rfl
    | cons subscriber subscribers ih =>
      intro streams absent
      obtain ⟨different, absent⟩ := not_or.mp (mt List.mem_cons.mpr absent)
      rw [List.foldl_cons, ih _ absent, offerTo, List.getElem?_modify_ne _ _ (Ne.symm different)]
  induction subscribers generalizing streams with
  | nil => cases member
  | cons subscriber subscribers ih =>
    obtain ⟨absent, nodup⟩ := List.nodup_cons.mp nodup
    rw [List.foldl_cons]
    rcases List.mem_cons.mp member with rfl | member
    · rw [untouched _ _ absent, offerTo, List.getElem?_modify_eq]
      rfl
    · have different : subscriber ≠ index := by
        intro same
        exact absent (same ▸ member)
      rw [ih _ nodup member, offerTo, List.getElem?_modify_ne _ _ different]

theorem GraphCache.Wired.broadcast {cache : GraphCache} (wired : cache.Wired) (event : GraphEvent) :
    (cache.broadcast event).Wired := by
  refine ⟨wired.nodup.filter _, ?_⟩
  intro subscriber member
  rw [GraphCache.broadcast, length_offers]
  exact wired.inside subscriber (List.mem_of_mem_filter member)

theorem GraphCache.Wired.subscribe {cache : GraphCache} (wired : cache.Wired) : cache.subscribe.Wired := by
  refine ⟨List.nodup_append.mpr ⟨wired.nodup, List.nodup_singleton _, ?_⟩, ?_⟩
  · intro old member new fresh same
    have below := wired.inside old member
    rw [same, List.mem_singleton.mp fresh] at below
    omega
  · intro subscriber member
    simp only [GraphCache.subscribe, List.length_append, List.length_singleton]
    rcases List.mem_append.mp member with old | new
    · have below := wired.inside subscriber old
      omega
    · rw [List.mem_singleton.mp new]
      omega

theorem GraphCache.Wired.apply {cache : GraphCache} (wired : cache.Wired) (op : GraphOp) : (cache.apply op).Wired := by
  have updated : ∀ entities, GraphCache.Wired { cache with entities := entities } :=
    fun _ => ⟨wired.nodup, wired.inside⟩
  have modified : ∀ stream change, GraphCache.Wired { cache with streams := cache.streams.modify stream change } := by
    intro stream change
    refine ⟨wired.nodup, ?_⟩
    intro subscriber member
    rw [List.length_modify]
    exact wired.inside subscriber member
  cases op with
  | put key =>
    simp only [GraphCache.apply, GraphCache.applyPut]
    cases parseLivelinessKey key with
    | none => exact wired
    | some entity => exact (updated _).broadcast _
  | delete key =>
    simp only [GraphCache.apply, GraphCache.applyDelete]
    cases cache.entities[key]? with
    | none => exact wired
    | some entity => exact (updated _).broadcast _
  | subscribe => exact wired.subscribe
  | recv stream => exact modified _ _
  | drop stream => exact modified _ _

theorem GraphCache.Wired.run {cache : GraphCache} (wired : cache.Wired) (ops : List GraphOp) :
    (cache.run ops).Wired := by
  induction ops generalizing cache with
  | nil => exact wired
  | cons op ops ih => exact ih (wired.apply op)

section

variable {cache : GraphCache} {index : Nat} {events : List GraphEvent}

theorem GraphCache.Feeds.broadcast (feeds : cache.Feeds index events) (wired : cache.Wired) (event : GraphEvent) :
    (cache.broadcast event).Feeds index (events ++ [event]) := by
  obtain ⟨stream, looked, opened, unbounded, received⟩ := feeds.fed
  have kept : index ∈ cache.subscribers.filter fun subscriber => !cache.isClosed subscriber := by
    simp [List.mem_filter, feeds.listed, GraphCache.isClosed, looked, opened]
  have offered : (cache.broadcast event).streams[index]? =
      some { stream with channel := stream.channel.offer event } := by
    rw [GraphCache.broadcast, getElem?_offers event _ (wired.nodup.filter _) kept, looked]
    rfl
  refine ⟨kept, _, offered, by simp [opened], by simp [unbounded], ?_⟩
  simp [GraphStream.received, Channel.offer_eq, opened, Channel.isFull, unbounded, ← received]

/-- An operation on one stream leaves what another one has received. -/
theorem GraphCache.Feeds.modify (feeds : cache.Feeds index events) {other : Nat} {change : GraphStream → GraphStream}
    (harmless : other ≠ index ∨ ∀ stream, (change stream).channel.closed = stream.channel.closed ∧
      (change stream).channel.capacity = stream.channel.capacity ∧ (change stream).received = stream.received) :
    GraphCache.Feeds { cache with streams := cache.streams.modify other change } index events := by
  obtain ⟨stream, looked, opened, unbounded, received⟩ := feeds.fed
  refine ⟨feeds.listed, ?_⟩
  by_cases same : other = index
  · subst same
    obtain ⟨closed, capacity, heard⟩ := harmless.resolve_left (fun different => different rfl) stream
    refine ⟨change stream, by rw [List.getElem?_modify_eq, looked]; rfl, ?_⟩
    exact ⟨closed.trans opened, capacity.trans unbounded, heard.trans received⟩
  · exact ⟨stream, by rw [List.getElem?_modify_ne _ _ same, looked], opened, unbounded, received⟩

theorem GraphStream.recv_spec (stream : GraphStream) :
    stream.recv.channel.closed = stream.channel.closed ∧ stream.recv.channel.capacity = stream.channel.capacity ∧
      stream.recv.received = stream.received := by
  unfold GraphStream.recv
  split
  · exact ⟨rfl, rfl, rfl⟩
  · rename_i event rest queued
    simp [GraphStream.received, queued]

theorem GraphCache.Feeds.apply (feeds : cache.Feeds index events) (wired : cache.Wired) {op : GraphOp}
    (kept : op ≠ .drop index) : (cache.apply op).Feeds index (events ++ op.emitted cache.entities) := by
  have updated : ∀ entities event,
      (GraphCache.broadcast { cache with entities := entities } event).Feeds index (events ++ [event]) := by
    intro entities event
    have same : GraphCache.Feeds { cache with entities := entities } index events := ⟨feeds.listed, feeds.fed⟩
    exact same.broadcast ⟨wired.nodup, wired.inside⟩ event
  cases op with
  | put key =>
    simp only [GraphCache.apply, GraphCache.applyPut, GraphOp.emitted]
    cases parseLivelinessKey key with
    | none => simpa using feeds
    | some entity => exact updated _ _
  | delete key =>
    simp only [GraphCache.apply, GraphCache.applyDelete, GraphOp.emitted]
    cases cache.entities[key]? with
    | none => simpa using feeds
    | some entity => exact updated _ _
  | subscribe =>
    obtain ⟨stream, looked, fed⟩ := feeds.fed
    have inside := (List.getElem?_eq_some_iff.mp looked).1
    simp only [GraphOp.emitted, List.append_nil]
    refine ⟨List.mem_append_left _ feeds.listed, stream, ?_, fed⟩
    simp only [GraphCache.apply, GraphCache.subscribe, List.getElem?_append_left inside, looked]
  | recv stream =>
    simp only [GraphOp.emitted, List.append_nil]
    exact feeds.modify (.inr GraphStream.recv_spec)
  | drop stream =>
    simp only [GraphOp.emitted, List.append_nil]
    exact feeds.modify (.inl fun same => kept (by rw [same]))

theorem GraphCache.Feeds.run (feeds : cache.Feeds index events) (wired : cache.Wired) {ops : List GraphOp}
    (kept : .drop index ∉ ops) : (cache.run ops).Feeds index (events ++ emissions cache.entities ops) := by
  induction ops generalizing cache events with
  | nil =>
    rw [emissions, List.append_nil]
    exact feeds
  | cons op ops ih =>
    obtain ⟨different, rest⟩ := not_or.mp (mt List.mem_cons.mpr kept)
    have next := ih (feeds.apply wired (Ne.symm different)) (wired.apply op) rest
    rw [List.append_assoc, GraphCache.apply_entities] at next
    exact next

end

/-- A put of a key that is present already is the only operation that sends an event without a change. -/
theorem GraphOp.emitted_cases (entities : Entities) (op : GraphOp) :
    (op.emitted entities = op.change entities ∧
      ∀ key, op = .put key → parseLivelinessKey key ≠ none → entities[key]? = none) ∨
    ((op.change entities).length < (op.emitted entities).length ∧
      ∃ key, op = .put key ∧ parseLivelinessKey key ≠ none ∧ entities[key]? ≠ none) := by
  cases op with
  | put key =>
    simp only [GraphOp.emitted, GraphOp.change, GraphOp.put.injEq, forall_eq', exists_eq_left']
    cases parseLivelinessKey key with
    | none => simp
    | some entity => cases entities[key]? <;> simp
  | delete key => simp [GraphOp.emitted, GraphOp.change]
  | subscribe => simp [GraphOp.emitted, GraphOp.change]
  | recv stream => simp [GraphOp.emitted, GraphOp.change]
  | drop stream => simp [GraphOp.emitted, GraphOp.change]

theorem GraphOp.emitted_eq_change {entities : Entities} {op : GraphOp} :
    op.emitted entities = op.change entities ↔
      ∀ key, op = .put key → parseLivelinessKey key ≠ none → entities[key]? = none := by
  rcases op.emitted_cases entities with ⟨same, new⟩ | ⟨shorter, key, put, parsed, present⟩
  · exact iff_of_true same new
  · refine iff_of_false ?_ fun new => present (new key put parsed)
    intro same
    rw [same] at shorter
    exact absurd shorter (Nat.lt_irrefl _)

theorem GraphOp.length_change_le (entities : Entities) (op : GraphOp) :
    (op.change entities).length ≤ (op.emitted entities).length ∧
      ((op.change entities).length = (op.emitted entities).length → op.emitted entities = op.change entities) := by
  rcases op.emitted_cases entities with ⟨same, -⟩ | ⟨shorter, -⟩
  · exact ⟨by rw [same], fun _ => same⟩
  · exact ⟨shorter.le, fun equal => absurd equal shorter.ne⟩

theorem length_changes_le (entities : Entities) (ops : List GraphOp) :
    (changes entities ops).length ≤ (emissions entities ops).length := by
  induction ops generalizing entities with
  | nil => exact Nat.le_refl _
  | cons op ops ih =>
    have head := (op.length_change_le entities).1
    have rest := ih (entities.apply op)
    simp only [changes, emissions, List.length_append]
    omega

theorem emissions_eq_changes {entities : Entities} {ops : List GraphOp} :
    emissions entities ops = changes entities ops ↔ PutsAreNew entities ops := by
  induction ops generalizing entities with
  | nil => simp [emissions, changes, PutsAreNew]
  | cons op ops ih =>
    simp only [emissions, changes, PutsAreNew, ← ih, ← GraphOp.emitted_eq_change]
    constructor
    · intro same
      have lengths := congrArg List.length same
      have head := op.length_change_le entities
      have rest := length_changes_le (entities.apply op) ops
      rw [List.length_append, List.length_append] at lengths
      have first := head.2 (by omega)
      rw [first, List.append_cancel_left_eq] at same
      exact ⟨first, same⟩
    · intro same
      rw [same.1, same.2]

theorem balance_append (kind : EntityKind) (name : Str) (first second : List GraphEvent) :
    balance kind name (first ++ second) = balance kind name first + balance kind name second := by
  simp only [balance, List.countP_append]
  omega

theorem balance_singleton (kind : EntityKind) (name : Str) (event : GraphEvent) :
    balance kind name [event] = (event.declares kind name).toNat - (event.undeclares kind name).toNat := by
  rw [balance, List.countP_singleton, List.countP_singleton]
  cases event.declares kind name <;> cases event.undeclares kind name <;> rfl

theorem GraphOp.balance_change {entities : Entities} {op : GraphOp}
    (fresh : ∀ key, op = .put key → parseLivelinessKey key ≠ none → entities[key]? = none) (kind : EntityKind)
    (name : Str) :
    balance kind name (op.change entities) =
      (entities.apply op).countKindOnTopic kind name - entities.countKindOnTopic kind name := by
  have unchanged : balance kind name [] = 0 := rfl
  cases op with
  | put key =>
    simp only [GraphOp.change, Entities.apply]
    cases parsed : parseLivelinessKey key with
    | none => rw [unchanged, Int.sub_self]
    | some entity =>
      have absent := fresh key rfl (by simp [parsed])
      have grown := Entities.countKindOnTopic_insert_new absent entity kind name
      simp only [absent, Option.isNone_none, if_true, balance_singleton, grown]
      show ((entity.counts kind name).toNat : Int) - false.toNat = _
      cases entity.counts kind name <;> simp
  | delete key =>
    simp only [GraphOp.change, Entities.apply]
    cases found : entities[key]? with
    | none => simp [unchanged]
    | some entity =>
      have shrunk := Entities.countKindOnTopic_erase_present found kind name
      rw [Option.isSome_some, if_pos rfl]
      rw [balance_singleton]
      show (false.toNat : Int) - (entity.counts kind name).toNat = _
      cases counted : entity.counts kind name
      all_goals
        simp only [counted, if_true, Bool.false_eq_true, if_false, Bool.toNat_true, Bool.toNat_false] at shrunk ⊢
        omega
  | subscribe => simp [GraphOp.change, Entities.apply, unchanged]
  | recv stream => simp [GraphOp.change, Entities.apply, unchanged]
  | drop stream => simp [GraphOp.change, Entities.apply, unchanged]

theorem balance_changes {entities : Entities} {ops : List GraphOp} (fresh : PutsAreNew entities ops)
    (kind : EntityKind) (name : Str) :
    balance kind name (changes entities ops) =
      Entities.countKindOnTopic (ops.foldl Entities.apply entities) kind name -
        entities.countKindOnTopic kind name := by
  induction ops generalizing entities with
  | nil => simp [changes, balance]
  | cons op ops ih =>
    have head := GraphOp.balance_change fresh.1 kind name
    have rest := ih fresh.2
    rw [changes, balance_append, head, rest, List.foldl_cons]
    omega

/-- The stream of a subscriber that registers after `before`. -/
theorem subscribed_received (before : List GraphOp) {after : List GraphOp}
    (kept : .drop (GraphCache.new.run before).streams.length ∉ after) :
    ∃ stream, ((GraphCache.new.run before).subscribe.run after).streams[(GraphCache.new.run before).streams.length]? =
      some stream ∧ stream.received = emissions (GraphCache.new.run before).entities after := by
  have empty : GraphCache.new.Wired := ⟨List.nodup_nil, by simp [GraphCache.new]⟩
  have wired : (GraphCache.new.run before).Wired := empty.run before
  have feeds : (GraphCache.new.run before).subscribe.Feeds (GraphCache.new.run before).streams.length [] :=
    ⟨by simp [GraphCache.subscribe], _, List.getElem?_concat_length, rfl, rfl, rfl⟩
  obtain ⟨stream, looked, _, _, received⟩ := (feeds.run wired.subscribe kept).fed
  exact ⟨stream, looked, received⟩

theorem EventsReplay.putsAreNew {before after : List GraphOp}
    (kept : .drop (GraphCache.new.run before).streams.length ∉ after) (replay : EventsReplay before after) :
    PutsAreNew (GraphCache.new.run before).entities after := by
  obtain ⟨stream, looked, received⟩ := subscribed_received before kept
  obtain ⟨other, looked', same, _⟩ := replay
  rw [looked, Option.some_inj] at looked'
  subst looked'
  rw [received] at same
  exact emissions_eq_changes.mp same

theorem events_replay_iff (before after : List GraphOp)
    (kept : .drop (GraphCache.new.run before).streams.length ∉ after) :
    EventsReplay before after ↔ PutsAreNew (GraphCache.new.run before).entities after := by
  constructor
  · exact EventsReplay.putsAreNew kept
  · intro fresh
    obtain ⟨stream, looked, received⟩ := subscribed_received before kept
    have same := emissions_eq_changes.mpr fresh
    have entities : ((GraphCache.new.run before).subscribe.run after).entities =
        after.foldl Entities.apply (GraphCache.new.run before).entities := GraphCache.run_entities _ _
    refine ⟨stream, looked, received.trans same, ?_⟩
    intro kind name
    rw [received, same, entities]
    exact balance_changes fresh kind name

def talkerToken : Str :=
  talkerNode.livelinessKey 10 .publisher (resolveFqn chatter talkerNode.nodeName)
    (EndpointType.message (.new "std_msgs".toList "String".toList)).ddsType "RIHS01_df66".toList .subscriptionDefault

theorem talkerToken_parses : parseLivelinessKey talkerToken ≠ none := by
  have built : Name.new [] "chatter".toList = .ok chatter := by decide
  have chunk : '/' ∉ "RIHS01_df66".toList := by decide
  have parsed := parse_livelinessKey talkerNode 10 .publisher (.message (.new "std_msgs".toList "String".toList))
    .subscriptionDefault (by decide) (Name.Built.new built).valid chunk
  rw [talkerToken, parsed]
  exact Option.some_ne_none _

theorem events_replay_iff_declared_once :
    EventsReplay [] [.put talkerToken, .delete talkerToken] := by
  apply (events_replay_iff [] [.put talkerToken, .delete talkerToken] (by simp)).mpr
  refine ⟨?_, nofun, trivial⟩
  intro key _ _
  exact TreeMap.getElem?_emptyc

/-- A token that is put again is declared again, though it has not become visible by that. -/
theorem repeated_put_breaks_replay : ¬EventsReplay [] [.put talkerToken, .put talkerToken] := by
  intro replay
  have fresh := replay.putsAreNew (by simp)
  have absent := fresh.2.1 talkerToken rfl talkerToken_parses
  rw [Entities.getElem?_apply, if_pos rfl, Option.or_eq_none_iff] at absent
  exact talkerToken_parses absent.1

end Ros2Client
