import Ros2Client.Transition.Traces
import Ros2Client.Zenoh.TopicSteps

open Text Transition Wire

namespace Ros2Client.Zenoh

structure PublisherAt (contexts : List GraphContext) (publisher : Nat × Nat) (context : GraphContext)
    (entity : SessionEntity) (part : EntityPart) : Prop where
  looked : contexts[publisher.1]? = some context
  found : context.session.entities[publisher.2]? = some entity
  made : context.parts[publisher.2]? = some part
  kind : entity.kind = EntityKind.publisher

def GraphContext.publisherKey (context : GraphContext) (part : EntityPart) : Str :=
  part.dataKey context.session.domainId part.hash

def GraphContext.puts (context : GraphContext) (index : Nat) : List Outgoing :=
  context.session.sent.filter (·.entity = index)

def TopicSample.PutBy (contexts : List GraphContext) (sample : TopicSample) : Prop :=
  ∃ context entity part, PublisherAt contexts sample.publisher context entity part ∧
    sample.keyExpr = context.publisherKey part ∧ sample.message ∈ context.session.sent

def TopicSubscription.sentBy (subscription : TopicSubscription) (publisher : Nat × Nat) : List Outgoing :=
  (Feed.of TopicSample.publisher publisher subscription.feed.sent).map (·.message)

/-- From the time when it was opened a subscription is sent all messages that are put on a key that it listens to. -/
structure TopicSubscription.Sound (intersects : Str → Str → Bool) (contexts : List GraphContext)
    (subscription : TopicSubscription) : Prop where
  tokenable : subscription.part.Tokenable
  inOrder : subscription.feed.InOrder TopicSample.publisher
  heard : ∀ sample ∈ subscription.feed.sent,
    sample.PutBy contexts ∧ intersects subscription.keyExpr sample.keyExpr = true
  puts : ∀ (publisher : Nat × Nat) context entity part, PublisherAt contexts publisher context entity part →
    intersects subscription.keyExpr (context.publisherKey part) = true →
    ∃ earlier later, context.puts publisher.2 = earlier ++ subscription.sentBy publisher ++ later ∧
      (subscription.opened = true → later = [])

variable {Message : Type} {setting : GraphSetting Message}

section Evolving

variable {contexts after : List GraphContext} {context changed : GraphContext} {entity : SessionEntity}
  {part : EntityPart} {label : GraphNetworkLabel Message} {publisher : Nat × Nat}

theorem GraphContext.Moves.grows {moved : Option (SessionLabel Message)} (moves : context.Moves setting moved changed) :
    ∃ part, context.session.Grows part changed.session := by
  cases moved with
  | none => exact ⟨none, by rw [moves.still rfl]; exact .same rfl rfl rfl rfl⟩
  | some label => exact ⟨_, Session.step_grows (moves.stepped label rfl)⟩

theorem GraphContext.Moves.sent {moved : Option (SessionLabel Message)} (moves : context.Moves setting moved changed) :
    changed.session.sent = context.session.sent ++ (moved.map context.session.putting).getD [] := by
  cases moved with
  | none => simp [moves.still rfl]
  | some label => exact (Session.step_messages (moves.stepped label rfl)).1

theorem PublisherAt.unique {context' : GraphContext} {entity' : SessionEntity} {part' : EntityPart}
    (held : PublisherAt contexts publisher context entity part)
    (held' : PublisherAt contexts publisher context' entity' part') :
    context = context' ∧ entity = entity' ∧ part = part' := by
  obtain rfl : context = context' := Option.some.inj (held.looked.symm.trans held'.looked)
  exact ⟨rfl, Option.some.inj (held.found.symm.trans held'.found), Option.some.inj (held.made.symm.trans held'.made)⟩

/-- A publisher stays the one it is. -/
theorem PublisherAt.step (held : PublisherAt contexts publisher context entity part)
    (stepped : GraphNetwork.step setting contexts label = some after) :
    ∃ changed later, PublisherAt after publisher changed later part ∧
      changed.publisherKey part = context.publisherKey part ∧
      later.token = entity.token ∧ context.Moves setting (label.moves publisher.1) changed := by
  obtain ⟨changed, looked, moves⟩ := GraphNetwork.step_moves stepped held.looked
  obtain ⟨_, grows⟩ := moves.grows
  obtain ⟨later, kept, token⟩ := grows.entity_kept held.found
  obtain ⟨more, parts⟩ := moves.parts
  refine ⟨changed, later, ⟨looked, kept, ?_, ?_⟩, ?_, token, moves⟩
  · rw [parts, List.getElem?_append_left (List.getElem?_eq_some_iff.mp held.made).1, held.made]
  · exact (congrArg (·.2.2.1) token).trans held.kind
  · rw [GraphContext.publisherKey, GraphContext.publisherKey, grows.domainId]

section Putting

variable {sample : TopicSample} {index place : Nat} {message : Outgoing}

theorem TopicNetwork.putting_of (held : PublisherAt contexts (place, message.entity) context entity part)
    (pending : context.session.outgoing[index]? = some message) :
    putting contexts (.act place (.put index true) : GraphNetworkLabel Message) =
      some ⟨place, context.publisherKey part, message⟩ := by
  simp [putting, held.looked, pending, held.found, held.made, held.kind, GraphContext.publisherKey]

theorem TopicNetwork.putting_eq_some (put : putting contexts label = some sample) :
    ∃ index context entity part, label = .act sample.place (.put index true) ∧
      context.session.outgoing[index]? = some sample.message ∧
      PublisherAt contexts sample.publisher context entity part ∧ sample.keyExpr = context.publisherKey part := by
  unfold putting at put
  split at put
  · rename_i place index
    obtain ⟨context, looked, put⟩ := Option.bind_eq_some_iff.mp put
    obtain ⟨message, pending, put⟩ := Option.bind_eq_some_iff.mp put
    obtain ⟨entity, found, put⟩ := Option.bind_eq_some_iff.mp put
    obtain ⟨part, made, put⟩ := Option.bind_eq_some_iff.mp put
    split at put
    · rename_i kind
      cases put
      exact ⟨index, context, entity, part, rfl, pending, ⟨looked, found, made, kind⟩, rfl⟩
    · cases put
  · cases put

theorem mem_putting (member : message ∈ ((label.moves place).map context.session.putting).getD []) :
    ∃ index, label = .act place (.put index true) ∧ context.session.outgoing[index]? = some message := by
  cases moved : label.moves place with
  | none => simp [moved] at member
  | some own =>
    rw [moved] at member
    cases own with
    | put index accepted =>
      cases accepted with
      | true =>
        have pending : message ∈ context.session.outgoing[index]? := by
          simpa [Session.putting] using member
        cases label with
        | act place' own =>
          simp only [GraphNetworkLabel.moves, Option.ite_none_right_eq_some, Option.some.injEq] at moved
          obtain ⟨rfl, rfl⟩ := moved
          exact ⟨index, rfl, pending⟩
        | create place' node call => simp [GraphNetworkLabel.moves] at moved
        | _ => cases moved
      | false => cases member
    | _ => cases member

/-- What a publisher hands to Zenoh in a step is what the subscriptions may hear of it. -/
theorem PublisherAt.puts_step (held : PublisherAt contexts publisher context entity part)
    (moves : context.Moves setting (label.moves publisher.1) changed) :
    changed.puts publisher.2 = context.puts publisher.2 ++
      (Feed.of TopicSample.publisher publisher (TopicNetwork.putting contexts label).toList).map (·.message) := by
  rw [GraphContext.puts, moves.sent, List.filter_append]
  apply congrArg (context.puts publisher.2 ++ ·)
  cases put : TopicNetwork.putting contexts label with
  | some sample =>
    obtain ⟨index, other, _, _, rfl, pending, held', _⟩ := TopicNetwork.putting_eq_some put
    by_cases place : sample.place = publisher.1
    · have same : context = other := Option.some.inj (held.looked.symm.trans (place ▸ held'.looked))
      subst same
      by_cases own : sample.message.entity = publisher.2
      · have owner : sample.publisher = publisher := Prod.ext place own
        simp [GraphNetworkLabel.moves, place, Session.putting, pending, own, Feed.of, owner]
      · have other : sample.publisher ≠ publisher := fun same => own (congrArg Prod.snd same)
        simp [GraphNetworkLabel.moves, place, Session.putting, pending, own, Feed.of, other]
    · have other : sample.publisher ≠ publisher := fun same => place (congrArg Prod.fst same)
      simp [GraphNetworkLabel.moves, place, Feed.of, other]
  | none =>
    apply List.filter_eq_nil_iff.mpr
    intro message member own
    have own : message.entity = publisher.2 := of_decide_eq_true own
    -- a message of the publisher that is handed over would have been put
    obtain ⟨index, rfl, pending⟩ := mem_putting member
    have held' : PublisherAt contexts (publisher.1, message.entity) context entity part := by
      rw [own]
      exact held
    rw [TopicNetwork.putting_of held' pending] at put
    cases put

end Putting

theorem TopicSample.PutBy.step {sample : TopicSample} (put : sample.PutBy contexts)
    (stepped : GraphNetwork.step setting contexts label = some after) : sample.PutBy after := by
  obtain ⟨context, entity, part, held, key, sent⟩ := put
  obtain ⟨changed, later, held', same, _, moves⟩ := held.step stepped
  exact ⟨changed, later, part, held', key.trans same.symm, moves.sent ▸ List.mem_append_left _ sent⟩

/-- Where there was no publisher before a step, nothing has come from it after the step. -/
theorem SharedGraph.unheard (shared : SharedGraph setting contexts)
    (stepped : GraphNetwork.step setting contexts label = some after)
    (held : PublisherAt after publisher changed entity part)
    (absent : ∀ context entity part, ¬PublisherAt contexts publisher context entity part) :
    changed.puts publisher.2 = [] := by
  apply List.filter_eq_nil_iff.mpr
  intro message sent own
  have own : message.entity = publisher.2 := of_decide_eq_true own
  cases looked : contexts[publisher.1]? with
  | none =>
    have found := held.found
    rw [GraphNetwork.step_opened stepped looked held.looked] at found
    cases found
  | some context =>
    obtain ⟨changed', looked', moves⟩ := GraphNetwork.step_moves stepped looked
    obtain rfl : changed' = changed := Option.some.inj (looked'.symm.trans held.looked)
    have sound := shared.each context (List.mem_of_getElem? looked)
    have known : message ∈ context.session.outgoing ++ context.session.sent := by
      rw [moves.sent] at sent
      rcases List.mem_append.mp sent with old | new
      · exact List.mem_append_right _ old
      · obtain ⟨_, _, pending⟩ := mem_putting new
        exact List.mem_append_left _ (List.mem_of_getElem? pending)
    obtain ⟨before, found, _⟩ := sound.session.carried message known
    rw [own] at found
    obtain ⟨_, grows⟩ := moves.grows
    obtain ⟨later, kept, token⟩ := grows.entity_kept found
    obtain rfl : later = entity := Option.some.inj (kept.symm.trans held.found)
    obtain ⟨part', _, made, _⟩ := sound.made publisher.2 before found
    exact absent context before part' ⟨looked, found, made, (congrArg (·.2.2.1) token).symm.trans held.kind⟩

end Evolving

section Subscriptions

variable {intersects : Str → Str → Bool} {contexts after : List GraphContext} {subscription : TopicSubscription}
  {label : GraphNetworkLabel Message}

def TopicSubscription.hearing (intersects : Str → Str → Bool) (contexts : List GraphContext)
    (label : GraphNetworkLabel Message) (subscription : TopicSubscription) : List TopicSample :=
  (TopicNetwork.putting contexts label).toList.filter fun sample =>
    subscription.opened && intersects subscription.keyExpr sample.keyExpr

def TopicSubscription.follow (intersects : Str → Str → Bool) (contexts : List GraphContext)
    (label : GraphNetworkLabel Message) (subscription : TopicSubscription) : TopicSubscription :=
  { subscription with feed := (subscription.hearing intersects contexts label).foldl Feed.send subscription.feed }

theorem TopicNetwork.follow_eq (intersects : Str → Str → Bool) (contexts : List GraphContext)
    (label : GraphNetworkLabel Message) (subscriptions : List TopicSubscription) :
    (match putting contexts label with
      | some sample => subscriptions.map (TopicSubscription.hear intersects sample)
      | none => subscriptions) = subscriptions.map (TopicSubscription.follow intersects contexts label) := by
  cases put : putting contexts label with
  | none =>
    have same : ∀ subscription, TopicSubscription.follow intersects contexts label subscription = subscription := by
      intro subscription
      simp [TopicSubscription.follow, TopicSubscription.hearing, put]
    rw [List.map_congr_left fun subscription _ => same subscription, List.map_id']
  | some sample =>
    apply List.map_congr_left
    intro subscription _
    by_cases heard : (subscription.opened && intersects subscription.keyExpr sample.keyExpr) = true
    · simp [TopicSubscription.follow, TopicSubscription.hearing, TopicSubscription.hear, put, heard]
    · simp [TopicSubscription.follow, TopicSubscription.hearing, TopicSubscription.hear, put, heard]

theorem TopicSubscription.follow_sent : (subscription.follow intersects contexts label).feed.sent =
    subscription.feed.sent ++ subscription.hearing intersects contexts label := by
  show (List.foldl Feed.send subscription.feed _).sent = _
  generalize subscription.hearing intersects contexts label = heard
  generalize subscription.feed = feed
  induction heard generalizing feed with
  | nil => simp
  | cons sample heard ih =>
    rw [List.foldl_cons, ih, Feed.send, List.append_assoc]
    rfl

theorem TopicSubscription.follow_inOrder (inOrder : subscription.feed.InOrder TopicSample.publisher) :
    (subscription.follow intersects contexts label).feed.InOrder TopicSample.publisher := by
  show (List.foldl Feed.send subscription.feed _).InOrder _
  generalize subscription.hearing intersects contexts label = heard
  generalize subscription.feed = feed at inOrder ⊢
  induction heard generalizing feed with
  | nil => exact inOrder
  | cons sample heard ih => exact ih _ (inOrder.send sample)

/-- An open subscription hears all that a publisher puts on a key that it listens to. -/
theorem TopicSubscription.hearing_of {publisher : Nat × Nat} {context : GraphContext} {entity : SessionEntity}
    {part : EntityPart} (held : PublisherAt contexts publisher context entity part)
    (listens : intersects subscription.keyExpr (context.publisherKey part) = true) :
    Feed.of TopicSample.publisher publisher (subscription.hearing intersects contexts label) =
      if subscription.opened then
        Feed.of TopicSample.publisher publisher (TopicNetwork.putting contexts label).toList else [] := by
  cases put : TopicNetwork.putting contexts label with
  | none => simp [hearing, put, Feed.of]
  | some sample =>
    obtain ⟨_, other, _, _, _, _, held', key⟩ := TopicNetwork.putting_eq_some put
    by_cases own : sample.publisher = publisher
    · subst own
      obtain ⟨rfl, rfl, rfl⟩ := held.unique held'
      cases opened : subscription.opened <;> simp [hearing, put, Feed.of, opened, key, listens]
    · cases listening : intersects subscription.keyExpr sample.keyExpr <;> cases opened : subscription.opened <;>
        simp [hearing, put, Feed.of, opened, own, listening]

theorem TopicSubscription.follow_sentBy (publisher : Nat × Nat) :
    (subscription.follow intersects contexts label).sentBy publisher = subscription.sentBy publisher ++
      (Feed.of TopicSample.publisher publisher (subscription.hearing intersects contexts label)).map (·.message) := by
  rw [sentBy, follow_sent, Feed.of, List.filter_append, List.map_append]
  rfl

theorem TopicSubscription.Sound.unheard (sound : subscription.Sound intersects contexts) {publisher : Nat × Nat}
    (absent : ∀ context entity part, ¬PublisherAt contexts publisher context entity part) :
    subscription.sentBy publisher = [] := by
  apply List.map_eq_nil_iff.mpr
  apply List.filter_eq_nil_iff.mpr
  intro sample sent own
  obtain ⟨⟨context, entity, part, held, _⟩, _⟩ := sound.heard sample sent
  rw [of_decide_eq_true own] at held
  exact absent context entity part held

theorem TopicSubscription.hearing_unheard {publisher : Nat × Nat}
    (absent : ∀ context entity part, ¬PublisherAt contexts publisher context entity part) :
    Feed.of TopicSample.publisher publisher (subscription.hearing intersects contexts label) = [] := by
  apply List.filter_eq_nil_iff.mpr
  intro sample heard own
  obtain ⟨put, _⟩ := List.mem_filter.mp heard
  obtain ⟨_, context, entity, part, _, _, held, _⟩ := TopicNetwork.putting_eq_some (Option.mem_toList.mp put)
  rw [of_decide_eq_true own] at held
  exact absent context entity part held

theorem TopicNetwork.putting_put {sample : TopicSample} (put : putting contexts label = some sample)
    (stepped : GraphNetwork.step setting contexts label = some after) : sample.PutBy after := by
  obtain ⟨index, context, entity, part, rfl, pending, held, key⟩ := putting_eq_some put
  obtain ⟨changed, later, held', same, _, moves⟩ := held.step stepped
  refine ⟨changed, later, part, held', key.trans same.symm, ?_⟩
  rw [moves.sent]
  simp [GraphNetworkLabel.moves, TopicSample.publisher, Session.putting, pending]

theorem TopicSubscription.Sound.follow (sound : subscription.Sound intersects contexts)
    (shared : SharedGraph setting contexts) (stepped : GraphNetwork.step setting contexts label = some after) :
    (subscription.follow intersects contexts label).Sound intersects after := by
  refine ⟨sound.tokenable, follow_inOrder sound.inOrder, ?_, ?_⟩
  · intro sample member
    rw [follow_sent] at member
    rcases List.mem_append.mp member with old | new
    · obtain ⟨put, listens⟩ := sound.heard sample old
      exact ⟨put.step stepped, listens⟩
    · obtain ⟨put, listens⟩ := List.mem_filter.mp new
      exact ⟨TopicNetwork.putting_put (Option.mem_toList.mp put) stepped, (Bool.and_eq_true_iff.mp listens).2⟩
  · intro publisher changed entity part held listens
    by_cases known : ∃ context entity part, PublisherAt contexts publisher context entity part
    · obtain ⟨context, before, part', held'⟩ := known
      obtain ⟨changed', later, stays, key, _, moves⟩ := held'.step stepped
      obtain ⟨rfl, rfl, rfl⟩ := stays.unique held
      have listens : intersects subscription.keyExpr (context.publisherKey part') = true := key ▸ listens
      obtain ⟨earlier, later, puts, heard⟩ := sound.puts publisher context before part' held' listens
      rw [held'.puts_step moves, puts, follow_sentBy, hearing_of held' listens]
      generalize Feed.of TopicSample.publisher publisher (TopicNetwork.putting contexts label).toList = new
      by_cases opened : subscription.opened = true
      · refine ⟨earlier, [], ?_, fun _ => rfl⟩
        simp [heard opened, opened]
      · refine ⟨earlier, later ++ new.map (·.message), ?_, fun opened' => absurd opened' opened⟩
        simp [opened]
    · have absent : ∀ context entity part, ¬PublisherAt contexts publisher context entity part :=
        fun context entity part held => known ⟨context, entity, part, held⟩
      rw [shared.unheard stepped held absent, follow_sentBy, sound.unheard absent, hearing_unheard absent]
      exact ⟨[], [], rfl, fun _ => rfl⟩

/-- A subscription that has just been opened has heard of nothing. -/
theorem TopicSubscription.Sound.opening {context : GraphContext} {progress : Nat}
    (tokenable : ∀ progress ∈ context.session.creating, AllTokenable progress.remaining)
    (opened : TopicNetwork.opening context progress = some subscription) : subscription.Sound intersects contexts := by
  obtain ⟨creating, looked, opened⟩ := Option.bind_eq_some_iff.mp opened
  obtain ⟨made, head, opened⟩ := Option.bind_eq_some_iff.mp opened
  cases made with
  | error => cases opened
  | ok part =>
    have tokens := tokenable creating (List.mem_of_getElem? looked) _ (List.mem_of_mem_head? head) part rfl
    simp only [Option.ite_none_right_eq_some, Option.some.injEq] at opened
    obtain ⟨_, rfl⟩ := opened
    refine ⟨tokens, .empty, List.forall_mem_nil _, ?_⟩
    intro publisher context entity part _ _
    exact ⟨context.puts publisher.2, [], by simp [sentBy, Feed.empty, Feed.of], fun _ => rfl⟩

end Subscriptions

section Networks

variable {setting : TopicSetting Message} {network after : TopicNetwork}
  {past : List (TopicNetwork × TopicNetworkLabel Message)} {place : Nat} {message : Outgoing}

/-- A call of the entity has encoded the message, in a step of the past, and is still the one that it was. -/
def Published (setting : TopicSetting Message) (past : List (TopicNetwork × TopicNetworkLabel Message)) (place : Nat)
    (current : GraphContext) (message : Outgoing) : Prop :=
  ∃ before context entity call now later, (before, .graph (.act place (.send message.entity call now))) ∈ past ∧
    before.contexts[place]? = some context ∧
    context.session.Encodes setting.toGraphSetting entity call now message ∧
    current.session.entities[message.entity]? = some later ∧ later.token = entity.token

structure TopicNetwork.Sound (setting : TopicSetting Message) (network : TopicNetwork)
    (past : List (TopicNetwork × TopicNetworkLabel Message)) : Prop where
  reached : ((graphNetwork setting.toGraphSetting).restrict fun network label =>
    GraphNetwork.roomy network label = true).Reachable network.contexts
  published : ∀ place context, network.contexts[place]? = some context →
    ∀ message ∈ context.session.outgoing ++ context.session.sent, Published setting past place context message
  each : ∀ subscription ∈ network.subscriptions, subscription.Sound setting.intersects network.contexts

theorem moves_act {label : GraphNetworkLabel Message} {moved : SessionLabel Message}
    (moves : label.moves place = some moved) (sends : moved.creates = false) : label = .act place moved := by
  cases label with
  | act index own =>
    simp only [GraphNetworkLabel.moves, Option.ite_none_right_eq_some, Option.some.injEq] at moves
    obtain ⟨rfl, rfl⟩ := moves
    rfl
  | create index node call =>
    simp only [GraphNetworkLabel.moves, Option.ite_none_right_eq_some, Option.some.injEq] at moves
    obtain ⟨_, rfl⟩ := moves
    cases sends
  | _ => cases moves

theorem Published.later {entry : TopicNetwork × TopicNetworkLabel Message} {current changed : GraphContext}
    {part : Option EntityPart} (published : Published setting past place current message)
    (grows : current.session.Grows part changed.session) : Published setting (entry :: past) place changed message := by
  obtain ⟨before, context, entity, call, now, later, member, looked, encodes, found, token⟩ := published
  obtain ⟨latest, kept, same⟩ := grows.entity_kept found
  exact ⟨before, context, entity, call, now, latest, List.mem_cons_of_mem _ member, looked, encodes, kept,
    same.trans token⟩

theorem Published.mono {entry : TopicNetwork × TopicNetworkLabel Message} {current : GraphContext}
    (published : Published setting past place current message) :
    Published setting (entry :: past) place current message := by
  have still : current.session.Grows none current.session := .same rfl rfl rfl rfl
  exact published.later still

theorem TopicNetwork.Sound.graph (sound : network.Sound setting past) {label : GraphNetworkLabel Message}
    (roomy : GraphNetwork.roomy network.contexts label = true)
    (stepped : TopicNetwork.step setting network (.graph label) = some after) :
    after.Sound setting ((network, .graph label) :: past) := by
  obtain ⟨contexts, moved, rfl⟩ := Option.map_eq_some_iff.mp stepped
  have shared := shared_graph sound.reached
  have reached := sound.reached.step (System.restrict_step.mpr ⟨roomy, moved⟩)
  refine ⟨reached, ?_, ?_⟩
  · intro place context looked message member
    cases before : network.contexts[place]? with
    | none =>
      have held := (shared_graph reached).each context (List.mem_of_getElem? looked)
      obtain ⟨entity, found, _⟩ := held.session.carried message member
      rw [GraphNetwork.step_opened moved before looked] at found
      cases found
    | some earlier =>
      obtain ⟨later, looked', moves⟩ := GraphNetwork.step_moves moved before
      obtain rfl : later = context := Option.some.inj (looked'.symm.trans looked)
      obtain ⟨_, grows⟩ := moves.grows
      have known : message ∈ earlier.session.outgoing ++ earlier.session.sent →
          Published setting ((network, .graph label) :: past) place later message :=
        fun old => (sound.published place earlier before message old).later grows
      cases carries : label.moves place with
      | none =>
        rw [carries] at moves
        rw [moves.still rfl] at member
        exact known member
      | some own =>
        rw [carries] at moves
        rcases (Session.step_messages (moves.stepped own rfl)).2 message member with old | fresh
        · exact known old
        · obtain ⟨entity, call, now, rfl, encodes⟩ := fresh
          obtain ⟨latest, kept, token⟩ := grows.entity_kept encodes.1
          rw [moves_act carries rfl]
          exact ⟨network, earlier, entity, call, now, latest, List.mem_cons_self, before, encodes, kept, token⟩
  · show ∀ subscription ∈ (match putting network.contexts label with
      | some sample => network.subscriptions.map (TopicSubscription.hear setting.intersects sample)
      | none => network.subscriptions), subscription.Sound setting.intersects contexts
    rw [follow_eq, List.forall_mem_map]
    intro subscription member
    exact (sound.each subscription member).follow shared moved

theorem TopicSubscription.Sound.onFeed {intersects : Str → Str → Bool} {contexts : List GraphContext}
    {subscription : TopicSubscription} (sound : subscription.Sound intersects contexts) {feed : Feed TopicSample}
    (inOrder : feed.InOrder TopicSample.publisher) (same : feed.sent = subscription.feed.sent) :
    TopicSubscription.Sound intersects contexts { subscription with feed } := by
  refine ⟨sound.tokenable, inOrder, ?_, ?_⟩
  · rw [same]
    exact sound.heard
  · intro publisher context entity part held listens
    have sentBy : TopicSubscription.sentBy { subscription with feed } publisher = subscription.sentBy publisher := by
      rw [TopicSubscription.sentBy, same]
      rfl
    rw [sentBy]
    exact sound.puts publisher context entity part held listens

/-- Steps that only move what a subscription has been sent. -/
theorem TopicNetwork.Sound.onFeed (sound : network.Sound setting past) {number : Nat}
    {change : Feed TopicSample → Option (Feed TopicSample)} {entry : TopicNetwork × TopicNetworkLabel Message}
    (moves : ∀ before after, change before = some after → before.InOrder TopicSample.publisher →
      after.InOrder TopicSample.publisher ∧ after.sent = before.sent)
    (stepped : network.onFeed number change = some after) : after.Sound setting (entry :: past) := by
  obtain ⟨subscription, looked, stepped⟩ := Option.bind_eq_some_iff.mp stepped
  obtain ⟨feed, changed, rfl⟩ := Option.map_eq_some_iff.mp stepped
  have held := sound.each subscription (List.mem_of_getElem? looked)
  obtain ⟨inOrder, same⟩ := moves _ _ changed held.inOrder
  refine ⟨sound.reached, ?_, forall_set sound.each (held.onFeed inOrder same)⟩
  intro place context found message member
  exact (sound.published place context found message member).mono

theorem TopicNetwork.Sound.step (sound : network.Sound setting past) {label : TopicNetworkLabel Message}
    (roomy : network.roomy label = true) (stepped : TopicNetwork.step setting network label = some after) :
    after.Sound setting ((network, label) :: past) := by
  have published : ∀ place context, network.contexts[place]? = some context →
      ∀ message ∈ context.session.outgoing ++ context.session.sent,
        Published setting ((network, label) :: past) place context message :=
    fun place context looked message member => (sound.published place context looked message member).mono
  cases label with
  | graph label => exact sound.graph roomy stepped
  | subscribe place progress =>
    obtain ⟨context, looked, stepped⟩ := Option.bind_eq_some_iff.mp stepped
    obtain ⟨subscription, opened, rfl⟩ := Option.map_eq_some_iff.mp stepped
    have creating := ((shared_graph sound.reached).each context (List.mem_of_getElem? looked)).creating
    refine ⟨sound.reached, published, ?_⟩
    intro other member
    rcases List.mem_append.mp member with old | new
    · exact sound.each other old
    · rw [List.mem_singleton.mp new]
      exact .opening creating opened
  | unsubscribe number =>
    obtain ⟨subscription, looked, rfl⟩ := Option.map_eq_some_iff.mp stepped
    have held := sound.each subscription (List.mem_of_getElem? looked)
    refine ⟨sound.reached, published, forall_set sound.each ⟨held.tokenable, held.inOrder, held.heard, ?_⟩⟩
    intro publisher context entity part publishes listens
    obtain ⟨earlier, later, puts, _⟩ := held.puts publisher context entity part publishes listens
    refine ⟨earlier, later, puts, ?_⟩
    intro opened
    cases opened
  | arrive number sample =>
    exact sound.onFeed (fun _ _ moved inOrder => ⟨inOrder.arrive moved, Feed.arrive_sent moved⟩) stepped
  | lose number sample =>
    exact sound.onFeed (fun _ _ moved inOrder => ⟨inOrder.lose moved, Feed.lose_sent moved⟩) stepped
  | take number =>
    exact sound.onFeed (fun _ _ moved inOrder => ⟨inOrder.take moved, Feed.take_sent moved⟩) stepped

theorem sound_topics (reachable : ((topicNetwork setting).restrict fun network label =>
    network.roomy label = true).traced.Reachable (network, past)) : network.Sound setting past := by
  refine reachable.traced_invariant (fun network past => network.Sound setting past) ?_ ?_
  · refine ⟨.initial, ?_, List.forall_mem_nil _⟩
    intro place context looked
    cases looked
  · intro before label after past _ sound stepped
    obtain ⟨roomy, moved⟩ := System.restrict_step.mp stepped
    exact sound.step roomy moved

end Networks

end Ros2Client.Zenoh
