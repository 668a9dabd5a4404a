import Ros2Client.Zenoh.LiveGraph
import Ros2Client.Zenoh.SharedTopics

open Text Transition Wire

namespace Ros2Client.Zenoh

variable {Message : Type}

def TopicSample.Carries (setting : TopicSetting Message) (sample : TopicSample) (call : SendCall Message)
    (info : MessageInfo) : Prop :=
  Subscription.takeRawKeyed setting.ext sample.keyExpr sample.message.payload (some sample.message.attachment) =
    .ok (sample.keyExpr, sample.message.payload, info) ∧
  match call with
  | .publish msg => Subscription.decode setting.ext setting.codec sample.message.payload
      (some sample.message.attachment) = .ok (msg, info)
  | .publishRaw cdrBytes => sample.message.payload = cdrBytes
  | .rawPublish cdrMessage => sample.message.payload = cdrMessage
  | .call _ => False

/-- The publisher of a sample, on the topic of the subscription, and the call that published the message: its
    information is the number that the publisher has drawn, and the identity that its token has. -/
structure Attributed (setting : TopicSetting Message) (network : TopicNetwork)
    (past : List (TopicNetwork × TopicNetworkLabel Message)) (subscription : TopicSubscription) (sample : TopicSample)
    (context : GraphContext) (entity : SessionEntity) (part : EntityPart) : Prop where
  publisher : PublisherAt network.contexts sample.publisher context entity part
  topic : subscription.part.Plain → part.Plain → subscription.domainId = context.session.domainId ∧
    SameUpToEnds '/' subscription.part.fqn part.fqn ∧ subscription.part.ddsType = part.ddsType
  drawn : sample.message.number ∈ entity.drawn
  published : ∃ before call now,
    (before, .graph (.act sample.place (.send sample.message.entity call now))) ∈ past ∧
      sample.Carries setting call ⟨now, sample.message.number, gidFromLivelinessKey setting.xxh3 entity.key⟩

/-- The messages of each publisher are taken in the order in which it has handed them to Zenoh, none of them twice, and
    without a gap where Zenoh loses none. -/
structure TakesWhatIsPublished (setting : TopicSetting Message) (network : TopicNetwork)
    (past : List (TopicNetwork × TopicNetworkLabel Message)) (subscription : TopicSubscription) : Prop where
  attributed : ∀ sample ∈ subscription.feed.taken, ∃ context entity part,
    Attributed setting network past subscription sample context entity part
  ordered : ∀ (publisher : Nat × Nat) context entity part, PublisherAt network.contexts publisher context entity part →
    ((Feed.of TopicSample.publisher publisher subscription.feed.taken).map (·.message)).Sublist
      (context.puts publisher.2)
  complete : subscription.opened = true → subscription.feed.lossless = true → subscription.feed.inFlight = [] →
    subscription.feed.waiting = [] →
    ∀ (publisher : Nat × Nat) context entity part, PublisherAt network.contexts publisher context entity part →
      setting.intersects subscription.keyExpr (context.publisherKey part) = true →
      ∃ earlier, context.puts publisher.2 =
        earlier ++ (Feed.of TopicSample.publisher publisher subscription.feed.taken).map (·.message)

def HashesApart (xxh3 : List UInt8 → BitVec 128) (contexts : List GraphContext) : Prop :=
  ∀ first ∈ contexts, ∀ second ∈ contexts, ∀ owner owner' key key', first.key owner = some key →
    second.key owner' = some key' → xxh3 (asBytes key) = xxh3 (asBytes key') → key = key'

section Samples

variable {setting : TopicSetting Message} {sample : TopicSample} {entity : SessionEntity} {call : SendCall Message}
  {now : Int64}

theorem messageInfoFrom_toZbytes (ext : ZenohExt) (attachment : AttachmentData) :
    messageInfoFrom ext (some (attachment.toZbytes ext)) =
      .ok ⟨attachment.sourceTimestamp, attachment.sequenceNumber, attachment.sourceGid⟩ := by
  simp only [messageInfoFrom, AttachmentData.fromZbytes_toZbytes]

/-- What a call has encoded is what the application is told. -/
theorem TopicSample.carries_of_encode (law : setting.codec.RoundTrips)
    (publishes : call.kind = .publisher)
    (encoded : call.encode setting.ext setting.codec entity.sender now =
      (.ok (sample.message.payload, sample.message.attachment), ⟨sample.message.number, entity.sender.sourceGid⟩)) :
    sample.Carries setting call ⟨now, sample.message.number, entity.sender.sourceGid⟩ := by
  have next : ∀ payload, (Except.ok (payload, (entity.sender.attachment setting.ext now).1),
      (entity.sender.attachment setting.ext now).2) = ((.ok (sample.message.payload, sample.message.attachment),
        ⟨sample.message.number, entity.sender.sourceGid⟩) : Except CdrError (List UInt8 × List UInt8) × Sender) →
      sample.message.payload = payload ∧ messageInfoFrom setting.ext (some sample.message.attachment) =
        .ok ⟨now, sample.message.number, entity.sender.sourceGid⟩ := by
    intro payload same
    simp only [Sender.attachment, Prod.mk.injEq, Except.ok.injEq, Sender.mk.injEq, and_true] at same
    obtain ⟨⟨paid, attached⟩, number⟩ := same
    rw [← attached, ← number]
    exact ⟨paid.symm, messageInfoFrom_toZbytes setting.ext _⟩
  have told : messageInfoFrom setting.ext (some sample.message.attachment) =
      .ok ⟨now, sample.message.number, entity.sender.sourceGid⟩ →
      Subscription.takeRawKeyed setting.ext sample.keyExpr sample.message.payload (some sample.message.attachment) =
        .ok (sample.keyExpr, sample.message.payload, ⟨now, sample.message.number, entity.sender.sourceGid⟩) := by
    intro info
    rw [Subscription.takeRawKeyed, info]
    rfl
  cases call with
  | publish msg =>
    cases written : toCdr setting.codec msg with
    | error error => simp [SendCall.encode, Publisher.encode, written] at encoded
    | ok payload =>
      simp only [SendCall.encode, Publisher.encode, written] at encoded
      obtain ⟨paid, info⟩ := next payload encoded
      refine ⟨told info, ?_⟩
      simp only [Subscription.decode, paid, fromCdr_toCdr law written, info]
      rfl
  | publishRaw cdrBytes =>
    obtain ⟨paid, info⟩ := next cdrBytes encoded
    exact ⟨told info, paid⟩
  | rawPublish cdrMessage =>
    obtain ⟨paid, info⟩ := next cdrMessage encoded
    exact ⟨told info, paid⟩
  | call req => cases publishes

theorem TopicSample.Carries.identity {info : MessageInfo} (carries : sample.Carries setting call info) :
    sample.message.identity setting.ext = some (info.sourceGid, info.sequenceNumber) := by
  obtain ⟨told, _⟩ := carries
  cases read : AttachmentData.fromZbytes setting.ext sample.message.attachment with
  | none =>
    simp only [Subscription.takeRawKeyed, messageInfoFrom, read] at told
    cases told
  | some a =>
    simp only [Subscription.takeRawKeyed, messageInfoFrom, read] at told
    cases told
    rw [Outgoing.identity, read]
    rfl

end Samples

section Truth

variable {setting : TopicSetting Message} {network : TopicNetwork}
    {past : List (TopicNetwork × TopicNetworkLabel Message)}
  {subscription : TopicSubscription}

theorem TopicNetwork.Sound.attributed (sound : network.Sound setting past) (law : setting.codec.RoundTrips)
    (zenoh : KeyMatching fun first second => setting.intersects first second = true)
    (member : subscription ∈ network.subscriptions) {sample : TopicSample} (taken : sample ∈ subscription.feed.taken) :
    ∃ context entity part, Attributed setting network past subscription sample context entity part := by
  have held := sound.each subscription member
  have ahead : sample ∈ subscription.feed.path := by simp [Feed.path, taken]
  obtain ⟨⟨context, entity, part, publisher, key, sent⟩, listens⟩ := held.heard sample (held.inOrder.mem_sent ahead)
  have shared := shared_graph sound.reached
  have own := shared.each context (List.mem_of_getElem? publisher.looked)
  have kept := List.mem_append_right context.session.outgoing sent
  obtain ⟨entity', found, drawn, identity⟩ := own.session.carried sample.message kept
  obtain rfl : entity' = entity := Option.some.inj (found.symm.trans publisher.found)
  refine ⟨context, entity', part, publisher, ?_, drawn, ?_⟩
  · intro plain plain'
    rw [key] at listens
    exact (EntityPart.dataKey_intersects zenoh plain plain' held.tokenable
      (own.tokenable part (List.mem_of_getElem? publisher.made)) _ _).mp listens
  · obtain ⟨before, _, sender, call, now, later, happened, _, encodes, found', token⟩ :=
      sound.published sample.place context publisher.looked sample.message kept
    obtain rfl : later = entity' := Option.some.inj (found'.symm.trans found)
    have publishes : call.kind = .publisher :=
      encodes.2.1.symm.trans ((congrArg (·.2.2.1) token).symm.trans publisher.kind)
    have carries := TopicSample.carries_of_encode law publishes encodes.2.2
    have own_gid := carries.identity
    rw [identity] at own_gid
    obtain ⟨gid, _⟩ := Prod.mk.inj (Option.some.inj own_gid)
    have keyed := (own.session.keyed later (List.mem_of_getElem? found)).2.2
    refine ⟨before, call, now, happened, ?_⟩
    rw [← keyed, gid]
    exact carries

theorem TopicNetwork.Sound.sent_of_taken (sound : network.Sound setting past)
    (member : subscription ∈ network.subscriptions) {sample : TopicSample} (taken : sample ∈ subscription.feed.taken)
    {context : GraphContext} (looked : network.contexts[sample.place]? = some context) :
    sample.message ∈ context.session.sent := by
  have held := sound.each subscription member
  have ahead : sample ∈ subscription.feed.path := by simp [Feed.path, taken]
  obtain ⟨⟨other, _, _, publisher, _, sent⟩, _⟩ := held.heard sample (held.inOrder.mem_sent ahead)
  obtain rfl : other = context := Option.some.inj (publisher.looked.symm.trans looked)
  exact sent

theorem TopicNetwork.Sound.takes (sound : network.Sound setting past) (law : setting.codec.RoundTrips)
    (zenoh : KeyMatching fun first second => setting.intersects first second = true)
    (member : subscription ∈ network.subscriptions) : TakesWhatIsPublished setting network past subscription := by
  have held := sound.each subscription member
  refine ⟨fun sample taken => sound.attributed law zenoh member taken, ?_, ?_⟩
  · intro publisher context entity part publishes
    have taken := (held.inOrder.taken publisher).map (·.message)
    by_cases listens : setting.intersects subscription.keyExpr (context.publisherKey part) = true
    · obtain ⟨earlier, later, puts, _⟩ := held.puts publisher context entity part publishes listens
      rw [puts, List.append_assoc]
      exact taken.trans ((List.sublist_append_left _ _).trans (List.sublist_append_right _ _))
    · -- nothing has come from a publisher on another key
      have silent : Feed.of TopicSample.publisher publisher subscription.feed.sent = [] := by
        apply List.filter_eq_nil_iff.mpr
        intro sample sent own
        obtain ⟨⟨other, _, _, publishes', key, _⟩, heard⟩ := held.heard sample sent
        rw [of_decide_eq_true own] at publishes'
        obtain ⟨rfl, rfl, rfl⟩ := publishes.unique publishes'
        rw [key] at heard
        exact listens heard
      rw [silent] at taken
      rw [List.sublist_nil.mp taken]
      exact List.nil_sublist _
  · intro opened lossless arrived waited publisher context entity part publishes listens
    obtain ⟨earlier, later, puts, none⟩ := held.puts publisher context entity part publishes listens
    have all := held.inOrder.complete lossless publisher
    rw [Feed.path, arrived, waited, List.append_nil, List.append_nil] at all
    refine ⟨earlier, ?_⟩
    rw [puts, none opened, List.append_nil, all]
    rfl

/-- Samples of one identity are one message, whichever subscriptions have taken them. -/
theorem TopicNetwork.Sound.identified (sound : network.Sound setting past) (law : setting.codec.RoundTrips)
    (zenoh : KeyMatching fun first second => setting.intersects first second = true)
    (apart : HashesApart setting.xxh3 network.contexts) {subscription' : TopicSubscription}
    (member : subscription ∈ network.subscriptions) (member' : subscription' ∈ network.subscriptions)
    {sample sample' : TopicSample} (taken : sample ∈ subscription.feed.taken)
    (taken' : sample' ∈ subscription'.feed.taken)
    (same : sample.message.identity setting.ext = sample'.message.identity setting.ext) :
    sample.publisher = sample'.publisher ∧ sample.message = sample'.message := by
  obtain ⟨context, entity, part, attributed⟩ := sound.attributed law zenoh member taken
  obtain ⟨context', entity', part', attributed'⟩ := sound.attributed law zenoh member' taken'
  obtain ⟨_, _, _, _, carries⟩ := attributed.published
  obtain ⟨_, _, _, _, carries'⟩ := attributed'.published
  rw [carries.identity, carries'.identity, Option.some.injEq, Prod.mk.injEq] at same
  obtain ⟨gids, numbers⟩ := same
  have keyed : context.key (.entity sample.publisher.2) = some entity.key := by
    rw [GraphContext.key, attributed.publisher.found]
    rfl
  have keyed' : context'.key (.entity sample'.publisher.2) = some entity'.key := by
    rw [GraphContext.key, attributed'.publisher.found]
    rfl
  have keys := apart context (List.mem_of_getElem? attributed.publisher.looked) context'
    (List.mem_of_getElem? attributed'.publisher.looked) _ _ _ _ keyed keyed' (gidFromLivelinessKey_inj gids)
  have shared := shared_graph sound.reached
  obtain ⟨place, owner⟩ :=
    shared.token_once attributed.publisher.looked attributed'.publisher.looked keyed (keys ▸ keyed')
  have publishers : sample.publisher = sample'.publisher := Prod.ext place (TokenOwner.entity.inj owner)
  have sent := sound.sent_of_taken member taken attributed.publisher.looked
  have sent' := sound.sent_of_taken member' taken' (place ▸ attributed.publisher.looked)
  have single := ((shared.each context (List.mem_of_getElem? attributed.publisher.looked)).session.single.sublist
    ((List.sublist_append_right _ _).map _))
  exact ⟨publishers, List.inj_on_of_nodup_map single sent sent' (Prod.ext (TokenOwner.entity.inj owner) numbers)⟩

end Truth

/-- A subscription takes what is published on its topic, of each publisher in order, and is told who has published it:
    where the hashes of the tokens differ, no other message has the same identity. -/
theorem taken_messages_published (setting : TopicSetting Message) (law : setting.codec.RoundTrips)
    (zenoh : KeyMatching fun first second => setting.intersects first second = true)
    (network : TopicNetwork) (past : List (TopicNetwork × TopicNetworkLabel Message))
    (reachable : ((topicNetwork setting).restrict fun network label => network.roomy label = true).traced.Reachable
      (network, past)) :
    (∀ subscription ∈ network.subscriptions, TakesWhatIsPublished setting network past subscription) ∧
      (HashesApart setting.xxh3 network.contexts →
        ∀ subscription ∈ network.subscriptions, ∀ subscription' ∈ network.subscriptions,
        ∀ sample ∈ subscription.feed.taken, ∀ sample' ∈ subscription'.feed.taken,
          sample.message.identity setting.ext = sample'.message.identity setting.ext →
            sample.publisher = sample'.publisher ∧ sample.message = sample'.message) := by
  have sound := sound_topics reachable
  refine ⟨fun subscription member => sound.takes law zenoh member, ?_⟩
  intro apart subscription member subscription' member' sample taken sample' taken' same
  exact sound.identified law zenoh apart member member' taken taken' same

def keySetting : TopicSetting UInt32 where
  toGraphSetting := octetSetting
  intersects first second := chunksMatch (first.splitOn '/') (second.splitOn '/')

def chatterTopic : ZenohTopic :=
  createTopic rootNode chatter (.new "std_msgs".toList "String".toList) .subscriptionDefault

def chatterSubscription : ProperCall where
  val := .subscription chatterTopic none
  property := by
    have built : Name.new [] "chatter".toList = .ok chatter := by decide
    exact createTopic_made (.new built) (by decide)

/-- The second context listens to what the first one publishes. -/
def heardMessage : List (TopicNetworkLabel UInt32) :=
  [.graph (.openContext 0 firstZid), .graph (.openContext 0 secondZid), .graph (.act 0 (.newNode rootNode)),
    .graph (.act 1 (.newNode rootNode)), .graph (.create 1 0 chatterSubscription), .subscribe 1 0,
    .graph (.act 1 (.createNext 0 true)), .graph (.create 0 0 chatterCall), .graph (.act 0 (.createNext 0 true)),
    .graph (.act 0 (.send 0 (.publish 7) 0)), .graph (.act 0 (.put 0 true)), .arrive 0 0, .take 0]

def tookOne (traced : TopicNetwork × List (TopicNetwork × TopicNetworkLabel UInt32)) : Bool :=
  traced.1.subscriptions[0]?.any fun subscription => subscription.feed.taken.length = 1

theorem chatter_taken : ∃ (network : TopicNetwork) (past : List (TopicNetwork × TopicNetworkLabel UInt32))
    (subscription : TopicSubscription), network.subscriptions[0]? = some subscription ∧
      subscription.feed.taken.length = 1 ∧ TakesWhatIsPublished keySetting network past subscription := by
  obtain ⟨⟨network, past⟩, reachable, checked⟩ := System.reachable_of_check
    ((topicNetwork keySetting).restrict fun network label => network.roomy label = true).traced heardMessage
    tookOne (by decide +kernel)
  obtain ⟨subscription, looked, taken⟩ := (Option.any_eq_true _ _).mp checked
  have law : cdrWord32.RoundTrips := Wire.Codec.word_roundTrips _ _
  have truth := taken_messages_published keySetting law keysIntersect_matching network past reachable
  exact ⟨network, past, subscription, looked, of_decide_eq_true taken, truth.1 _ (List.mem_of_getElem? looked)⟩

end Ros2Client.Zenoh
