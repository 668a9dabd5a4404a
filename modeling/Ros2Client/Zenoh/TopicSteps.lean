import Ros2Client.Zenoh.Topics

open Text Transition Wire

namespace Ros2Client.Zenoh

variable {Message : Type} {setting : GraphSetting Message}

def Session.putting (session : Session) : SessionLabel Message → List Outgoing
  | .put index true => session.outgoing[index]?.toList
  | _ => []

/-- The call of the entity has drawn the number of the message, and has encoded it. -/
def Session.Encodes (setting : GraphSetting Message) (session : Session) (entity : SessionEntity)
    (call : SendCall Message) (now : Int64) (message : Outgoing) : Prop :=
  session.entities[message.entity]? = some entity ∧ entity.kind = call.kind ∧
    call.encode setting.ext setting.codec entity.sender now =
      (.ok (message.payload, message.attachment), ⟨message.number, entity.sender.sourceGid⟩)

section Sessions

variable {before after : Session} {label : SessionLabel Message}

theorem Session.createNext_messages {xxh3 : List UInt8 → BitVec 128} {index : Nat} {progress : Creating}
    {declared : Bool}
    (stepped : before.createNext xxh3 index progress declared = some after) :
    after.outgoing = before.outgoing ∧ after.sent = before.sent := by
  unfold createNext at stepped
  split at stepped
  · split at stepped
    · cases stepped
      exact ⟨rfl, rfl⟩
    · obtain ⟨owner, _, rfl⟩ := Option.map_eq_some_iff.mp stepped
      exact ⟨rfl, rfl⟩
  · cases stepped
    exact ⟨rfl, rfl⟩

theorem Session.step_messages
    (stepped : before.step setting.xxh3 setting.sha256 setting.ext setting.codec label = some after) :
    after.sent = before.sent ++ before.putting label ∧ ∀ message ∈ after.outgoing ++ after.sent,
      message ∈ before.outgoing ++ before.sent ∨ ∃ entity call now, label = .send message.entity call now ∧
        before.Encodes setting entity call now message := by
  cases label with
  | newNode name =>
    cases stepped
    exact ⟨(List.append_nil _).symm, fun message member => .inl member⟩
  | create node call =>
    obtain ⟨owner, _, rfl⟩ := Option.map_eq_some_iff.mp stepped
    exact ⟨(List.append_nil _).symm, fun message member => .inl member⟩
  | createNext index declared =>
    obtain ⟨progress, _, stepped⟩ := Option.bind_eq_some_iff.mp stepped
    obtain ⟨outgoing, sent⟩ := createNext_messages stepped
    rw [outgoing, sent]
    exact ⟨(List.append_nil _).symm, fun message member => .inl member⟩
  | send index call now =>
    obtain ⟨entity, looked, stepped⟩ := Option.bind_eq_some_iff.mp stepped
    split at stepped
    · rename_i own
      cases stepped
      rcases SendCall.encode_cases setting.ext setting.codec entity.sender now call with
        ⟨_, failed⟩ | ⟨payload, encoded⟩
      · simp only [Session.send, failed]
        exact ⟨(List.append_nil _).symm, fun message member => .inl member⟩
      · simp only [Session.send, encoded]
        refine ⟨(List.append_nil _).symm, ?_⟩
        intro message member
        simp only [List.mem_append, List.mem_singleton] at member ⊢
        rcases member with (old | rfl) | old
        · exact .inl (.inl old)
        · exact .inr ⟨entity, call, now, rfl, looked, own, encoded⟩
        · exact .inl (.inr old)
    · cases stepped
  | put index accepted =>
    obtain ⟨message, looked, rfl⟩ := Option.map_eq_some_iff.mp stepped
    have pending := List.mem_of_getElem? looked
    cases accepted with
    | false =>
      refine ⟨(List.append_nil _).symm, ?_⟩
      intro other member
      exact .inl (((List.eraseIdx_sublist ..).append_right _).subset member)
    | true =>
      refine ⟨by simp [putting, looked], ?_⟩
      intro other member
      simp only [if_true, List.mem_append, List.mem_singleton] at member ⊢
      rcases member with old | old | rfl
      · exact .inl (.inl (List.mem_of_mem_eraseIdx old))
      · exact .inl (.inr old)
      · exact .inl (.inl pending)

end Sessions

def GraphNetworkLabel.moves (place : Nat) : GraphNetworkLabel Message → Option (SessionLabel Message)
  | .act index label => if index = place then some label else none
  | .create index node call => if index = place then some (.create node call.1) else none
  | _ => none

/-- What a step of the network does to one of its contexts, as far as messages go. -/
structure GraphContext.Moves (setting : GraphSetting Message) (label : Option (SessionLabel Message))
    (before after : GraphContext) : Prop where
  stepped : ∀ moved, label = some moved →
    before.session.step setting.xxh3 setting.sha256 setting.ext setting.codec moved = some after.session
  still : label = none → after.session = before.session
  parts : ∃ more, after.parts = before.parts ++ more

section Contexts

variable {contexts after : List GraphContext} {context changed : GraphContext} {label : GraphNetworkLabel Message}
  {place index : Nat}

theorem GraphContext.Moves.of_still (session : changed.session = context.session)
    (parts : changed.parts = context.parts) :
    context.Moves setting none changed where
  stepped moved none := by cases none
  still _ := session
  parts := ⟨[], by rw [parts, List.append_nil]⟩

theorem GraphNetwork.set_moves {moved : Option (SessionLabel Message)} (looked : contexts[index]? = some context)
    (moves : context.Moves setting moved changed) {other : GraphContext} (found : contexts[place]? = some other) :
    ∃ later, (contexts.set index changed)[place]? = some later ∧
      other.Moves setting (if index = place then moved else none) later := by
  by_cases same : index = place
  · subst same
    rw [looked] at found
    cases found
    have inside := (List.getElem?_eq_some_iff.mp looked).1
    rw [if_pos rfl]
    exact ⟨changed, List.getElem?_set_self inside, moves⟩
  · rw [if_neg same]
    exact ⟨other, (List.getElem?_set_ne same).trans found, .of_still rfl rfl⟩

theorem GraphNetwork.set_still (looked : contexts[index]? = some context) (moves : context.Moves setting none changed)
    {other : GraphContext} (found : contexts[place]? = some other) :
    ∃ later, (contexts.set index changed)[place]? = some later ∧ other.Moves setting none later := by
  have moved := set_moves looked moves found
  rwa [ite_self] at moved

theorem GraphNetwork.announced_moves {kind : SampleKind} {token : Str} (looked : contexts[index]? = some context)
    (moves : context.Moves setting none changed) {other : GraphContext} (found : contexts[place]? = some other) :
    ∃ later, ((contexts.set index changed).map (GraphContext.send kind token))[place]? = some later ∧
      other.Moves setting none later := by
  obtain ⟨later, found', moves'⟩ := set_still looked moves found
  obtain ⟨inFlight, same⟩ := later.send_eq kind token
  refine ⟨later.send kind token, by rw [List.getElem?_map, found']; rfl, ?_⟩
  rw [same]
  exact ⟨moves'.stepped, moves'.still, moves'.parts⟩

theorem GraphNetwork.act_moves {moved : SessionLabel Message} (stepped : act setting contexts index moved = some after)
    {other : GraphContext} (found : contexts[place]? = some other) :
    ∃ later, after[place]? = some later ∧ other.Moves setting (if index = place then some moved else none) later := by
  obtain ⟨context, looked, stepped⟩ := Option.bind_eq_some_iff.mp stepped
  obtain ⟨grown, moved', rfl⟩ := Option.map_eq_some_iff.mp stepped
  apply set_moves looked _ found
  refine ⟨?_, ?_, _, rfl⟩
  · intro label same
    cases same
    exact moved'
  · intro none
    cases none

theorem GraphNetwork.step_moves (stepped : GraphNetwork.step setting contexts label = some after)
    (looked : contexts[place]? = some context) :
    ∃ later, after[place]? = some later ∧ context.Moves setting (label.moves place) later := by
  cases label with
  | openContext domainId zid =>
    simp only [GraphNetwork.step] at stepped
    split at stepped
    · cases stepped
    · cases stepped
      exact ⟨context, (List.getElem?_append_left (List.getElem?_eq_some_iff.mp looked).1).trans looked,
        .of_still rfl rfl⟩
  | act index moved =>
    have stepped : (if moved.creates then none else GraphNetwork.act setting contexts index moved) = some after :=
      stepped
    split at stepped
    · cases stepped
    · exact act_moves stepped looked
  | create index node call => exact act_moves stepped looked
  | declare index number accepted =>
    obtain ⟨declaring, found, stepped⟩ := Option.bind_eq_some_iff.mp stepped
    obtain ⟨owner, _, stepped⟩ := Option.bind_eq_some_iff.mp stepped
    obtain ⟨token, _, rfl⟩ := Option.map_eq_some_iff.mp stepped
    let pending := { declaring with undeclared := declaring.undeclared.eraseIdx number }
    have still : declaring.Moves setting none pending := .of_still rfl rfl
    have declared : declaring.Moves setting none { pending with alive := declaring.alive ++ [owner] } :=
      .of_still rfl rfl
    cases accepted with
    | true => exact announced_moves found declared looked
    | false => exact set_still found still looked
  | undeclare index number =>
    obtain ⟨declaring, found, stepped⟩ := Option.bind_eq_some_iff.mp stepped
    obtain ⟨owner, _, stepped⟩ := Option.bind_eq_some_iff.mp stepped
    obtain ⟨token, _, rfl⟩ := Option.map_eq_some_iff.mp stepped
    have still : declaring.Moves setting none { declaring with alive := declaring.alive.eraseIdx number } :=
      .of_still rfl rfl
    exact announced_moves found still looked
  | deliver index number =>
    obtain ⟨receiving, found, stepped⟩ := Option.bind_eq_some_iff.mp stepped
    obtain ⟨sample, _, stepped⟩ := Option.bind_eq_some_iff.mp stepped
    split at stepped
    · cases stepped
    · cases stepped
      have still : receiving.Moves setting none { receiving with
          cache := receiving.cache.onSample sample
          inFlight := receiving.inFlight.eraseIdx number } := .of_still rfl rfl
      exact set_still found still looked
  | watch index op =>
    simp only [GraphNetwork.step] at stepped
    split at stepped
    · obtain ⟨watching, found, rfl⟩ := Option.map_eq_some_iff.mp stepped
      have still : watching.Moves setting none { watching with cache := watching.cache.apply op } := .of_still rfl rfl
      exact set_still found still looked
    · cases stepped

/-- A context that a step adds has no entities yet. -/
theorem GraphNetwork.step_opened (stepped : GraphNetwork.step setting contexts label = some after)
    (absent : contexts[place]? = none) (looked : after[place]? = some changed) : changed.session.entities = [] := by
  have outside : contexts.length ≤ place := List.getElem?_eq_none_iff.mp absent
  have short : after.length = contexts.length → False := by
    intro same
    have inside := (List.getElem?_eq_some_iff.mp looked).1
    omega
  have act : ∀ (index : Nat) (moved : SessionLabel Message),
      GraphNetwork.act setting contexts index moved = some after → False := by
    intro index moved stepped
    obtain ⟨context, _, stepped⟩ := Option.bind_eq_some_iff.mp stepped
    obtain ⟨grown, _, rfl⟩ := Option.map_eq_some_iff.mp stepped
    exact short List.length_set
  cases label with
  | openContext domainId zid =>
    simp only [GraphNetwork.step] at stepped
    split at stepped
    · cases stepped
    · cases stepped
      rcases lookup_concat looked with old | ⟨_, rfl⟩
      · rw [absent] at old
        cases old
      · rfl
  | act index moved =>
    have stepped : (if moved.creates then none else GraphNetwork.act setting contexts index moved) = some after :=
      stepped
    split at stepped
    · cases stepped
    · exact (act index moved stepped).elim
  | create index node call => exact (act index _ stepped).elim
  | declare index number accepted =>
    obtain ⟨declaring, _, stepped⟩ := Option.bind_eq_some_iff.mp stepped
    obtain ⟨owner, _, stepped⟩ := Option.bind_eq_some_iff.mp stepped
    obtain ⟨token, _, rfl⟩ := Option.map_eq_some_iff.mp stepped
    exfalso
    apply short
    cases accepted <;> simp
  | undeclare index number =>
    obtain ⟨declaring, _, stepped⟩ := Option.bind_eq_some_iff.mp stepped
    obtain ⟨owner, _, stepped⟩ := Option.bind_eq_some_iff.mp stepped
    obtain ⟨token, _, rfl⟩ := Option.map_eq_some_iff.mp stepped
    exact (short (by simp)).elim
  | deliver index number =>
    obtain ⟨receiving, _, stepped⟩ := Option.bind_eq_some_iff.mp stepped
    obtain ⟨sample, _, stepped⟩ := Option.bind_eq_some_iff.mp stepped
    split at stepped
    · cases stepped
    · cases stepped
      exact (short List.length_set).elim
  | watch index op =>
    simp only [GraphNetwork.step] at stepped
    split at stepped
    · obtain ⟨watching, _, rfl⟩ := Option.map_eq_some_iff.mp stepped
      exact (short List.length_set).elim
    · cases stepped

end Contexts

end Ros2Client.Zenoh
