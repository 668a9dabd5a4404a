import Mathlib.Data.List.Lemmas
import Ros2Client.Node.ExternalNodes
import Ros2Client.Transition.Components

open Std (TreeMap)
open Transition

namespace Ros2Client

/-- The identities that DDS gives to participants and to their writers of discovery samples: no two participants
    have the same one. -/
structure ParticipantIds (Participant : Type) extends Directory Participant Gid where
  nodeWriter : Participant → Gid

structure Listener (Participant : Type) where
  spinner : ExternalNodes
  passed : Participant → Nat

structure DiscoveryNetwork (Participant Observer : Type) where
  participants : Participant → DiscoveryState
  closed : Participant → Bool
  observers : Observer → Listener Participant

/-- A step of a participant, the end of its context, or a sample that a spinner takes: one of a participant by its
    place among all that this one has published, or one of an implementation that is not this program. -/
inductive DiscoveryNetworkLabel (Participant Observer : Type)
  | call (participant : Participant) (label : DiscoveryLabel)
  | close (participant : Participant) (written : Bool)
  | take (observer : Observer) (participant : Participant) (place : Nat)
  | stranger (observer : Observer) (sample : DiscoverySample)

def ContextInner.drop (context : ContextInner) (written : Bool) : ContextInner :=
  { context with localNodes := ∅ }.broadcastNodeInfos written

variable {Participant Observer : Type}

section Steps

variable [DecidableEq Participant] [DecidableEq Observer]

namespace DiscoveryNetwork

def setParticipant (network : DiscoveryNetwork Participant Observer) (participant : Participant)
    (state : DiscoveryState) : DiscoveryNetwork Participant Observer :=
  { network with participants := Function.update network.participants participant state }

def setObserver (network : DiscoveryNetwork Participant Observer) (observer : Observer)
    (listener : Listener Participant) : DiscoveryNetwork Participant Observer :=
  { network with observers := Function.update network.observers observer listener }

/-- Samples of one participant come in the order in which they were published. Some may be lost: the topic keeps the
    last one only. -/
def step (ids : ParticipantIds Participant) (network : DiscoveryNetwork Participant Observer) :
    DiscoveryNetworkLabel Participant Observer → Option (DiscoveryNetwork Participant Observer)
  | .call participant label =>
    if network.closed participant then none
    else ((network.participants participant).step label).map (network.setParticipant participant)
  | .close participant written =>
    -- Each node holds the context, which is dropped when the last handle on it is gone.
    if network.closed participant ∨ (network.participants participant).nodes.any (·.isSome) then none
    else some { network with
      participants := Function.update network.participants participant
        ⟨(network.participants participant).context.drop written, (network.participants participant).nodes⟩
      closed := Function.update network.closed participant true }
  | .take observer participant place =>
    if place < (network.observers observer).passed participant then none
    else (network.participants participant).context.published[place]?.map fun info =>
      network.setObserver observer
        { spinner := (network.observers observer).spinner.update info.serialize
          passed := Function.update (network.observers observer).passed participant (place + 1) }
  | .stranger observer sample =>
    if (ids.owner sample.gid).isSome then none
    else some (network.setObserver observer
      { (network.observers observer) with spinner := (network.observers observer).spinner.update sample })

end DiscoveryNetwork

def discoveryNetwork (ids : ParticipantIds Participant) :
    System (DiscoveryNetwork Participant Observer) (DiscoveryNetworkLabel Participant Observer) where
  initial := {
    participants := fun participant => (discovery (ids.name participant) (ids.nodeWriter participant)).initial
    closed := fun _ => false
    observers := fun _ => ⟨.new, fun _ => 0⟩ }
  step := DiscoveryNetwork.step ids

end Steps

section Publishing

variable {state after : DiscoveryState} {label : DiscoveryLabel} {past : DiscoveryPast}

theorem DiscoveryState.Busy.step (busy : state.Busy) (stepped : state.step label = some after) : after.Busy := by
  cases DiscoveryState.step_cases busy stepped with
  | begins new =>
    intro index node found unready
    rcases lookup_concat found with old | ⟨_, new⟩
    · exact busy index node old unready
    · cases new
      rfl
  | stays => exact busy
  | quiet _ _ suppressed =>
    intro index node found unready
    rcases lookup_set found with ⟨_, new⟩ | ⟨_, old⟩
    · cases new
      exact suppressed
    · exact busy index node old unready
  | updates _ _ _ ready =>
    intro index node found unready
    rcases lookup_set found with ⟨_, new⟩ | ⟨_, old⟩
    · cases new
      exact absurd ready unready
    · exact busy index node old unready
  | drops =>
    intro index node found unready
    rcases lookup_set found with ⟨_, new⟩ | ⟨_, old⟩
    · cases new
    · exact busy index node old unready

structure ContextInner.Signs (context : ContextInner) (gid : Gid) : Prop where
  own : context.domainParticipant = gid
  signed : ∀ info ∈ context.published, info.gid = gid

variable {context : ContextInner} {gid : Gid}

theorem ContextInner.Signs.broadcast (signs : context.Signs gid) (localNodes : TreeMap Str NodeEntitiesInfo)
    (written : Bool) :
    ({ context with localNodes := localNodes }.broadcastNodeInfos written).Signs gid ∧
      context.published <+: ({ context with localNodes := localNodes }.broadcastNodeInfos written).published := by
  unfold ContextInner.broadcastNodeInfos
  split
  · refine ⟨⟨signs.own, ?_⟩, List.prefix_append ..⟩
    intro info member
    rcases List.mem_append.mp member with old | new
    · exact signs.signed info old
    · rw [List.mem_singleton.mp new]
      exact signs.own
  · exact ⟨⟨signs.own, signs.signed⟩, List.prefix_rfl⟩

/-- A step of a participant publishes nothing, or one sample behind what it has published. -/
theorem publishes_step (busy : state.Busy) (signs : state.context.Signs gid) (stepped : state.step label = some after) :
    after.context.Signs gid ∧ state.context.published <+: after.context.published := by
  cases DiscoveryState.step_cases busy stepped with
  | begins | stays | quiet => exact ⟨signs, List.prefix_rfl⟩
  | updates => exact signs.broadcast _ _
  | drops => exact signs.broadcast _ _

end Publishing

structure Listener.Follows (listener : Listener Participant) (participant : Participant) (gid : Gid)
    (published : List ParticipantEntitiesInfo) : Prop where
  within : listener.passed participant ≤ published.length
  /-- The map holds the nodes of the last sample, and nothing while there was none. -/
  recorded : listener.spinner.externalNodes gid =
    (published.take (listener.passed participant)).getLast?.map (·.nodeEntitiesInfoSeq)
  /-- The status listeners were told of samples in their order, of none twice and of none that was not sent. -/
  heard : (listener.spinner.heardOf gid).Sublist (published.take (listener.passed participant))

section Following

variable {listener : Listener Participant} {participant : Participant} {gid : Gid}
  {published longer : List ParticipantEntitiesInfo} {info : ParticipantEntitiesInfo} {place : Nat}

theorem Listener.Follows.grows (follows : listener.Follows participant gid published) (grown : published <+: longer) :
    listener.Follows participant gid longer := by
  obtain ⟨more, rfl⟩ := grown
  have same : (published ++ more).take (listener.passed participant) = published.take (listener.passed participant) :=
    List.take_append_of_le_length follows.within
  refine ⟨?_, ?_, ?_⟩
  · rw [List.length_append]
    have within := follows.within
    omega
  · rw [same]
    exact follows.recorded
  · rw [same]
    exact follows.heard

theorem Listener.Follows.takes [DecidableEq Participant] (follows : listener.Follows participant gid published)
    (later : ¬ place < listener.passed participant) (found : published[place]? = some info) (signed : info.gid = gid) :
    Listener.Follows ⟨listener.spinner.update info.serialize, Function.update listener.passed participant (place + 1)⟩
      participant gid published := by
  subst signed
  obtain ⟨recorded, heard⟩ := listener.spinner.update_own info
  have inside : place < published.length := (List.getElem?_eq_some_iff.mp found).1
  have taken : published.take (place + 1) = published.take place ++ [info] := by
    rw [List.take_add_one, found]
    rfl
  have earlier : (published.take (listener.passed participant)).Sublist (published.take place) :=
    List.take_sublist_take_left (by omega)
  refine ⟨?_, ?_, ?_⟩
  · simp only [Function.update_self]
    omega
  · simp [recorded, taken]
  · simp only [heard, Function.update_self, taken]
    exact (follows.heard.trans earlier).append (.refl _)

/-- Whatever comes of others, or of the participant to others, leaves what is known of it. -/
theorem Listener.Follows.other {sample : DiscoverySample} {passed : Participant → Nat}
    (follows : listener.Follows participant gid published) (foreign : sample.gid ≠ gid)
    (kept : passed participant = listener.passed participant) :
    Listener.Follows ⟨listener.spinner.update sample, passed⟩ participant gid published := by
  obtain ⟨recorded, heard⟩ := listener.spinner.update_other foreign
  refine ⟨?_, ?_, ?_⟩
  · simp only [kept]
    exact follows.within
  · simp only [recorded, kept]
    exact follows.recorded
  · simp only [heard, kept]
    exact follows.heard

end Following

structure DiscoveryNetwork.Sound (ids : ParticipantIds Participant) (network : DiscoveryNetwork Participant Observer) :
    Prop where
  busy : ∀ participant, (network.participants participant).Busy
  signs : ∀ participant, (network.participants participant).context.Signs (ids.name participant)
  follows : ∀ observer participant, (network.observers observer).Follows participant (ids.name participant)
    (network.participants participant).context.published

section Network

variable {ids : ParticipantIds Participant} {network after : DiscoveryNetwork Participant Observer}
  {label : DiscoveryNetworkLabel Participant Observer}

/-- One participant moves on, and publishes behind what it has published. -/
theorem DiscoveryNetwork.Sound.moves [DecidableEq Participant] (sound : network.Sound ids) {participant : Participant}
    {state : DiscoveryState}
    {closed : Participant → Bool} (busy : state.Busy) (signs : state.context.Signs (ids.name participant))
    (grown : (network.participants participant).context.published <+: state.context.published) :
    DiscoveryNetwork.Sound ids
      ⟨Function.update network.participants participant state, closed, network.observers⟩ := by
  have each : ∀ (holds : Participant → DiscoveryState → Prop), holds participant state →
      (∀ other, holds other (network.participants other)) →
      ∀ other, holds other (Function.update network.participants participant state other) := by
    intro holds new old other
    by_cases same : other = participant
    · subst same
      rwa [Function.update_self]
    · rw [Function.update_of_ne same]
      exact old other
  refine ⟨each (fun _ state => state.Busy) busy sound.busy,
    each (fun other state => state.context.Signs (ids.name other))
    signs sound.signs, ?_⟩
  intro observer
  exact each (fun other state => (network.observers observer).Follows other (ids.name other) state.context.published)
    ((sound.follows observer participant).grows grown) (sound.follows observer)

theorem DiscoveryNetwork.Sound.observes [DecidableEq Observer] (sound : network.Sound ids) {observer : Observer}
    {listener : Listener Participant} (follows : ∀ participant, listener.Follows participant (ids.name participant)
      (network.participants participant).context.published) :
    (network.setObserver observer listener).Sound ids := by
  refine ⟨sound.busy, sound.signs, ?_⟩
  intro other participant
  simp only [DiscoveryNetwork.setObserver]
  by_cases same : other = observer
  · subst same
    rw [Function.update_self]
    exact follows participant
  · rw [Function.update_of_ne same]
    exact sound.follows other participant

variable [DecidableEq Participant] [DecidableEq Observer]

theorem DiscoveryNetwork.Sound.step (sound : network.Sound ids)
    (stepped : DiscoveryNetwork.step ids network label = some after) : after.Sound ids := by
  cases label with
  | call participant label =>
    simp only [DiscoveryNetwork.step, Option.ite_none_left_eq_some, Option.map_eq_some_iff] at stepped
    obtain ⟨_, state, moved, rfl⟩ := stepped
    obtain ⟨signs, grown⟩ := publishes_step (sound.busy participant) (sound.signs participant) moved
    exact sound.moves ((sound.busy participant).step moved) signs grown
  | close participant written =>
    simp only [DiscoveryNetwork.step, Option.ite_none_left_eq_some, Option.some.injEq] at stepped
    obtain ⟨_, rfl⟩ := stepped
    obtain ⟨signs, grown⟩ := (sound.signs participant).broadcast ∅ written
    exact sound.moves (sound.busy participant) signs grown
  | take observer participant place =>
    simp only [DiscoveryNetwork.step, Option.ite_none_left_eq_some, Option.map_eq_some_iff] at stepped
    obtain ⟨later, info, found, rfl⟩ := stepped
    have signed := (sound.signs participant).signed info (List.mem_of_getElem? found)
    refine sound.observes ?_
    intro other
    by_cases same : other = participant
    · subst same
      exact (sound.follows observer other).takes later found signed
    · refine (sound.follows observer other).other ?_ (Function.update_of_ne same ..)
      intro own
      exact same (ids.name_inj (own.symm.trans signed))
  | stranger observer sample =>
    simp only [DiscoveryNetwork.step, Option.ite_none_left_eq_some, Option.some.injEq] at stepped
    obtain ⟨unowned, rfl⟩ := stepped
    refine sound.observes ?_
    intro other
    refine (sound.follows observer other).other ?_ rfl
    intro own
    rw [(ids.owner_eq sample.gid other).mpr own.symm] at unowned
    exact unowned rfl

theorem sound_reachable (reachable : (discoveryNetwork ids).Reachable network) : network.Sound ids := by
  refine reachable.invariant (·.Sound ids) ?_ ?_
  · refine ⟨?_, ?_, ?_⟩
    · intro participant index node found
      cases found
    · intro participant
      refine ⟨rfl, ?_⟩
      intro info member
      cases member
    · intro observer participant
      exact ⟨Nat.le_refl _, rfl, List.nil_sublist _⟩
  · intro before label after sound stepped
    exact sound.step stepped

end Network

end Ros2Client
