import Ros2Client.Node.DiscoveryNetwork

open Std (TreeMap)
open Transition

namespace Ros2Client

def DiscoveryState.Owned (state : DiscoveryState) : Prop :=
  ∀ (key : Str) (info : NodeEntitiesInfo), state.context.localNodes[key]? = some info →
    ∃ (index : Nat) (node : LocalNode), state.nodes[index]? = some (some node) ∧ node.phase.constructed = true ∧
      info.name = node.nodeName

section Owners

variable {state after : DiscoveryState} {label : DiscoveryLabel} {past : DiscoveryPast} {index place : Nat}
  {node node' other : LocalNode} {changed : Option LocalNode}

theorem changed_set
    (kept : ∀ node', changed = some node' → node.phase.constructed = true → node'.phase.constructed = true)
    (found : (state.nodes.set index changed)[place]? = some (some other)) :
    state.nodes[place]? = some (some other) ∨
      place = index ∧ (node.phase.constructed = true → other.phase.constructed = true) := by
  rcases lookup_set found with ⟨same, new⟩ | ⟨_, old⟩
  · exact .inr ⟨same, kept other new.symm⟩
  · exact .inl old

theorem changed_to (constructed : node'.phase.constructed = true)
    (found : (state.nodes.set index (some node'))[place]? = some (some other)) :
    state.nodes[place]? = some (some other) ∨
      place = index ∧ (node.phase.constructed = true → other.phase.constructed = true) := by
  refine changed_set ?_ found
  intro node'' same _
  cases same
  exact constructed

theorem changed_add {endpoint : Endpoint} {gid : Gid} {written : Bool}
    (kept : node.phase.constructed = true → node'.phase.constructed = true)
    (found : (state.addEndpoint index node' endpoint gid written).nodes[place]? = some (some other)) :
    state.nodes[place]? = some (some other) ∨
      place = index ∧ (node.phase.constructed = true → other.phase.constructed = true) := by
  have added : ∀ node'', some (node'.add gid endpoint) = some node'' → node.phase.constructed = true →
      node''.phase.constructed = true := by
    intro node'' same constructed
    cases same
    rw [(add_fields node' gid endpoint).1]
    exact kept constructed
  unfold DiscoveryState.addEndpoint at found
  split at found <;> exact changed_set added found

/-- A call on one node leaves the others, and does not undo the construction of its own. -/
theorem stepNode_constructed (stepped : state.stepNode index node label = some after)
    (found : after.nodes[place]? = some (some other)) :
    state.nodes[place]? = some (some other) ∨
      place = index ∧ (node.phase.constructed = true → other.phase.constructed = true) := by
  unfold DiscoveryState.stepNode at stepped
  split at stepped
  · split at stepped
    · cases stepped
      exact changed_add id found
    · rename_i building
      split at stepped
      · cases stepped
        refine changed_add ?_ found
        intro constructed
        simp [building, NodePhase.constructed] at constructed
      · cases stepped
    · split at stepped
      · cases stepped
        exact changed_add (fun _ => rfl) found
      · cases stepped
    · cases stepped
  · split at stepped
    · cases stepped
      exact .inl found
    · cases stepped
    · cases stepped
      exact changed_set (by simp) found
    · cases stepped
      exact changed_to rfl found
  · split at stepped
    · split at stepped
      · cases stepped
        exact changed_to rfl found
      · cases stepped
        exact changed_set (by simp) found
    · cases stepped
  · split at stepped
    · cases stepped
      exact changed_to rfl found
    · cases stepped
  · split at stepped
    · cases stepped
      exact changed_to rfl found
    · cases stepped
  · split at stepped
    · cases stepped
      exact changed_set (by simp) found
    · cases stepped
  · cases stepped

/-- A node that has been constructed stays so as long as it lives. -/
theorem constructed_step (found : state.nodes[index]? = some (some node)) (constructed : node.phase.constructed = true)
    (stepped : state.step label = some after) (found' : after.nodes[index]? = some (some other)) :
    other.phase.constructed = true := by
  have same : state.nodes[index]? = some (some other) → other.phase.constructed = true := by
    intro looked
    rw [found] at looked
    cases looked
    exact constructed
  unfold DiscoveryState.step at stepped
  split at stepped
  · cases stepped
    rcases lookup_concat found' with old | ⟨last, _⟩
    · exact same old
    · have inside := (List.getElem?_eq_some_iff.mp found).1
      omega
  · obtain ⟨place, own, stepped⟩ := Option.bind_eq_some_iff.mp stepped
    obtain ⟨node', looked, stepped⟩ := Option.bind_eq_some_iff.mp stepped
    rcases stepNode_constructed stepped found' with old | ⟨rfl, kept⟩
    · exact same old
    · rw [Option.join_eq_some_iff, found] at looked
      cases looked
      exact kept constructed

theorem DiscoveryState.Owned.step (owned : state.Owned) (listing : state.Listing past)
    (guarded : editsAlone state label = true) (stepped : state.step label = some after) : after.Owned := by
  intro key info
  cases DiscoveryState.step_cases listing.busy stepped with
  | begins =>
    intro found
    obtain ⟨index, node, looked, rest⟩ := owned key info found
    refine ⟨index, node, ?_, rest⟩
    rw [List.getElem?_append_left (List.getElem?_eq_some_iff.mp looked).1]
    exact looked
  | stays => exact owned key info
  | @quiet index node node' own found suppressed named =>
    intro present
    obtain ⟨place, owner, looked, constructed, same⟩ := owned key info present
    by_cases here : place = index
    · subst here
      rw [found] at looked
      cases looked
      have inside : place < state.nodes.length := (List.getElem?_eq_some_iff.mp found).1
      have now : (state.setNode place node').nodes[place]? = some (some node') := by
        simp [DiscoveryState.setNode, inside]
      exact ⟨place, node', now, constructed_step found constructed stepped now, same.trans named.symm⟩
    · refine ⟨place, owner, ?_, constructed, same⟩
      simp only [DiscoveryState.setNode]
      rwa [List.getElem?_set_ne (Ne.symm here)]
  | @updates index node node' written own found edits ready named =>
    intro present
    have inside : index < state.nodes.length := (List.getElem?_eq_some_iff.mp found).1
    have now : (state.update index node' written).nodes[index]? = some (some node') := by
      simp [DiscoveryState.update, inside]
    have built : node'.phase.constructed = true := by
      rw [ready]
      rfl
    obtain ⟨rfl, _⟩ := editsAlone_edits guarded edits
    simp only [DiscoveryState.update, ContextInner.updateNode_lookup] at present
    split at present
    · cases present
      refine ⟨index, node', now, built, ?_⟩
      rw [NodeEntitiesInfo.addWriter_name, generateNodeInfo_name]
    · obtain ⟨place, owner, looked, constructed, same⟩ := owned key info present
      by_cases here : place = index
      · subst here
        rw [found] at looked
        cases looked
        exact ⟨place, node', now, built, same.trans named.symm⟩
      · refine ⟨place, owner, ?_, constructed, same⟩
        simp only [DiscoveryState.update]
        rwa [List.getElem?_set_ne (Ne.symm here)]
  | @drops index node written own found edits =>
    intro present
    obtain ⟨rfl, _⟩ := editsAlone_edits guarded edits
    simp only [DiscoveryState.dropNode, ContextInner.removeNode_lookup] at present
    split at present
    · cases present
    · rename_i apart
      obtain ⟨place, owner, looked, constructed, same⟩ := owned key info present
      have elsewhere : index ≠ place := by
        intro here
        subst here
        rw [found] at looked
        cases looked
        apply apart
        rw [← listing.context.keyed key info present, NodeEntitiesInfo.fullyQualifiedName, same,
          LocalNode.fullyQualifiedName]
      refine ⟨place, owner, ?_, constructed, same⟩
      simp only [DiscoveryState.dropNode]
      rwa [List.getElem?_set_ne elsewhere]

theorem owned_reachable {domainParticipant nodeWriter : Gid}
    (reachable : (quietDiscovery domainParticipant nodeWriter).Reachable (state, past)) : state.Owned := by
  have both : (state.Listing past) ∧ state.Owned := by
    refine reachable.guarded_invariant (fun state past => state.Listing past ∧ state.Owned) ?_ ?_
    · refine ⟨listing_reachable .initial, ?_⟩
      intro key info found
      simp [discovery] at found
    · intro before label after past guarded held moved
      exact ⟨held.1.step guarded moved, held.2.step held.1 guarded moved⟩
  exact both.2

end Owners

/-- The nodes that are alive are shown, each once and as it is, and no others. A node that is suppressing its updates
    may be shown as it was before. -/
structure DiscoveryState.ShownBy (state : DiscoveryState) (entries : List NodeEntitiesInfo) : Prop where
  live : ∀ entry ∈ entries, ∃ (index : Nat) (node : LocalNode), state.nodes[index]? = some (some node) ∧
    node.phase.constructed = true ∧ entry.name = node.nodeName
  listed : ∀ (index : Nat) (node : LocalNode), state.nodes[index]? = some (some node) →
    node.suppressNodeInfoUpdates = false → entries.filter (·.fullyQualifiedName = node.fullyQualifiedName) =
      [node.generateNodeInfo.addWriter state.context.nodeWriter]
  once : (entries.map (·.fullyQualifiedName)).Nodup

theorem ContextInner.Sound.distinct {context : ContextInner} (sound : context.Sound) :
    (context.entries.map (·.fullyQualifiedName)).Nodup := by
  have keys : context.localNodes.toList.map (fun entry => entry.2.fullyQualifiedName) =
      context.localNodes.toList.map (·.1) := by
    apply List.map_congr_left
    intro ⟨key, info⟩ member
    exact sound.keyed key info (TreeMap.mem_toList_iff_getElem?_eq_some.mp member)
  rw [sound.sent, List.map_map, Function.comp_def, keys, TreeMap.map_fst_toList_eq_keys]
  exact context.localNodes.nodup_keys

theorem shownBy_entries {domainParticipant nodeWriter : Gid} {state : DiscoveryState} {past : DiscoveryPast}
    (reachable : (quietDiscovery domainParticipant nodeWriter).Reachable (state, past)) :
    state.ShownBy state.context.entries := by
  have listing := listing_reachable reachable
  refine ⟨?_, ?_, listing.context.distinct⟩
  · intro entry member
    rw [listing.context.sent] at member
    obtain ⟨⟨key, info⟩, present, rfl⟩ := List.mem_map.mp member
    exact owned_reachable reachable key info (TreeMap.mem_toList_iff_getElem?_eq_some.mp present)
  · intro index node found sends
    have entries := listing.context.entriesOf node.fullyQualifiedName
    rw [listing.listed index node found sends] at entries
    exact entries

section Quiet

variable {Participant Observer : Type}

/-- Whether every sample that the step sends is written, and a node whose entry it changes is alone under its name. -/
def DiscoveryNetwork.quiet (network : DiscoveryNetwork Participant Observer) :
    DiscoveryNetworkLabel Participant Observer → Bool
  | .call participant label => editsAlone (network.participants participant) label
  | .close _ written => written
  | .take .. | .stranger .. => true

def DiscoveryNetwork.Quiet (ids : ParticipantIds Participant) (network : DiscoveryNetwork Participant Observer) :
    Prop :=
  ∀ participant, ∃ state past,
    (quietDiscovery (ids.name participant) (ids.nodeWriter participant)).Reachable (state, past) ∧
    if network.closed participant then
      state.nodes.any (·.isSome) = false ∧ network.participants participant = ⟨state.context.drop true, state.nodes⟩
    else network.participants participant = state

variable {ids : ParticipantIds Participant} {network after : DiscoveryNetwork Participant Observer}
  {label : DiscoveryNetworkLabel Participant Observer}

/-- The last sample of a context that has ended lists nothing. -/
theorem DiscoveryNetwork.Quiet.ended (held : network.Quiet ids) {participant : Participant}
    (closed : network.closed participant = true) :
    (network.participants participant).context.published.getLast?.map (·.nodeEntitiesInfoSeq) = some [] := by
  obtain ⟨state, past, _, same⟩ := held participant
  rw [if_pos closed] at same
  rw [same.2]
  simp only [ContextInner.drop, ContextInner.broadcastNodeInfos, if_true, List.getLast?_concat, Option.map_some]
  rfl

theorem DiscoveryNetwork.Quiet.shown (held : network.Quiet ids) (participant : Participant) :
    (network.participants participant).ShownBy (network.participants participant).context.entries := by
  obtain ⟨state, past, reached, same⟩ := held participant
  by_cases closed : network.closed participant = true
  · rw [if_pos closed] at same
    obtain ⟨empty, same⟩ := same
    have none : (network.participants participant).context.entries = [] := by
      rw [ContextInner.entries, held.ended closed, Option.getD_some]
    rw [none]
    refine ⟨?_, ?_, List.nodup_nil⟩
    · intro entry member
      cases member
    · intro index node found _
      rw [same] at found
      rw [List.any_eq_false] at empty
      exact absurd rfl (empty _ (List.mem_of_getElem? found))
  · rw [if_neg closed] at same
    rw [same]
    exact shownBy_entries reached

variable [DecidableEq Participant] [DecidableEq Observer]

def quietNetwork (ids : ParticipantIds Participant) :
    System (DiscoveryNetwork Participant Observer) (DiscoveryNetworkLabel Participant Observer) :=
  (discoveryNetwork ids).restrict fun network label => network.quiet label = true

theorem DiscoveryNetwork.Quiet.step (held : network.Quiet ids) (quiet : network.quiet label = true)
    (stepped : DiscoveryNetwork.step ids network label = some after) : after.Quiet ids := by
  intro other
  obtain ⟨state, past, reached, same⟩ := held other
  cases label with
  | call participant label =>
    simp only [DiscoveryNetwork.step, Option.ite_none_left_eq_some, Option.map_eq_some_iff] at stepped
    obtain ⟨opened, state', moved, rfl⟩ := stepped
    by_cases here : other = participant
    · subst here
      rw [if_neg opened] at same
      rw [same] at moved
      simp only [DiscoveryNetwork.quiet, same] at quiet
      refine ⟨state', (state, label) :: past, ?_, ?_⟩
      · exact reached.step (System.restrict_step.mpr ⟨quiet, System.traced_step.mpr ⟨moved, rfl⟩⟩)
      · simp [DiscoveryNetwork.setParticipant, opened]
    · refine ⟨state, past, reached, ?_⟩
      simpa only [DiscoveryNetwork.setParticipant, Function.update_of_ne here] using same
  | close participant written =>
    simp only [DiscoveryNetwork.step, Option.ite_none_left_eq_some, Option.some.injEq, not_or] at stepped
    obtain ⟨⟨opened, empty⟩, rfl⟩ := stepped
    by_cases here : other = participant
    · subst here
      rw [if_neg opened] at same
      cases quiet
      refine ⟨state, past, reached, ?_⟩
      rw [same] at empty
      simp only [Function.update_self, same, if_true, and_true]
      simpa using empty
    · refine ⟨state, past, reached, ?_⟩
      simpa only [Function.update_of_ne here] using same
  | take observer participant place =>
    simp only [DiscoveryNetwork.step, Option.ite_none_left_eq_some, Option.map_eq_some_iff] at stepped
    obtain ⟨_, _, _, rfl⟩ := stepped
    exact ⟨state, past, reached, same⟩
  | stranger observer sample =>
    simp only [DiscoveryNetwork.step, Option.ite_none_left_eq_some, Option.some.injEq] at stepped
    obtain ⟨_, rfl⟩ := stepped
    exact ⟨state, past, reached, same⟩

theorem quiet_reachable (reachable : (quietNetwork ids).Reachable network) : network.Quiet ids := by
  refine reachable.invariant (·.Quiet ids) ?_ ?_
  · intro participant
    exact ⟨_, [], .initial, rfl⟩
  · intro before label after held stepped
    obtain ⟨quiet, moved⟩ := System.restrict_step.mp stepped
    exact held.step quiet moved

end Quiet

def twoParticipants : ParticipantIds Bool where
  name participant := octetGid (if participant then 2 else 1)
  nodeWriter participant := octetGid (if participant then 4 else 3)
  owner gid := if octetGid 1 = gid then some false else if octetGid 2 = gid then some true else none
  owner_eq gid participant := by
    have apart : octetGid 1 ≠ octetGid 2 := by decide
    cases participant <;> grind

/-- One participant adds a reader to its node and the other one ends. A spinner misses a sample of the first, and
    meets one of a stranger whose node has no name. -/
def watchedNodes : List (DiscoveryNetworkLabel Bool Unit) :=
  let talker : NodeName := ⟨"/".toList, "talker".toList, NodeName.check_talker⟩
  [.call false (.newNode talker ⟨false, false, true⟩ (octetGid 5)), .call false (.validate 0 true true),
    .call true (.newNode talker ⟨false, false, true⟩ (octetGid 6)), .call true (.validate 0 true true), .take () true 0,
    .call false (.create 0 .reader (octetGid 7) true), .take () false 1, .stranger () ⟨octetGid 9, [⟨[], [], [], []⟩]⟩,
    .call true (.drop 0 true), .close true true, .take () true 2]

theorem watchedNodes_reachable :
    ∃ network : DiscoveryNetwork Bool Unit, (quietNetwork twoParticipants).Reachable network ∧
      ((network.observers ()).passed false = 2 ∧ (network.participants false).context.published.length = 2 ∧
        (((network.observers ()).spinner.externalNodes (octetGid 1)).getD []).length = 1) ∧
      (network.observers ()).passed true = 3 ∧ (network.participants true).context.published.length = 3 ∧
        network.closed true = true := by
  obtain ⟨network, reachable, checked⟩ := System.reachable_of_check (quietNetwork twoParticipants) watchedNodes
    (fun network =>
      ((network.observers ()).passed false = 2 ∧ (network.participants false).context.published.length = 2 ∧
        (((network.observers ()).spinner.externalNodes (octetGid 1)).getD []).length = 1) ∧
      (network.observers ()).passed true = 3 ∧ (network.participants true).context.published.length = 3 ∧
        network.closed true = true) (by decide)
  exact ⟨network, reachable, of_decide_eq_true checked⟩

section Watching

variable {Participant Observer : Type} [DecidableEq Participant] [DecidableEq Observer]

/-- What a spinner knows of a participant is the nodes of the last sample of it that it took: a sample that cannot be
    read, and all samples of others, leave it alone. -/
theorem external_nodes_follow (ids : ParticipantIds Participant) (network : DiscoveryNetwork Participant Observer)
    (reachable : (discoveryNetwork ids).Reachable network) (observer : Observer) (participant : Participant) :
    (network.observers observer).Follows participant (ids.name participant)
      (network.participants participant).context.published :=
  (sound_reachable reachable).follows observer participant

theorem watched_nodes_follow : ∃ network : DiscoveryNetwork Bool Unit, (network.observers ()).passed false = 2 ∧
    (network.observers ()).Follows false (octetGid 1) (network.participants false).context.published := by
  obtain ⟨network, reachable, ⟨passed, _⟩, _⟩ := watchedNodes_reachable
  exact ⟨network, passed, external_nodes_follow twoParticipants network reachable.of_restrict () false⟩

/-- A spinner that has taken the last sample of a participant shows its live nodes, or none after its end. -/
theorem external_nodes_show_live_nodes (ids : ParticipantIds Participant)
    (network : DiscoveryNetwork Participant Observer) (reachable : (quietNetwork ids).Reachable network)
    (observer : Observer) (participant : Participant)
    (latest : (network.observers observer).passed participant =
      (network.participants participant).context.published.length) :
    (network.participants participant).ShownBy
      (((network.observers observer).spinner.externalNodes (ids.name participant)).getD []) ∧
    (network.closed participant = true →
      (network.observers observer).spinner.externalNodes (ids.name participant) = some []) := by
  have quiet := quiet_reachable reachable
  have recorded := ((sound_reachable reachable.of_restrict).follows observer participant).recorded
  rw [latest, List.take_length] at recorded
  rw [recorded]
  refine ⟨quiet.shown participant, ?_⟩
  intro closed
  exact quiet.ended closed

theorem watched_nodes_shown : ∃ network : DiscoveryNetwork Bool Unit,
    (((network.observers ()).spinner.externalNodes (octetGid 1)).getD []).length = 1 ∧
    (network.participants false).ShownBy (((network.observers ()).spinner.externalNodes (octetGid 1)).getD []) ∧
    network.closed true = true ∧ (network.observers ()).spinner.externalNodes (octetGid 2) = some [] := by
  obtain ⟨network, reachable, ⟨passed, published, shown⟩, passed', published', closed⟩ := watchedNodes_reachable
  have here := external_nodes_show_live_nodes twoParticipants network reachable () false
    (passed.trans published.symm)
  have ended := external_nodes_show_live_nodes twoParticipants network reachable () true
    (passed'.trans published'.symm)
  exact ⟨network, shown, here.1, closed, ended.2 closed⟩

end Watching

end Ros2Client
