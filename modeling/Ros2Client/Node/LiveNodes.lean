import Ros2Client.Node.DiscoverySteps
import Ros2Client.Transition.Threads
import Ros2Client.Transition.Traces

open Transition

namespace Ros2Client

structure ListsLiveNodes (system : System (DiscoveryState × DiscoveryPast) DiscoveryLabel) : Prop where
  /-- Each node that is alive, constructed and not suppressing updates has one entry, with its name and
      all that was created through it. -/
  listed : ∀ (state : DiscoveryState) (past : DiscoveryPast) (index : Nat) (node : LocalNode),
    system.Reachable (state, past) → state.nodes[index]? = some (some node) → node.phase.constructed = true →
    node.suppressNodeInfoUpdates = false →
    ∃ entry, state.context.entriesOf node.fullyQualifiedName = [entry] ∧ entry.name = node.nodeName ∧
      createdThrough index .reader past ⊆ entry.readerGidSeq ∧
      node.parameterEventsWriter :: createdThrough index .writer past ⊆ entry.writerGidSeq
  /-- A step of one node, also one that drops it or fails to construct it, leaves what is listed of
      another one. -/
  others : ∀ (state after : DiscoveryState) (past past' : DiscoveryPast) (label : DiscoveryLabel) (index : Nat)
    (node : LocalNode), system.Reachable (state, past) → system.step (state, past) label = some (after, past') →
    state.nodes[index]? = some (some node) → node.phase.constructed = true → label.node ≠ some index →
    after.context.entriesOf node.fullyQualifiedName = state.context.entriesOf node.fullyQualifiedName

def LocalNode.sharesName (node : LocalNode) : Option LocalNode → Bool
  | some other => other.phase.constructed && other.fullyQualifiedName = node.fullyQualifiedName
  | none => false

def DiscoveryState.alone (state : DiscoveryState) (index : Nat) : Bool :=
  match state.nodes[index]? with
  | some (some node) => (state.nodes.set index none).all fun other => !node.sharesName other
  | _ => true

/-- Whether a step that writes or removes the entry of a node meets no other node of the name, and its
    sample is written. Every other step is left alone. -/
def editsAlone (state : DiscoveryState) (label : DiscoveryLabel) : Bool :=
  match state.edits label with
  | some (index, written) => written && state.alone index
  | none => true

structure DiscoveryState.Listing (state : DiscoveryState) (past : DiscoveryPast) : Prop where
  busy : state.Busy
  context : state.context.Sound
  listed : ∀ (index : Nat) (node : LocalNode), state.nodes[index]? = some (some node) →
    node.suppressNodeInfoUpdates = false → state.context.localNodes[node.fullyQualifiedName]? =
      some (node.generateNodeInfo.addWriter state.context.nodeWriter)
  recorded : ∀ (index : Nat) (node : LocalNode), state.nodes[index]? = some (some node) →
    createdThrough index .reader past ⊆ node.readers ∧ createdThrough index .writer past ⊆ node.writers
  known : ∀ (index : Nat) (endpoint : Endpoint) (gid : Gid), gid ∈ createdThrough index endpoint past →
    index < state.nodes.length

section Steps

variable {state after : DiscoveryState} {past : DiscoveryPast} {label : DiscoveryLabel} {index : Nat}
  {node node' : LocalNode}

theorem alone_apart {other : LocalNode} {place : Nat} (alone : state.alone index = true)
    (found : state.nodes[index]? = some (some node)) (apart : place ≠ index)
    (found' : state.nodes[place]? = some (some other)) (constructed : other.phase.constructed = true) :
    node.fullyQualifiedName ≠ other.fullyQualifiedName := by
  simp only [DiscoveryState.alone, found] at alone
  have member : some other ∈ state.nodes.set index none :=
    List.mem_of_getElem? ((List.getElem?_set_ne apart.symm).trans found')
  have differs := List.all_eq_true.mp alone (some other) member
  intro same
  simp [LocalNode.sharesName, constructed, same] at differs

theorem editsAlone_edits {written : Bool} (guarded : editsAlone state label = true)
    (edits : state.edits label = some (index, written)) : written = true ∧ state.alone index = true := by
  simpa only [editsAlone, edits, Bool.and_eq_true] using guarded

theorem DiscoveryState.Busy.constructed (busy : state.Busy) (found : state.nodes[index]? = some (some node))
    (sends : node.suppressNodeInfoUpdates = false) : node.phase.constructed = true := by
  have ready : node.phase = .ready := by
    by_contra other
    rw [busy index node found other] at sends
    cases sends
  rw [ready]
  rfl

/-- Of all nodes, one has changed. -/
theorem DiscoveryState.Listing.records {changed : Option LocalNode} (listing : state.Listing past)
    (own : label.node = some index) (found : state.nodes[index]? = some (some node))
    (reads : ∀ node', changed = some node' → ∀ gid, gid ∈ createdThrough index .reader [(state, label)] ∨
      gid ∈ node.readers → gid ∈ node'.readers)
    (writes : ∀ node', changed = some node' → ∀ gid, gid ∈ createdThrough index .writer [(state, label)] ∨
      gid ∈ node.writers → gid ∈ node'.writers) {place : Nat} {other : LocalNode}
    (found' : (state.nodes.set index changed)[place]? = some (some other)) :
    createdThrough place .reader ((state, label) :: past) ⊆ other.readers ∧
      createdThrough place .writer ((state, label) :: past) ⊆ other.writers := by
  rcases lookup_set found' with ⟨rfl, same⟩ | ⟨apart, old⟩
  · obtain ⟨readers, writers⟩ := listing.recorded place node found
    constructor
    · intro gid created
      exact reads other same.symm gid ((createdThrough_cons.mp created).imp_right (readers ·))
    · intro gid created
      exact writes other same.symm gid ((createdThrough_cons.mp created).imp_right (writers ·))
  · obtain ⟨readers, writers⟩ := listing.recorded place other old
    have foreign : ∀ endpoint gid, gid ∉ createdThrough place endpoint [(state, label)] := by
      intro endpoint gid created
      have named := createdThrough_node created
      rw [own] at named
      exact apart (Option.some.inj named).symm
    constructor
    · intro gid created
      exact readers ((createdThrough_cons.mp created).resolve_left (foreign .reader gid))
    · intro gid created
      exact writers ((createdThrough_cons.mp created).resolve_left (foreign .writer gid))

theorem DiscoveryState.Listing.knows {nodes : List (Option LocalNode)} (listing : state.Listing past)
    (longer : state.nodes.length ≤ nodes.length) (live : ∀ index, label.node = some index → index < state.nodes.length)
    {place : Nat} {endpoint : Endpoint} {gid : Gid}
    (created : gid ∈ createdThrough place endpoint ((state, label) :: past)) : place < nodes.length := by
  rcases createdThrough_cons.mp created with new | old
  · have bound := live place (createdThrough_node new)
    omega
  · have bound := listing.known place endpoint gid old
    omega

theorem DiscoveryState.Listing.stays (listing : state.Listing past)
    (quiet : ∀ index endpoint gid written, label ≠ .create index endpoint gid written) :
    state.Listing ((state, label) :: past) := by
  refine ⟨listing.busy, listing.context, listing.listed, ?_, ?_⟩
  · intro index node found
    obtain ⟨readers, writers⟩ := listing.recorded index node found
    exact ⟨fun gid created => readers (createdThrough_quiet quiet created),
      fun gid created => writers (createdThrough_quiet quiet created)⟩
  · intro index endpoint gid created
    exact listing.known index endpoint gid (createdThrough_quiet quiet created)

theorem DiscoveryState.Listing.begins {nodeName : NodeName} {options : BuiltinOptions} {gid : Gid}
    (listing : state.Listing past) :
    DiscoveryState.Listing { state with nodes := state.nodes ++ [some (.begin nodeName options gid)] }
      ((state, .newNode nodeName options gid) :: past) := by
  refine ⟨?_, listing.context, ?_, ?_, ?_⟩
  · intro index node found unready
    rcases lookup_concat found with old | ⟨_, new⟩
    · exact listing.busy index node old unready
    · cases new
      rfl
  · intro index node found sends
    rcases lookup_concat found with old | ⟨_, new⟩
    · exact listing.listed index node old sends
    · cases new
      cases sends
  · intro index node found
    rcases lookup_concat found with old | ⟨last, _⟩
    · obtain ⟨readers, writers⟩ := listing.recorded index node old
      exact ⟨fun gid created => readers (createdThrough_quiet (by simp) created),
        fun gid created => writers (createdThrough_quiet (by simp) created)⟩
    · have none : ∀ endpoint other, other ∉ createdThrough index endpoint
          ((state, .newNode nodeName options gid) :: past) := by
        intro endpoint other created
        have bound := listing.known index endpoint other (createdThrough_quiet (by simp) created)
        omega
      exact ⟨fun other created => absurd created (none .reader other),
        fun other created => absurd created (none .writer other)⟩
  · intro index endpoint other created
    have bound := listing.known index endpoint other (createdThrough_quiet (by simp) created)
    simp only [List.length_append]
    omega

theorem live_node (own : label.node = some index) (found : state.nodes[index]? = some (some node)) (place : Nat)
    (named : label.node = some place) : place < state.nodes.length := by
  rw [own] at named
  cases named
  exact (List.getElem?_eq_some_iff.mp found).1

/-- One node is changed or gone, with the context beside it. -/
theorem DiscoveryState.Listing.edits {changed : Option LocalNode} {context : ContextInner}
    (listing : state.Listing past)
    (own : label.node = some index) (found : state.nodes[index]? = some (some node)) (sound : context.Sound)
    (busy : ∀ node', changed = some node' → node'.phase ≠ .ready → node'.suppressNodeInfoUpdates = true)
    (listed : ∀ node', changed = some node' → node'.suppressNodeInfoUpdates = false →
      context.localNodes[node'.fullyQualifiedName]? = some (node'.generateNodeInfo.addWriter context.nodeWriter))
    (others : ∀ place other, place ≠ index → state.nodes[place]? = some (some other) →
      other.suppressNodeInfoUpdates = false → context.localNodes[other.fullyQualifiedName]? =
        some (other.generateNodeInfo.addWriter context.nodeWriter))
    (reads : ∀ node', changed = some node' → ∀ gid, gid ∈ createdThrough index .reader [(state, label)] ∨
      gid ∈ node.readers → gid ∈ node'.readers)
    (writes : ∀ node', changed = some node' → ∀ gid, gid ∈ createdThrough index .writer [(state, label)] ∨
      gid ∈ node.writers → gid ∈ node'.writers) :
    DiscoveryState.Listing ⟨context, state.nodes.set index changed⟩ ((state, label) :: past) := by
  refine ⟨?_, sound, ?_, ?_, ?_⟩
  · intro place other found' unready
    rcases lookup_set found' with ⟨_, new⟩ | ⟨_, old⟩
    · exact busy other new.symm unready
    · exact listing.busy place other old unready
  · intro place other found' sends
    rcases lookup_set found' with ⟨_, new⟩ | ⟨apart, old⟩
    · exact listed other new.symm sends
    · exact others place other apart old sends
  · intro place other found'
    exact listing.records own found reads writes found'
  · intro place endpoint gid created
    exact listing.knows (List.length_set ..).ge (live_node own found) created

theorem DiscoveryState.Listing.quiet (listing : state.Listing past) (own : label.node = some index)
    (found : state.nodes[index]? = some (some node)) (suppressed : node'.suppressNodeInfoUpdates = true)
    (reads : ∀ gid, gid ∈ createdThrough index .reader [(state, label)] ∨ gid ∈ node.readers → gid ∈ node'.readers)
    (writes : ∀ gid, gid ∈ createdThrough index .writer [(state, label)] ∨ gid ∈ node.writers → gid ∈ node'.writers) :
    (state.setNode index node').Listing ((state, label) :: past) := by
  refine listing.edits own found listing.context ?_ ?_ ?_ ?_ ?_
  · rintro _ ⟨⟩ _
    exact suppressed
  · rintro _ ⟨⟩ sends
    rw [suppressed] at sends
    cases sends
  · intro place other _ old sends
    exact listing.listed place other old sends
  · rintro _ ⟨⟩
    exact reads
  · rintro _ ⟨⟩
    exact writes

theorem DiscoveryState.Listing.updates (listing : state.Listing past) (own : label.node = some index)
    (found : state.nodes[index]? = some (some node)) (alone : state.alone index = true)
    (ready : node'.phase = .ready) (named : node'.nodeName = node.nodeName)
    (reads : ∀ gid, gid ∈ createdThrough index .reader [(state, label)] ∨ gid ∈ node.readers → gid ∈ node'.readers)
    (writes : ∀ gid, gid ∈ createdThrough index .writer [(state, label)] ∨ gid ∈ node.writers → gid ∈ node'.writers) :
    (state.update index node' true).Listing ((state, label) :: past) := by
  have fqn : node'.generateNodeInfo.fullyQualifiedName = node.fullyQualifiedName := by
    rw [NodeEntitiesInfo.fullyQualifiedName, generateNodeInfo_name, named, LocalNode.fullyQualifiedName]
  refine listing.edits own found listing.context.update ?_ ?_ ?_ ?_ ?_
  · rintro _ ⟨⟩ unready
    exact absurd ready unready
  · rintro _ ⟨⟩ sends
    rw [ContextInner.updateNode_lookup, fqn, LocalNode.fullyQualifiedName, LocalNode.fullyQualifiedName, named,
      if_pos rfl]
    rfl
  · intro place other apart old sends
    rw [ContextInner.updateNode_lookup, fqn,
      if_neg (alone_apart alone found apart old (listing.busy.constructed old sends))]
    exact listing.listed place other old sends
  · rintro _ ⟨⟩
    exact reads
  · rintro _ ⟨⟩
    exact writes

theorem DiscoveryState.Listing.drops (listing : state.Listing past) (own : label.node = some index)
    (found : state.nodes[index]? = some (some node)) (alone : state.alone index = true) :
    (state.dropNode index node true).Listing ((state, label) :: past) := by
  refine listing.edits own found listing.context.remove ?_ ?_ ?_ ?_ ?_
  · rintro _ ⟨⟩
  · rintro _ ⟨⟩
  · intro place other apart old sends
    rw [ContextInner.removeNode_lookup,
      if_neg (alone_apart alone found apart old (listing.busy.constructed old sends))]
    exact listing.listed place other old sends
  · rintro _ ⟨⟩
  · rintro _ ⟨⟩

theorem DiscoveryState.Listing.step (listing : state.Listing past) (guarded : editsAlone state label = true)
    (stepped : state.step label = some after) : after.Listing ((state, label) :: past) := by
  cases DiscoveryState.step_cases listing.busy stepped with
  | begins new =>
    subst new
    exact listing.begins
  | stays quiet => exact listing.stays quiet
  | quiet own found suppressed _ reads writes => exact listing.quiet own found suppressed reads writes
  | updates own found edits ready named reads writes =>
    obtain ⟨rfl, alone⟩ := editsAlone_edits guarded edits
    exact listing.updates own found alone ready named reads writes
  | drops own found edits =>
    obtain ⟨rfl, alone⟩ := editsAlone_edits guarded edits
    exact listing.drops own found alone

/-- A step of one node leaves the entry of another one that is alive and constructed. -/
theorem DiscoveryState.Listing.others {place : Nat} {other : LocalNode} (listing : state.Listing past)
    (guarded : editsAlone state label = true) (stepped : state.step label = some after)
    (found' : state.nodes[place]? = some (some other)) (constructed : other.phase.constructed = true)
    (foreign : label.node ≠ some place) :
    after.context.localNodes[other.fullyQualifiedName]? = state.context.localNodes[other.fullyQualifiedName]? := by
  cases DiscoveryState.step_cases listing.busy stepped with
  | begins | stays | quiet => rfl
  | @updates index node node' written own found edits ready named reads writes =>
    obtain ⟨rfl, alone⟩ := editsAlone_edits guarded edits
    have apart : place ≠ index := fun same => foreign (same ▸ own)
    show (state.context.updateNode node'.generateNodeInfo true).localNodes[other.fullyQualifiedName]? = _
    rw [ContextInner.updateNode_lookup, NodeEntitiesInfo.fullyQualifiedName, generateNodeInfo_name, named]
    exact if_neg (alone_apart alone found apart found' constructed)
  | @drops index node written own found edits =>
    obtain ⟨rfl, alone⟩ := editsAlone_edits guarded edits
    have apart : place ≠ index := fun same => foreign (same ▸ own)
    show (state.context.removeNode node.fullyQualifiedName true).localNodes[other.fullyQualifiedName]? = _
    rw [ContextInner.removeNode_lookup]
    exact if_neg (alone_apart alone found apart found' constructed)

end Steps

def quietDiscovery (domainParticipant nodeWriter : Gid) : System (DiscoveryState × DiscoveryPast) DiscoveryLabel :=
  (discovery domainParticipant nodeWriter).traced.restrict fun traced label => editsAlone traced.1 label = true

theorem listing_reachable {domainParticipant nodeWriter : Gid} {state : DiscoveryState} {past : DiscoveryPast}
    (reachable : (quietDiscovery domainParticipant nodeWriter).Reachable (state, past)) : state.Listing past := by
  refine reachable.guarded_invariant DiscoveryState.Listing ?_ ?_
  · refine ⟨?_, ⟨?_, ?_⟩, ?_, ?_, ?_⟩
    · intro index node found
      cases found
    · rfl
    · intro key info found
      simp [discovery] at found
    · intro index node found
      cases found
    · intro index node found
      cases found
    · intro index endpoint gid created
      cases created
  · intro before label after past guarded held moved
    exact held.step guarded moved

theorem live_nodes_are_listed (domainParticipant nodeWriter : Gid) :
    ListsLiveNodes (quietDiscovery domainParticipant nodeWriter) where
  listed := by
    intro state past index node reachable found constructed sends
    have listing := listing_reachable reachable
    obtain ⟨readers, writers⟩ := listing.recorded index node found
    refine ⟨node.generateNodeInfo.addWriter state.context.nodeWriter, ?_, ?_, ?_, ?_⟩
    · rw [listing.context.entriesOf, listing.listed index node found sends]
      rfl
    · rw [NodeEntitiesInfo.addWriter_name, generateNodeInfo_name]
    · intro gid created
      rw [NodeEntitiesInfo.addWriter_readers, generateNodeInfo_readers]
      exact readers created
    · intro gid created
      rw [NodeEntitiesInfo.mem_addWriter, generateNodeInfo_writers]
      rcases List.mem_cons.mp created with rfl | created
      · exact .inr (.inr (.inr rfl))
      · exact .inr (.inl (writers created))
  others := by
    intro state after past past' label index node reachable stepped found constructed foreign
    have listing := listing_reachable reachable
    have listing' := listing_reachable (reachable.step stepped)
    obtain ⟨guarded, moved⟩ := System.restrict_step.mp stepped
    rw [listing.context.entriesOf, listing'.context.entriesOf]
    exact congrArg Option.toList
      (listing.others guarded (System.traced_step.mp moved).1 found constructed foreign)

/-- A node is made, and a second one of the same name is not, because of a parameter. -/
def failedTwin : List DiscoveryLabel :=
  let nodeName : NodeName := ⟨"/".toList, "talker".toList, NodeName.check_talker⟩
  let gid := octetGid
  [.newNode nodeName ⟨false, false, true⟩ (gid 3), .validate 0 true true,
   .newNode nodeName ⟨false, false, true⟩ (gid 4), .validate 1 false true]

theorem failed_node_removes_entry :
    ¬ ListsLiveNodes (discovery ⟨List.replicate 16 1, rfl⟩ ⟨List.replicate 16 2, rfl⟩).traced := by
  intro lists
  obtain ⟨⟨state, past⟩, reachable, checked⟩ := System.reachable_of_check
    (discovery ⟨List.replicate 16 1, rfl⟩ ⟨List.replicate 16 2, rfl⟩).traced failedTwin
    (fun traced => traced.1.context.entries.isEmpty && (traced.1.nodes[0]?.join.map fun node =>
      node.phase.constructed && !node.suppressNodeInfoUpdates).getD false) (by decide)
  obtain ⟨empty, live⟩ := Bool.and_eq_true_iff.mp checked
  cases found : state.nodes[0]?.join with
  | none => simp [found] at live
  | some node =>
    simp only [found, Option.map_some, Option.getD_some, Bool.and_eq_true, Bool.not_eq_true'] at live
    obtain ⟨entry, listed, _⟩ :=
      lists.listed state past 0 node reachable (Option.join_eq_some_iff.mp found) live.1 live.2
    rw [ContextInner.entriesOf, List.isEmpty_iff.mp empty] at listed
    cases listed

end Ros2Client
