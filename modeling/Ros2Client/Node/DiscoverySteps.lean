import Mathlib.Data.List.Basic
import Ros2Client.Node.Discovery

open Std (TreeMap)

namespace Ros2Client

abbrev DiscoveryPast := List (DiscoveryState × DiscoveryLabel)

def createdThrough (index : Nat) (endpoint : Endpoint) (past : DiscoveryPast) : List Gid :=
  past.filterMap fun
    | (_, .create index' endpoint' gid _) => if index' = index ∧ endpoint' = endpoint then some gid else none
    | _ => none

def ContextInner.entries (context : ContextInner) : List NodeEntitiesInfo :=
  (context.published.getLast?.map (·.nodeEntitiesInfoSeq)).getD []

def ContextInner.entriesOf (context : ContextInner) (nodeFqn : Str) : List NodeEntitiesInfo :=
  context.entries.filter (·.fullyQualifiedName = nodeFqn)

def NodePhase.constructed : NodePhase → Bool
  | .building _ => false
  | _ => true

def DiscoveryState.edits (state : DiscoveryState) : DiscoveryLabel → Option (Nat × Bool)
  | .create index _ _ written =>
    state.nodes[index]?.join.bind fun node => if node.suppressNodeInfoUpdates then none else some (index, written)
  | .fail index written =>
    state.nodes[index]?.join.bind fun node => if node.phase.constructed then none else some (index, written)
  | .validate index _ written | .finishSpinner index written | .drop index written => some (index, written)
  | .newNode .. | .spinner _ => none

inductive DiscoveryStep (state : DiscoveryState) (label : DiscoveryLabel) : DiscoveryState → Prop
  | begins {nodeName : NodeName} {options : BuiltinOptions} {gid : Gid} (new : label = .newNode nodeName options gid) :
      DiscoveryStep state label { state with nodes := state.nodes ++ [some (.begin nodeName options gid)] }
  | stays (quiet : ∀ index endpoint gid written, label ≠ .create index endpoint gid written) :
      DiscoveryStep state label state
  | quiet {index : Nat} {node node' : LocalNode} (own : label.node = some index)
      (found : state.nodes[index]? = some (some node)) (suppressed : node'.suppressNodeInfoUpdates = true)
      (named : node'.nodeName = node.nodeName)
      (reads : ∀ gid, gid ∈ createdThrough index .reader [(state, label)] ∨ gid ∈ node.readers → gid ∈ node'.readers)
      (writes : ∀ gid, gid ∈ createdThrough index .writer [(state, label)] ∨ gid ∈ node.writers → gid ∈ node'.writers) :
      DiscoveryStep state label (state.setNode index node')
  | updates {index : Nat} {node node' : LocalNode} {written : Bool} (own : label.node = some index)
      (found : state.nodes[index]? = some (some node)) (edits : state.edits label = some (index, written))
      (ready : node'.phase = .ready) (named : node'.nodeName = node.nodeName)
      (reads : ∀ gid, gid ∈ createdThrough index .reader [(state, label)] ∨ gid ∈ node.readers → gid ∈ node'.readers)
      (writes : ∀ gid, gid ∈ createdThrough index .writer [(state, label)] ∨ gid ∈ node.writers → gid ∈ node'.writers) :
      DiscoveryStep state label (state.update index node' written)
  | drops {index : Nat} {node : LocalNode} {written : Bool} (own : label.node = some index)
      (found : state.nodes[index]? = some (some node)) (edits : state.edits label = some (index, written)) :
      DiscoveryStep state label (state.dropNode index node written)

def DiscoveryState.Busy (state : DiscoveryState) : Prop :=
  ∀ (index : Nat) (node : LocalNode), state.nodes[index]? = some (some node) → node.phase ≠ .ready →
    node.suppressNodeInfoUpdates = true

section Inversion

variable {state after : DiscoveryState} {label : DiscoveryLabel} {index : Nat} {node changed : LocalNode}
  {endpoint : Endpoint} {gid : Gid} {written : Bool}

theorem add_reads (other : Gid)
    (reads : other ∈ createdThrough index .reader [(state, .create index endpoint gid written)] ∨
      other ∈ node.readers) : other ∈ (node.add gid endpoint).readers := by
  cases endpoint <;> simp_all [createdThrough, LocalNode.add]

theorem add_writes (other : Gid)
    (writes : other ∈ createdThrough index .writer [(state, .create index endpoint gid written)] ∨
      other ∈ node.writers) : other ∈ (node.add gid endpoint).writers := by
  cases endpoint <;> simp_all [createdThrough, LocalNode.add]

theorem add_fields (node : LocalNode) (gid : Gid) (endpoint : Endpoint) :
    (node.add gid endpoint).phase = node.phase ∧
      (node.add gid endpoint).nodeName = node.nodeName ∧
      (node.add gid endpoint).suppressNodeInfoUpdates = node.suppressNodeInfoUpdates := by
  cases endpoint <;> exact ⟨rfl, rfl, rfl⟩

theorem addEndpoint_step (found : state.nodes[index]? = some (some node))
    (busy : changed.phase ≠ .ready → node.suppressNodeInfoUpdates = true)
    (suppressed : changed.suppressNodeInfoUpdates = node.suppressNodeInfoUpdates)
    (named : changed.nodeName = node.nodeName) (readers : changed.readers = node.readers)
    (writers : changed.writers = node.writers) :
    DiscoveryStep state (.create index endpoint gid written)
      (state.addEndpoint index changed endpoint gid written) := by
  obtain ⟨phase, name, suppress⟩ := add_fields changed gid endpoint
  unfold DiscoveryState.addEndpoint
  by_cases held : node.suppressNodeInfoUpdates = true
  · rw [if_pos (suppressed.trans held)]
    refine .quiet rfl found (suppress.trans (suppressed.trans held)) (name.trans named) ?_ ?_
    · rw [← readers]
      exact add_reads
    · rw [← writers]
      exact add_writes
  · rw [if_neg (suppressed ▸ held)]
    have ready : changed.phase = .ready := by
      by_contra other
      exact held (busy other)
    refine .updates rfl found ?_ (phase.trans ready) (name.trans named) ?_ ?_
    · simp [DiscoveryState.edits, found, held]
    · rw [← readers]
      exact add_reads
    · rw [← writers]
      exact add_writes

theorem create_cases (held : node.phase ≠ .ready → node.suppressNodeInfoUpdates = true)
    (found : state.nodes[index]? = some (some node))
    (stepped : state.stepNode index node (.create index endpoint gid written) = some after) :
    DiscoveryStep state (.create index endpoint gid written) after := by
  simp only [DiscoveryState.stepNode] at stepped
  split at stepped
  · cases stepped
    exact addEndpoint_step found held rfl rfl rfl rfl
  · rename_i building
    split at stepped
    · cases stepped
      exact addEndpoint_step found (fun _ => held (by simp [building])) rfl rfl rfl rfl
    · cases stepped
  · rename_i spinning
    split at stepped
    · cases stepped
      exact addEndpoint_step found (fun _ => held (by simp [spinning])) rfl rfl rfl rfl
    · cases stepped
  · cases stepped

theorem stepNode_cases (busy : state.Busy) (own : label.node = some index)
    (found : state.nodes[index]? = some (some node)) (stepped : state.stepNode index node label = some after) :
    DiscoveryStep state label after := by
  have held := busy index node found
  cases label with
  | newNode => cases own
  | create i endpoint gid written =>
    cases own
    exact create_cases held found stepped
  | fail i written =>
    cases own
    simp only [DiscoveryState.stepNode] at stepped
    split at stepped
    · cases stepped
      exact .stays (by simp)
    · cases stepped
    · rename_i building
      cases stepped
      exact .drops rfl found (by simp [DiscoveryState.edits, found, building, NodePhase.constructed])
    · rename_i spinning
      cases stepped
      exact .quiet rfl found (held (by simp [spinning])) rfl (by simp [createdThrough]) (by simp [createdThrough])
  | validate i valid written =>
    cases own
    simp only [DiscoveryState.stepNode] at stepped
    split at stepped
    · split at stepped
      · cases stepped
        exact .updates rfl found rfl rfl rfl (by simp [createdThrough]) (by simp [createdThrough])
      · cases stepped
        exact .drops rfl found rfl
    · cases stepped
  | spinner i =>
    cases own
    simp only [DiscoveryState.stepNode, Option.ite_none_right_eq_some] at stepped
    obtain ⟨_, same⟩ := stepped
    cases same
    exact .quiet rfl found rfl rfl (by simp [createdThrough]) (by simp [createdThrough])
  | finishSpinner i written =>
    cases own
    simp only [DiscoveryState.stepNode] at stepped
    split at stepped
    · cases stepped
      exact .updates rfl found rfl rfl rfl (by simp [createdThrough]) (by simp [createdThrough])
    · cases stepped
  | drop i written =>
    cases own
    simp only [DiscoveryState.stepNode, Option.ite_none_right_eq_some] at stepped
    obtain ⟨_, same⟩ := stepped
    cases same
    exact .drops rfl found rfl

theorem DiscoveryState.step_cases (busy : state.Busy) (stepped : state.step label = some after) :
    DiscoveryStep state label after := by
  unfold DiscoveryState.step at stepped
  split at stepped
  · cases stepped
    exact .begins rfl
  · obtain ⟨index, own, stepped⟩ := Option.bind_eq_some_iff.mp stepped
    obtain ⟨node, found, stepped⟩ := Option.bind_eq_some_iff.mp stepped
    exact stepNode_cases busy own (Option.join_eq_some_iff.mp found) stepped

end Inversion

theorem filter_key {table : List (Str × NodeEntitiesInfo)} {key : Str} {info : NodeEntitiesInfo}
    (distinct : table.Pairwise fun first second => first.1 ≠ second.1) (member : (key, info) ∈ table) :
    table.filter (·.1 = key) = [(key, info)] := by
  induction table with
  | nil => cases member
  | cons first rest ih =>
    obtain ⟨apart, distinct⟩ := List.pairwise_cons.mp distinct
    rcases List.mem_cons.mp member with rfl | later
    · rw [List.filter_cons_of_pos (by simp), List.filter_eq_nil_iff.mpr]
      intro other present same
      exact apart other present (of_decide_eq_true same).symm
    · rw [List.filter_cons_of_neg (by simpa using apart _ later)]
      exact ih distinct later

/-- The last sample tells what is in the table, and each node stands there under its own name. -/
structure ContextInner.Sound (context : ContextInner) : Prop where
  sent : context.entries = context.localNodes.toList.map (·.2)
  keyed : ∀ (key : Str) (info : NodeEntitiesInfo), context.localNodes[key]? = some info →
    info.fullyQualifiedName = key

section Context

variable {context : ContextInner} {info : NodeEntitiesInfo} {nodeFqn key : Str}

theorem ContextInner.Sound.entriesOf (sound : context.Sound) (nodeFqn : Str) :
    context.entriesOf nodeFqn = context.localNodes[nodeFqn]?.toList := by
  have keyed : ∀ entry ∈ context.localNodes.toList, entry.2.fullyQualifiedName = entry.1 := by
    intro ⟨key, info⟩ member
    exact sound.keyed key info (TreeMap.mem_toList_iff_getElem?_eq_some.mp member)
  have distinct : context.localNodes.toList.Pairwise fun first second => first.1 ≠ second.1 := by
    refine context.localNodes.distinct_keys_toList.imp ?_
    intro first second apart same
    exact apart (Std.compare_eq_iff_eq.mpr same)
  have filtered : context.localNodes.toList.filter (fun entry => decide (entry.2.fullyQualifiedName = nodeFqn)) =
      context.localNodes.toList.filter (fun entry => decide (entry.1 = nodeFqn)) := by
    apply List.filter_congr
    intro entry member
    rw [keyed entry member]
  rw [ContextInner.entriesOf, sound.sent, List.filter_map, Function.comp_def, filtered]
  cases found : context.localNodes[nodeFqn]? with
  | none =>
    rw [List.filter_eq_nil_iff.mpr]
    · rfl
    · intro ⟨key, info⟩ member same
      have present := TreeMap.mem_toList_iff_getElem?_eq_some.mp member
      rw [show key = nodeFqn from of_decide_eq_true same, found] at present
      cases present
  | some info =>
    rw [filter_key distinct (TreeMap.mem_toList_iff_getElem?_eq_some.mpr found)]
    rfl

theorem ContextInner.broadcast_entries (context : ContextInner) :
    (context.broadcastNodeInfos true).entries = context.localNodes.toList.map (·.2) := by
  simp [ContextInner.entries, ContextInner.broadcastNodeInfos, ContextInner.participantEntitiesInfo]

theorem ContextInner.updateNode_lookup (context : ContextInner) (info : NodeEntitiesInfo) (key : Str) :
    (context.updateNode info true).localNodes[key]? =
      if info.fullyQualifiedName = key then some (info.addWriter context.nodeWriter) else context.localNodes[key]? := by
  have named : (info.addWriter context.nodeWriter).fullyQualifiedName = info.fullyQualifiedName := by
    rw [NodeEntitiesInfo.fullyQualifiedName, NodeEntitiesInfo.addWriter_name, NodeEntitiesInfo.fullyQualifiedName]
  by_cases same : info.fullyQualifiedName = key <;>
    simp [ContextInner.updateNode, ContextInner.broadcastNodeInfos, TreeMap.getElem?_insert, named, same]

theorem ContextInner.removeNode_lookup (context : ContextInner) (nodeFqn key : Str) :
    (context.removeNode nodeFqn true).localNodes[key]? =
      if nodeFqn = key then none else context.localNodes[key]? := by
  simp [ContextInner.removeNode, ContextInner.broadcastNodeInfos, TreeMap.getElem?_erase]

theorem ContextInner.Sound.update (sound : context.Sound) : (context.updateNode info true).Sound := by
  refine ⟨ContextInner.broadcast_entries _, ?_⟩
  intro key entry found
  rw [ContextInner.updateNode_lookup] at found
  split at found
  · rename_i same
    cases found
    rw [← same, NodeEntitiesInfo.fullyQualifiedName, NodeEntitiesInfo.addWriter_name,
      NodeEntitiesInfo.fullyQualifiedName]
  · exact sound.keyed key entry found

theorem ContextInner.Sound.remove (sound : context.Sound) : (context.removeNode nodeFqn true).Sound := by
  refine ⟨ContextInner.broadcast_entries _, ?_⟩
  intro key entry found
  rw [ContextInner.removeNode_lookup] at found
  split at found
  · cases found
  · exact sound.keyed key entry found

end Context

section History

variable {state : DiscoveryState} {label : DiscoveryLabel} {past : DiscoveryPast} {index : Nat} {endpoint : Endpoint}
  {gid : Gid}

theorem createdThrough_cons :
    gid ∈ createdThrough index endpoint ((state, label) :: past) ↔
      gid ∈ createdThrough index endpoint [(state, label)] ∨ gid ∈ createdThrough index endpoint past := by
  rw [← List.mem_append, createdThrough, createdThrough, createdThrough, ← List.filterMap_append]
  rfl

theorem createdThrough_quiet (quiet : ∀ index endpoint gid written, label ≠ .create index endpoint gid written)
    (created : gid ∈ createdThrough index endpoint ((state, label) :: past)) :
    gid ∈ createdThrough index endpoint past := by
  refine (createdThrough_cons.mp created).resolve_left ?_
  intro new
  obtain ⟨entry, member, creates⟩ := List.mem_filterMap.mp new
  cases List.mem_singleton.mp member
  cases label with
  | create index endpoint gid written => exact quiet index endpoint gid written rfl
  | _ => cases creates

theorem createdThrough_node (created : gid ∈ createdThrough index endpoint [(state, label)]) :
    label.node = some index := by
  obtain ⟨entry, member, creates⟩ := List.mem_filterMap.mp created
  cases List.mem_singleton.mp member
  cases label with
  | create i endpoint' gid' written =>
    simp only [Option.ite_none_right_eq_some] at creates
    rw [DiscoveryLabel.node, creates.1.1]
  | _ => cases creates

end History

end Ros2Client
