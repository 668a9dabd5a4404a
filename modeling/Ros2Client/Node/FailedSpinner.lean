import Ros2Client.Node.DiscoverySteps
import Ros2Client.Transition.Threads

open Transition

namespace Ros2Client

def LocalNode.haveSpinner (node : LocalNode) : Bool := node.stopSpinSender

def NodeEntitiesInfo.lists (info : NodeEntitiesInfo) (gid : Gid) : Endpoint → Prop
  | .reader => gid ∈ info.readerGidSeq
  | .writer => gid ∈ info.writerGidSeq

/-- The node has no spinner, and what is created through it next is announced. -/
structure DiscoveryState.Retryable (state : DiscoveryState) (index : Nat) (node : LocalNode) : Prop where
  alive : state.nodes[index]? = some (some node)
  spinnerless : node.haveSpinner = false
  sends : node.suppressNodeInfoUpdates = false
  announced : ∀ (endpoint : Endpoint) (gid : Gid) (after : DiscoveryState),
    state.step (.create index endpoint gid true) = some after →
      ∃ entry ∈ after.context.entriesOf node.fullyQualifiedName, entry.lists gid endpoint

/-- A call of `spinner` on a node that fails, after what `labels` tell: endpoints that it has created,
and whatever happens to other nodes meanwhile. -/
def failedSpinner (index : Nat) (labels : List DiscoveryLabel) (written : Bool) : List DiscoveryLabel :=
  .spinner index :: labels ++ [.fail index written]

def OnlyCreates (index : Nat) (labels : List DiscoveryLabel) : Prop :=
  ∀ label ∈ labels, label.node = some index → ∃ endpoint gid written, label = .create index endpoint gid written

def SpinnerRetries (system : System DiscoveryState DiscoveryLabel) : Prop :=
  ∀ (before after : DiscoveryState) (index : Nat) (labels : List DiscoveryLabel) (written : Bool),
    OnlyCreates index labels → system.run before (failedSpinner index labels written) = some after →
      ∃ node, after.Retryable index node

structure LocalNode.Flagged (node : LocalNode) : Prop where
  spinner : node.stopSpinSender = true
  suppressed : node.suppressNodeInfoUpdates = true

def DiscoveryState.Spinning (state : DiscoveryState) (index : Nat) : Prop :=
  ∃ node remaining, state.nodes[index]? = some (some node) ∧ node.phase = .spinner remaining ∧ node.Flagged

/-- As long as it lives, the node keeps the flags of a `spinner` that it does not have. -/
structure DiscoveryState.Stuck (state : DiscoveryState) (index : Nat) : Prop where
  known : index < state.nodes.length
  flagged : ∀ node, state.nodes[index]? = some (some node) → node.phase = .ready ∧ node.Flagged

section Steps

variable {state after : DiscoveryState} {label : DiscoveryLabel} {index place : Nat} {node : LocalNode}
  {endpoint : Endpoint} {gid : Gid} {written : Bool}

theorem LocalNode.Flagged.add (flagged : node.Flagged) (gid : Gid) (endpoint : Endpoint) :
    (node.add gid endpoint).Flagged := by
  obtain ⟨spinner, suppressed⟩ := flagged
  cases endpoint <;> exact ⟨spinner, suppressed⟩

theorem addEndpoint_nodes :
    (state.addEndpoint index node endpoint gid written).nodes =
      state.nodes.set index (some (node.add gid endpoint)) := by
  unfold DiscoveryState.addEndpoint
  split <;> rfl

/-- A step of a node touches only its own place. -/
theorem stepNode_nodes (found : state.nodes[index]? = some (some node))
    (stepped : state.stepNode index node label = some after) :
    ∃ entry, after.nodes = state.nodes.set index entry := by
  cases label with
  | newNode => cases stepped
  | create i endpoint gid written =>
    simp only [DiscoveryState.stepNode] at stepped
    split at stepped
    · cases stepped
      exact ⟨_, addEndpoint_nodes⟩
    · split at stepped <;> cases stepped
      exact ⟨_, addEndpoint_nodes⟩
    · split at stepped <;> cases stepped
      exact ⟨_, addEndpoint_nodes⟩
    · cases stepped
  | fail i written =>
    simp only [DiscoveryState.stepNode] at stepped
    split at stepped <;> cases stepped
    · obtain ⟨inside, same⟩ := List.getElem?_eq_some_iff.mp found
      exact ⟨some node, by rw [← same, List.set_getElem_self]⟩
    · exact ⟨_, rfl⟩
    · exact ⟨_, rfl⟩
  | validate i valid written =>
    simp only [DiscoveryState.stepNode] at stepped
    split at stepped
    · split at stepped <;> cases stepped <;> exact ⟨_, rfl⟩
    · cases stepped
  | spinner i =>
    simp only [DiscoveryState.stepNode, Option.ite_none_right_eq_some] at stepped
    cases stepped.2
    exact ⟨_, rfl⟩
  | finishSpinner i written =>
    simp only [DiscoveryState.stepNode] at stepped
    split at stepped <;> cases stepped
    exact ⟨_, rfl⟩
  | drop i written =>
    simp only [DiscoveryState.stepNode, Option.ite_none_right_eq_some] at stepped
    cases stepped.2
    exact ⟨_, rfl⟩

theorem step_own (own : label.node = some index) (stepped : state.step label = some after) :
    ∃ node, state.nodes[index]? = some (some node) ∧ state.stepNode index node label = some after := by
  unfold DiscoveryState.step at stepped
  split at stepped
  · cases own
  · rw [own, Option.bind_some] at stepped
    obtain ⟨node, found, stepped⟩ := Option.bind_eq_some_iff.mp stepped
    exact ⟨node, Option.join_eq_some_iff.mp found, stepped⟩

theorem step_elsewhere (known : index < state.nodes.length) (foreign : label.node ≠ some index)
    (stepped : state.step label = some after) :
    index < after.nodes.length ∧ after.nodes[index]? = state.nodes[index]? := by
  cases own : label.node with
  | none =>
    cases label with
    | newNode =>
      cases stepped
      exact ⟨by simp only [List.length_append]; omega, List.getElem?_append_left known⟩
    | _ => cases own
  | some place =>
    have apart : place ≠ index := by
      intro same
      rw [own, same] at foreign
      exact foreign rfl
    obtain ⟨node, found, stepped⟩ := step_own own stepped
    obtain ⟨entry, nodes⟩ := stepNode_nodes found stepped
    rw [nodes]
    exact ⟨by simpa using known, List.getElem?_set_ne apart⟩

theorem DiscoveryState.Spinning.start (stepped : state.step (.spinner index) = some after) : after.Spinning index := by
  obtain ⟨node, found, stepped⟩ := step_own rfl stepped
  simp only [DiscoveryState.stepNode, Option.ite_none_right_eq_some] at stepped
  cases stepped.2
  obtain ⟨inside, _⟩ := List.getElem?_eq_some_iff.mp found
  exact ⟨_, _, List.getElem?_set_self inside, rfl, rfl, rfl⟩

theorem DiscoveryState.Spinning.step (spinning : state.Spinning index)
    (creates : label.node = some index → ∃ endpoint gid written, label = .create index endpoint gid written)
    (stepped : state.step label = some after) : after.Spinning index := by
  obtain ⟨node, remaining, found, calling, flagged⟩ := spinning
  obtain ⟨inside, _⟩ := List.getElem?_eq_some_iff.mp found
  by_cases own : label.node = some index
  · obtain ⟨endpoint, gid, written, rfl⟩ := creates own
    obtain ⟨node', found', stepped⟩ := step_own own stepped
    cases found.symm.trans found'
    simp only [DiscoveryState.stepNode, calling] at stepped
    split at stepped
    · rename_i other
      cases other
    · rename_i other
      cases other
    · rename_i next rest same
      split at stepped <;> cases stepped
      cases same
      have moved : LocalNode.Flagged { node with phase := .spinner rest } := ⟨flagged.spinner, flagged.suppressed⟩
      refine ⟨LocalNode.add { node with phase := .spinner rest } gid endpoint, rest, ?_, ?_, moved.add gid endpoint⟩
      · rw [addEndpoint_nodes]
        exact List.getElem?_set_self inside
      · rw [(add_fields _ _ _).1]
    · cases stepped
  · exact ⟨node, remaining, (step_elsewhere inside own stepped).2.trans found, calling, flagged⟩

theorem DiscoveryState.Spinning.run {participant writer : Gid} {labels : List DiscoveryLabel}
    (spinning : state.Spinning index) (creates : OnlyCreates index labels)
    (ran : (discovery participant writer).run state labels = some after) : after.Spinning index := by
  refine System.run_invariant _ (·.Spinning index) ?_ spinning creates ran
  intro before label next own held stepped
  exact held.step own stepped

/-- What the failed call leaves. -/
theorem DiscoveryState.Spinning.fail (spinning : state.Spinning index)
    (stepped : state.step (.fail index written) = some after) :
    ∃ node, after.nodes[index]? = some (some node) ∧ node.phase = .ready ∧ node.Flagged := by
  obtain ⟨node, remaining, found, calling, flagged⟩ := spinning
  obtain ⟨inside, _⟩ := List.getElem?_eq_some_iff.mp found
  obtain ⟨node', found', stepped⟩ := step_own rfl stepped
  cases found.symm.trans found'
  simp only [DiscoveryState.stepNode, calling] at stepped
  cases stepped
  exact ⟨_, List.getElem?_set_self inside, rfl, flagged.spinner, flagged.suppressed⟩

theorem DiscoveryState.Stuck.step (stuck : state.Stuck index) (stepped : state.step label = some after) :
    after.Stuck index := by
  by_cases own : label.node = some index
  · obtain ⟨node, found, stepped⟩ := step_own own stepped
    obtain ⟨ready, flagged⟩ := stuck.flagged node found
    obtain ⟨entry, nodes⟩ := stepNode_nodes found stepped
    refine ⟨by simpa [nodes] using stuck.known, ?_⟩
    intro left alive
    cases label with
    | newNode => cases own
    | create i endpoint gid written =>
      simp only [DiscoveryState.stepNode, ready, Option.some.injEq] at stepped
      rw [← stepped, addEndpoint_nodes, List.getElem?_set_self stuck.known] at alive
      cases alive
      exact ⟨(add_fields _ _ _).1.trans ready, flagged.add gid endpoint⟩
    | fail i written =>
      simp only [DiscoveryState.stepNode, ready, Option.some.injEq] at stepped
      rw [← stepped] at alive
      exact stuck.flagged left alive
    | validate i valid written => simp [DiscoveryState.stepNode, ready] at stepped
    | spinner i => simp [DiscoveryState.stepNode, flagged.spinner] at stepped
    | finishSpinner i written => simp [DiscoveryState.stepNode, ready] at stepped
    | drop i written =>
      simp only [DiscoveryState.stepNode, ready, if_true, Option.some.injEq] at stepped
      rw [← stepped, DiscoveryState.dropNode, List.getElem?_set_self stuck.known] at alive
      cases alive
  · obtain ⟨known, same⟩ := step_elsewhere stuck.known own stepped
    exact ⟨known, fun node found => stuck.flagged node (same ▸ found)⟩

theorem DiscoveryState.Stuck.run {participant writer : Gid} {labels : List DiscoveryLabel} (stuck : state.Stuck index)
    (ran : (discovery participant writer).run state labels = some after) : after.Stuck index := by
  refine System.run_invariant (fun _ => True) (·.Stuck index) ?_ stuck (fun _ _ => trivial) ran
  intro before label next _ held stepped
  exact held.step stepped

/-- A stuck node refuses a spinner, and what is created through it reaches no published sample. -/
theorem DiscoveryState.Stuck.silent (stuck : state.Stuck index) :
    state.step (.spinner index) = none ∧
      ∀ endpoint gid written after, state.step (.create index endpoint gid written) = some after →
        after.context = state.context := by
  constructor
  · rw [Option.eq_none_iff_forall_ne_some]
    intro after stepped
    obtain ⟨node, found, stepped⟩ := step_own rfl stepped
    simp [DiscoveryState.stepNode, (stuck.flagged node found).2.spinner] at stepped
  · intro endpoint gid written after stepped
    obtain ⟨node, found, stepped⟩ := step_own rfl stepped
    obtain ⟨ready, flagged⟩ := stuck.flagged node found
    simp only [DiscoveryState.stepNode, ready, DiscoveryState.addEndpoint, flagged.suppressed, if_true,
      Option.some.injEq] at stepped
    rw [← stepped]
    rfl

theorem failedSpinner_left {participant writer : Gid} {before : DiscoveryState} {labels : List DiscoveryLabel}
    (creates : OnlyCreates index labels)
    (ran : (discovery participant writer).run before (failedSpinner index labels written) = some after) :
    ∃ node, after.nodes[index]? = some (some node) ∧ node.phase = .ready ∧ node.Flagged := by
  obtain ⟨started, spun, ran⟩ := Option.bind_eq_some_iff.mp ran
  obtain ⟨failing, created, ran⟩ := System.run_append.mp ran
  obtain ⟨final, failed, finished⟩ := Option.bind_eq_some_iff.mp ran
  cases finished
  exact ((DiscoveryState.Spinning.start spun).run creates created).fail failed

theorem stuck_of_left (left : ∃ node, state.nodes[index]? = some (some node) ∧ node.phase = .ready ∧ node.Flagged) :
    state.Stuck index := by
  obtain ⟨node, found, ready, flagged⟩ := left
  refine ⟨(List.getElem?_eq_some_iff.mp found).1, ?_⟩
  intro other alive
  cases found.symm.trans alive
  exact ⟨ready, flagged⟩

theorem not_retryable_of_left
    (left : ∃ node, state.nodes[index]? = some (some node) ∧ node.phase = .ready ∧ node.Flagged) :
    ¬ ∃ node, state.Retryable index node := by
  obtain ⟨node, found, _, flagged⟩ := left
  intro retryable
  obtain ⟨other, retryable⟩ := retryable
  cases found.symm.trans retryable.alive
  exact absurd (flagged.suppressed.symm.trans retryable.sends) (by decide)

/-- Wherever `spinner` fails, the node keeps a spinner that it does not have and stays silent: no later
call of `spinner` is accepted, and nothing created through the node changes what is published. -/
theorem failed_spinner_never_retryable {participant writer : Gid} {before : DiscoveryState}
    {labels : List DiscoveryLabel} (creates : OnlyCreates index labels)
    (ran : (discovery participant writer).run before (failedSpinner index labels written) = some after) :
    (¬ ∃ node, after.Retryable index node) ∧
    (∃ node, after.nodes[index]? = some (some node) ∧ node.haveSpinner = true ∧
      node.suppressNodeInfoUpdates = true) ∧
    ∀ labels' later, (discovery participant writer).run after labels' = some later →
      later.step (.spinner index) = none ∧
        ∀ endpoint gid written final, later.step (.create index endpoint gid written) = some final →
          final.context = later.context := by
  have left := failedSpinner_left creates ran
  refine ⟨not_retryable_of_left left, ?_, ?_⟩
  · obtain ⟨node, found, _, flagged⟩ := left
    exact ⟨node, found, flagged.spinner, flagged.suppressed⟩
  · intro labels' later continued
    exact ((stuck_of_left left).run continued).silent

end Steps

def talker : LocalNode :=
  { LocalNode.begin ⟨"/".toList, "talker".toList, rfl⟩ ⟨false, false, true⟩ (octetGid 3) with
    suppressNodeInfoUpdates := false
    phase := .ready }

def readyTalker : DiscoveryState where
  context := ContextInner.updateNode ⟨octetGid 1, octetGid 2, ∅, []⟩ talker.generateNodeInfo true
  nodes := [some talker]

def firstService : List DiscoveryLabel :=
  [.create 0 .reader (octetGid 4) true, .create 0 .writer (octetGid 5) true]

theorem firstService_creates : OnlyCreates 0 firstService := by
  intro label member own
  simp only [firstService, List.mem_cons, List.not_mem_nil, or_false] at member
  rcases member with rfl | rfl <;> exact ⟨_, _, _, rfl⟩

theorem firstService_fails :
    ∃ after, (discovery (octetGid 1) (octetGid 2)).run readyTalker (failedSpinner 0 firstService true) = some after :=
  Option.isSome_iff_exists.mp (by decide)

theorem failed_spinner_never_retryable_talker :
    ∃ after, (discovery (octetGid 1) (octetGid 2)).run readyTalker (failedSpinner 0 firstService true) = some after ∧
      ¬ ∃ node, after.Retryable 0 node := by
  obtain ⟨after, ran⟩ := firstService_fails
  exact ⟨after, ran, (failed_spinner_never_retryable firstService_creates ran).1⟩

theorem failed_spinner_breaks_retry : ¬ SpinnerRetries (discovery (octetGid 1) (octetGid 2)) := by
  intro retries
  obtain ⟨after, ran⟩ := firstService_fails
  exact not_retryable_of_left (failedSpinner_left firstService_creates ran)
    (retries readyTalker after 0 firstService true firstService_creates ran)

end Ros2Client
