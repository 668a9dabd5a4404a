import Std.Data.TreeMap.Lemmas
import Ros2Client.Names.Name
import Ros2Client.Transition.Runs
import Ros2Client.Zenoh.Payload

open Std (TreeMap)
open Transition

namespace Ros2Client

structure NodeEntitiesInfo where
  name : NodeName
  readerGidSeq : List Gid
  writerGidSeq : List Gid
deriving DecidableEq

namespace NodeEntitiesInfo

def new (name : NodeName) : NodeEntitiesInfo := ⟨name, [], []⟩

def fullyQualifiedName (info : NodeEntitiesInfo) : Str := info.name.fullyQualifiedName

def addWriter (info : NodeEntitiesInfo) (gid : Gid) : NodeEntitiesInfo :=
  if gid ∈ info.writerGidSeq then info else { info with writerGidSeq := info.writerGidSeq ++ [gid] }

def addReader (info : NodeEntitiesInfo) (gid : Gid) : NodeEntitiesInfo :=
  if gid ∈ info.readerGidSeq then info else { info with readerGidSeq := info.readerGidSeq ++ [gid] }

end NodeEntitiesInfo

structure ParticipantEntitiesInfo where
  gid : Gid
  nodeEntitiesInfoSeq : List NodeEntitiesInfo

/-- The context's part in discovery, with the samples that its writer has written. The order of a
    hash map is not fixed, and nothing here depends on the one that is taken. -/
structure ContextInner where
  domainParticipant : Gid
  nodeWriter : Gid
  localNodes : TreeMap Str NodeEntitiesInfo
  published : List ParticipantEntitiesInfo

namespace ContextInner

def participantEntitiesInfo (context : ContextInner) : ParticipantEntitiesInfo :=
  ⟨context.domainParticipant, context.localNodes.toList.map (·.2)⟩

/-- A failed write is logged and otherwise ignored. -/
def broadcastNodeInfos (context : ContextInner) (written : Bool) : ContextInner :=
  if written then { context with published := context.published ++ [context.participantEntitiesInfo] } else context

def updateNode (context : ContextInner) (info : NodeEntitiesInfo) (written : Bool) : ContextInner :=
  let info := info.addWriter context.nodeWriter
  { context with localNodes := context.localNodes.insert info.fullyQualifiedName info }.broadcastNodeInfos written

def removeNode (context : ContextInner) (nodeFqn : Str) (written : Bool) : ContextInner :=
  { context with localNodes := context.localNodes.erase nodeFqn }.broadcastNodeInfos written

end ContextInner

inductive Endpoint
  | reader
  | writer
deriving DecidableEq

/-- Where a call stands that holds the `Node`: what `Node::new` or `spinner` has yet to create. -/
inductive NodePhase
  | building (remaining : List Endpoint)
  | spinner (remaining : List Endpoint)
  | ready
deriving DecidableEq

structure BuiltinOptions where
  enableRosout : Bool
  enableRosoutReading : Bool
  startParameterServices : Bool

structure LocalNode where
  nodeName : NodeName
  options : BuiltinOptions
  parameterEventsWriter : Gid
  rosoutWriter : Option Gid
  readers : List Gid
  writers : List Gid
  suppressNodeInfoUpdates : Bool
  stopSpinSender : Bool
  phase : NodePhase

namespace LocalNode

/-- `Node::new` up to the first of the endpoints it creates through the new node. -/
def begin (nodeName : NodeName) (options : BuiltinOptions) (parameterEventsWriter : Gid) : LocalNode where
  nodeName := nodeName
  options := options
  parameterEventsWriter := parameterEventsWriter
  rosoutWriter := none
  readers := []
  writers := []
  suppressNodeInfoUpdates := true
  stopSpinSender := false
  phase := .building ((if options.enableRosout then [.writer] else []) ++
    if options.enableRosoutReading then [.reader] else [])

def fullyQualifiedName (node : LocalNode) : Str := node.nodeName.fullyQualifiedName

def generateNodeInfo (node : LocalNode) : NodeEntitiesInfo :=
  let info := (NodeEntitiesInfo.new node.nodeName).addWriter node.parameterEventsWriter
  let info := node.rosoutWriter.toList.foldl .addWriter info
  let info := node.readers.foldl .addReader info
  node.writers.foldl .addWriter info

def add (node : LocalNode) (gid : Gid) : Endpoint → LocalNode
  | .reader => { node with readers := node.readers.insert gid }
  | .writer => { node with writers := node.writers.insert gid }

def serverEndpoints (options : BuiltinOptions) : List Endpoint :=
  if options.startParameterServices then (List.replicate 6 [.reader, .writer]).flatten else []

end LocalNode

structure DiscoveryState where
  context : ContextInner
  nodes : List (Option LocalNode)

/-- The calls on a context and its nodes, a node by the order in which they were made. A label says
    which identity DDS gave to a new endpoint and whether the discovery sample, if the step sends one,
    could be written. -/
inductive DiscoveryLabel
  | newNode (nodeName : NodeName) (options : BuiltinOptions) (parameterEventsWriter : Gid)
  | create (node : Nat) (endpoint : Endpoint) (gid : Gid) (written : Bool)
  | fail (node : Nat) (written : Bool)
  | validate (node : Nat) (valid written : Bool)
  | spinner (node : Nat)
  | finishSpinner (node : Nat) (written : Bool)
  | drop (node : Nat) (written : Bool)

namespace DiscoveryState

def setNode (state : DiscoveryState) (index : Nat) (node : LocalNode) : DiscoveryState :=
  { state with nodes := state.nodes.set index (some node) }

/-- `suppress_node_info_updates(false)`, and the end of `add_reader` and `add_writer`. -/
def update (state : DiscoveryState) (index : Nat) (node : LocalNode) (written : Bool) : DiscoveryState :=
  ⟨state.context.updateNode node.generateNodeInfo written, state.nodes.set index (some node)⟩

/-- The destructor of a `Node`, which also runs when `Node::new` returns an error. -/
def dropNode (state : DiscoveryState) (index : Nat) (node : LocalNode) (written : Bool) : DiscoveryState :=
  ⟨state.context.removeNode node.fullyQualifiedName written, state.nodes.set index none⟩

def addEndpoint (state : DiscoveryState) (index : Nat) (node : LocalNode) (endpoint : Endpoint) (gid : Gid)
    (written : Bool) : DiscoveryState :=
  if node.suppressNodeInfoUpdates then state.setNode index (node.add gid endpoint)
  else state.update index (node.add gid endpoint) written

def stepNode (state : DiscoveryState) (index : Nat) (node : LocalNode) : DiscoveryLabel → Option DiscoveryState
  | .create _ endpoint gid written =>
    match node.phase with
    | .ready => some (state.addEndpoint index node endpoint gid written)
    | .building (next :: remaining) =>
      if endpoint = next then
        some (state.addEndpoint index { node with
          phase := .building remaining
          rosoutWriter := if endpoint = .writer then some gid else node.rosoutWriter } endpoint gid written)
      else none
    | .spinner (next :: remaining) =>
      if endpoint = next then
        some (state.addEndpoint index { node with phase := .spinner remaining } endpoint gid written)
      else none
    | _ => none
  | .fail _ written =>
    match node.phase with
    | .ready => some state
    | .building [] => none
    | .building (_ :: _) => some (state.dropNode index node written)
    -- The node stays suppressed: `spinner` returns before it would lift that.
    | .spinner _ => some (state.setNode index { node with phase := .ready })
  | .validate _ valid written =>
    match node.phase with
    | .building [] =>
      if valid then
        some (state.update index { node with phase := .ready, suppressNodeInfoUpdates := false } written)
      else some (state.dropNode index node written)
    | _ => none
  | .spinner _ =>
    if node.phase = .ready ∧ node.stopSpinSender = false then
      some (state.setNode index { node with
        stopSpinSender := true
        suppressNodeInfoUpdates := true
        phase := .spinner (LocalNode.serverEndpoints node.options) })
    else none
  | .finishSpinner _ written =>
    match node.phase with
    | .spinner [] =>
      some (state.update index { node with phase := .ready, suppressNodeInfoUpdates := false } written)
    | _ => none
  | .drop _ written => if node.phase = .ready then some (state.dropNode index node written) else none
  | .newNode .. => none

end DiscoveryState

def DiscoveryLabel.node : DiscoveryLabel → Option Nat
  | .newNode .. => none
  | .create index .. | .fail index _ | .validate index _ _ | .spinner index | .finishSpinner index _ | .drop index _ =>
    some index

def DiscoveryState.step (state : DiscoveryState) (label : DiscoveryLabel) : Option DiscoveryState :=
  match label with
  | .newNode nodeName options parameterEventsWriter =>
    some { state with nodes := state.nodes ++ [some (.begin nodeName options parameterEventsWriter)] }
  | _ => label.node.bind fun index => state.nodes[index]?.join.bind fun node => state.stepNode index node label

def discovery (domainParticipant nodeWriter : Gid) : System DiscoveryState DiscoveryLabel where
  initial := ⟨⟨domainParticipant, nodeWriter, ∅, []⟩, []⟩
  step := DiscoveryState.step

namespace NodeEntitiesInfo

variable {info : NodeEntitiesInfo} {gid other : Gid}

@[simp] theorem addWriter_name : (info.addWriter gid).name = info.name := by
  unfold addWriter
  split <;> rfl

@[simp] theorem addReader_name : (info.addReader gid).name = info.name := by
  unfold addReader
  split <;> rfl

@[simp] theorem addWriter_readers : (info.addWriter gid).readerGidSeq = info.readerGidSeq := by
  unfold addWriter
  split <;> rfl

@[simp] theorem addReader_writers : (info.addReader gid).writerGidSeq = info.writerGidSeq := by
  unfold addReader
  split <;> rfl

@[simp] theorem mem_addWriter :
    other ∈ (info.addWriter gid).writerGidSeq ↔ other = gid ∨ other ∈ info.writerGidSeq := by
  unfold addWriter
  split
  · rename_i present
    constructor
    · exact .inr
    · rintro (rfl | member)
      · exact present
      · exact member
  · simp [or_comm]

@[simp] theorem mem_addReader :
    other ∈ (info.addReader gid).readerGidSeq ↔ other = gid ∨ other ∈ info.readerGidSeq := by
  unfold addReader
  split
  · rename_i present
    constructor
    · exact .inr
    · rintro (rfl | member)
      · exact present
      · exact member
  · simp [or_comm]

theorem foldl_addWriter (info : NodeEntitiesInfo) (gids : List Gid) :
    (gids.foldl addWriter info).name = info.name ∧
    (gids.foldl addWriter info).readerGidSeq = info.readerGidSeq ∧
    ∀ gid, gid ∈ (gids.foldl addWriter info).writerGidSeq ↔ gid ∈ gids ∨ gid ∈ info.writerGidSeq := by
  induction gids generalizing info with
  | nil => simp
  | cons first rest ih =>
    obtain ⟨name, readers, writers⟩ := ih (info.addWriter first)
    refine ⟨name.trans addWriter_name, readers.trans addWriter_readers, ?_⟩
    intro gid
    rw [List.foldl_cons, writers, mem_addWriter, List.mem_cons]
    grind

theorem foldl_addReader (info : NodeEntitiesInfo) (gids : List Gid) :
    (gids.foldl addReader info).name = info.name ∧
    (gids.foldl addReader info).writerGidSeq = info.writerGidSeq ∧
    ∀ gid, gid ∈ (gids.foldl addReader info).readerGidSeq ↔ gid ∈ gids ∨ gid ∈ info.readerGidSeq := by
  induction gids generalizing info with
  | nil => simp
  | cons first rest ih =>
    obtain ⟨name, writers, readers⟩ := ih (info.addReader first)
    refine ⟨name.trans addReader_name, writers.trans addReader_writers, ?_⟩
    intro gid
    rw [List.foldl_cons, readers, mem_addReader, List.mem_cons]
    grind

end NodeEntitiesInfo

@[simp] theorem generateNodeInfo_name (node : LocalNode) : node.generateNodeInfo.name = node.nodeName := by
  simp only [LocalNode.generateNodeInfo,
    (NodeEntitiesInfo.foldl_addWriter _ _).1, (NodeEntitiesInfo.foldl_addReader _ _).1,
    NodeEntitiesInfo.addWriter_name, NodeEntitiesInfo.new]

theorem generateNodeInfo_readers (node : LocalNode) (gid : Gid) :
    gid ∈ node.generateNodeInfo.readerGidSeq ↔ gid ∈ node.readers := by
  simp only [LocalNode.generateNodeInfo,
    (NodeEntitiesInfo.foldl_addWriter _ _).2.1, (NodeEntitiesInfo.foldl_addReader _ _).2.2,
    NodeEntitiesInfo.addWriter_readers, NodeEntitiesInfo.new, List.not_mem_nil, or_false]

theorem generateNodeInfo_writers (node : LocalNode) (gid : Gid) :
    gid ∈ node.generateNodeInfo.writerGidSeq ↔
      gid ∈ node.writers ∨ node.rosoutWriter = some gid ∨ gid = node.parameterEventsWriter := by
  simp only [LocalNode.generateNodeInfo,
    (NodeEntitiesInfo.foldl_addWriter _ _).2.2, (NodeEntitiesInfo.foldl_addReader _ _).2.1,
    NodeEntitiesInfo.mem_addWriter, NodeEntitiesInfo.new, List.not_mem_nil, or_false, Option.mem_toList]

end Ros2Client
