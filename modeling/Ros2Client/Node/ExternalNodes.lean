import Mathlib.Logic.Function.Basic
import Ros2Client.Node.LiveNodes

open Transition

namespace Ros2Client

structure NodeEntitiesRepr where
  nodeNamespace : Str
  nodeName : Str
  readerGidSeq : List Gid
  writerGidSeq : List Gid
deriving DecidableEq

def NodeEntitiesInfo.toRepr (info : NodeEntitiesInfo) : NodeEntitiesRepr :=
  ⟨info.name.nodeNamespace, info.name.baseName, info.readerGidSeq, info.writerGidSeq⟩

def NodeEntitiesInfo.tryFrom (repr : NodeEntitiesRepr) : Except NameError NodeEntitiesInfo :=
  (NodeName.new repr.nodeNamespace repr.nodeName).map fun name => ⟨name, repr.readerGidSeq, repr.writerGidSeq⟩

structure DiscoverySample where
  gid : Gid
  nodeEntitiesInfoSeq : List NodeEntitiesRepr
deriving DecidableEq

def ParticipantEntitiesInfo.serialize (info : ParticipantEntitiesInfo) : DiscoverySample :=
  ⟨info.gid, info.nodeEntitiesInfoSeq.map (·.toRepr)⟩

/-- One bad name makes the whole sample unreadable. -/
def ParticipantEntitiesInfo.deserialize (sample : DiscoverySample) : Except NameError ParticipantEntitiesInfo :=
  (sample.nodeEntitiesInfoSeq.mapM NodeEntitiesInfo.tryFrom).map fun nodes => ⟨sample.gid, nodes⟩

/-- The discovery part of a `Spinner`: the map `external_nodes`, and the events of remote participants that it has
    sent to the status listeners. -/
structure ExternalNodes where
  externalNodes : Gid → Option (List NodeEntitiesInfo)
  events : List ParticipantEntitiesInfo

/-- The branch of `spin` for a discovery sample. An unreadable one is logged and otherwise ignored. -/
def ExternalNodes.update (spinner : ExternalNodes) (sample : DiscoverySample) : ExternalNodes :=
  match ParticipantEntitiesInfo.deserialize sample with
  | .ok partUpdate => {
      externalNodes := Function.update spinner.externalNodes partUpdate.gid (some partUpdate.nodeEntitiesInfoSeq)
      events := spinner.events ++ [partUpdate] }
  | .error _ => spinner

def ExternalNodes.new : ExternalNodes := ⟨fun _ => none, []⟩

section Wire

variable {info : NodeEntitiesInfo} {repr : NodeEntitiesRepr}

theorem NodeName.new_eq_ok {nodeNamespace baseName : Str} {name : NodeName} :
    NodeName.new nodeNamespace baseName = .ok name ↔ name.nodeNamespace = nodeNamespace ∧ name.baseName = baseName := by
  unfold NodeName.new
  split
  · constructor
    · intro same
      cases same
      exact ⟨rfl, rfl⟩
    · intro same
      cases name
      cases same.1
      cases same.2
      rfl
  · rename_i error checked
    constructor
    · intro same
      cases same
    · intro same
      have valid := name.checked
      rw [same.1, same.2, checked] at valid
      cases valid

/-- What is read of a node is what would be written of it. -/
theorem tryFrom_eq_ok : NodeEntitiesInfo.tryFrom repr = .ok info ↔ info.toRepr = repr := by
  obtain ⟨name, readers, writers⟩ := info
  obtain ⟨nodeNamespace, nodeName, readers', writers'⟩ := repr
  simp only [NodeEntitiesInfo.tryFrom, NodeEntitiesInfo.toRepr, NodeEntitiesRepr.mk.injEq]
  cases made : NodeName.new nodeNamespace nodeName with
  | ok name' =>
    obtain ⟨rfl, rfl⟩ := NodeName.new_eq_ok.mp made
    have same : name' = name ↔ name.nodeNamespace = name'.nodeNamespace ∧ name.baseName = name'.baseName := by
      rw [← NodeName.new_eq_ok, made, Except.ok.injEq]
    simp only [Except.map, Except.ok.injEq, NodeEntitiesInfo.mk.injEq, same]
    grind
  | error error =>
    constructor
    · intro read
      cases read
    · intro same
      rw [NodeName.new_eq_ok.mpr ⟨same.1, same.2.1⟩] at made
      cases made

theorem mapM_tryFrom {nodes : List NodeEntitiesInfo} {reprs : List NodeEntitiesRepr} :
    reprs.mapM NodeEntitiesInfo.tryFrom = .ok nodes ↔ nodes.map (·.toRepr) = reprs := by
  induction reprs generalizing nodes with
  | nil => simp [pure, Except.pure, eq_comm]
  | cons repr reprs ih =>
    rw [List.mapM_cons, Wire.bind_eq_ok]
    constructor
    · intro read
      obtain ⟨first, readFirst, read⟩ := read
      obtain ⟨rest, readRest, read⟩ := Wire.bind_eq_ok.mp read
      cases read
      rw [List.map_cons, tryFrom_eq_ok.mp readFirst, ih.mp readRest]
    · intro written
      cases nodes with
      | nil => cases written
      | cons first rest =>
        obtain ⟨same, others⟩ := List.cons.inj written
        exact ⟨first, tryFrom_eq_ok.mpr same, Wire.bind_eq_ok.mpr ⟨rest, ih.mpr others, rfl⟩⟩

/-- A sample is read as a participant's information exactly if it is what is written of it. -/
theorem deserialize_eq_ok {info : ParticipantEntitiesInfo} {sample : DiscoverySample} :
    ParticipantEntitiesInfo.deserialize sample = .ok info ↔ info.serialize = sample := by
  obtain ⟨gid, nodes⟩ := info
  obtain ⟨gid', reprs⟩ := sample
  simp only [ParticipantEntitiesInfo.deserialize, ParticipantEntitiesInfo.serialize, DiscoverySample.mk.injEq]
  cases read : reprs.mapM NodeEntitiesInfo.tryFrom with
  | ok nodes' =>
    have same : nodes' = nodes ↔ nodes.map (·.toRepr) = reprs := by
      rw [← mapM_tryFrom, read, Except.ok.injEq]
    simp only [Except.map, Except.ok.injEq, ParticipantEntitiesInfo.mk.injEq, same]
    rw [eq_comm]
  | error error =>
    constructor
    · intro same
      cases same
    · intro same
      rw [mapM_tryFrom.mpr same.2] at read
      cases read

theorem ExternalNodes.update_serialize (spinner : ExternalNodes) (info : ParticipantEntitiesInfo) :
    spinner.update info.serialize =
      ⟨Function.update spinner.externalNodes info.gid (some info.nodeEntitiesInfoSeq), spinner.events ++ [info]⟩ := by
  rw [ExternalNodes.update, deserialize_eq_ok.mpr rfl]

def ExternalNodes.heardOf (spinner : ExternalNodes) (gid : Gid) : List ParticipantEntitiesInfo :=
  spinner.events.filter fun info => info.gid = gid

theorem ExternalNodes.update_own (spinner : ExternalNodes) (info : ParticipantEntitiesInfo) :
    (spinner.update info.serialize).externalNodes info.gid = some info.nodeEntitiesInfoSeq ∧
      (spinner.update info.serialize).heardOf info.gid = spinner.heardOf info.gid ++ [info] := by
  rw [update_serialize]
  exact ⟨Function.update_self .., by simp [heardOf]⟩

/-- A sample of another participant, readable or not, changes nothing of what is known of this one. -/
theorem ExternalNodes.update_other (spinner : ExternalNodes) {sample : DiscoverySample} {gid : Gid}
    (other : sample.gid ≠ gid) :
    (spinner.update sample).externalNodes gid = spinner.externalNodes gid ∧
      (spinner.update sample).heardOf gid = spinner.heardOf gid := by
  rw [update]
  split
  · rename_i info read
    have named : info.gid = sample.gid := congrArg DiscoverySample.gid (deserialize_eq_ok.mp read)
    rw [← named] at other
    exact ⟨Function.update_of_ne other.symm .., by simp [heardOf, other]⟩
  · exact ⟨rfl, rfl⟩

end Wire

end Ros2Client
