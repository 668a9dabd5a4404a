import Ros2Client.Parameters.Interleaving
import Ros2Client.Transition.EventLog
import Ros2Client.Zenoh.Parameters

open Std (TreeMap)
open Transition

namespace Ros2Client

structure ParameterChanges where
  newParameters : List Raw.Parameter
  changedParameters : List Raw.Parameter
  deletedParameters : List Raw.Parameter
deriving DecidableEq

def ParameterEvent.changes (event : ParameterEvent) : ParameterChanges :=
  ⟨event.newParameters, event.changedParameters, event.deletedParameters⟩

def Zenoh.ParameterEvent.changes (event : Zenoh.ParameterEvent) : ParameterChanges :=
  ⟨event.newParameters, event.changedParameters, event.deletedParameters⟩

def ParameterStore.insertAll (store : ParameterStore) (parameters : List Raw.Parameter) : ParameterStore :=
  parameters.foldl (fun store parameter => store.insert parameter.name (.ofRaw parameter.value)) store

def ParameterStore.eraseAll (store : ParameterStore) (parameters : List Raw.Parameter) : ParameterStore :=
  parameters.foldl (fun store parameter => store.erase parameter.name) store

def ParameterStore.apply (store : ParameterStore) (changes : ParameterChanges) : ParameterStore :=
  ((store.insertAll changes.newParameters).insertAll changes.changedParameters).eraseAll changes.deletedParameters

structure ParameterChanges.Fits (store : ParameterStore) (changes : ParameterChanges) : Prop where
  new : ∀ parameter ∈ changes.newParameters, parameter.name ∉ store
  changed : ∀ parameter ∈ changes.changedParameters, parameter.name ∈ store
  deleted : ∀ parameter ∈ changes.deletedParameters, parameter.name ∈ store

variable {Event : Type} {changes : Event → ParameterChanges}

/-- A listener that starts from one store and applies the events in order ends with the other. -/
structure Replays (changes : Event → ParameterChanges) (start : ParameterStore) (events : List Event)
    (finish : ParameterStore) : Prop where
  store : ∀ name : Str, (events.foldl (fun store event => store.apply (changes event)) start)[name]? = finish[name]?
  fits : ∀ (index : Nat) (event : Event), events[index]? = some event →
    (changes event).Fits ((events.take index).foldl (fun store event => store.apply (changes event)) start)

theorem insertAll_equiv {first second : ParameterStore} (same : first.Equiv second) (parameters : List Raw.Parameter) :
    (first.insertAll parameters).Equiv (second.insertAll parameters) := by
  induction parameters generalizing first second with
  | nil => exact same
  | cons parameter parameters ih => exact ih (same.insert _ _)

theorem eraseAll_equiv {first second : ParameterStore} (same : first.Equiv second) (parameters : List Raw.Parameter) :
    (first.eraseAll parameters).Equiv (second.eraseAll parameters) := by
  induction parameters generalizing first second with
  | nil => exact same
  | cons parameter parameters ih => exact ih (same.erase _)

def parameterLog (changes : Event → ParameterChanges) : EventLog ParameterStore Event where
  apply store event := store.apply (changes event)
  fits store event := (changes event).Fits store
  same := TreeMap.Equiv
  refl _ := .rfl
  trans := TreeMap.Equiv.trans
  apply_congr _ same := eraseAll_equiv (insertAll_equiv (insertAll_equiv same _) _) _
  fits_congr same held := {
    new := fun parameter member present => held.new parameter member (same.mem_iff.mp present)
    changed := fun parameter member => same.mem_iff.mpr (held.changed parameter member)
    deleted := fun parameter member => same.mem_iff.mpr (held.deleted parameter member) }

theorem Explains.replays {start finish : ParameterStore} {events : List Event}
    (explained : (parameterLog changes).Explains start events finish) : Replays changes start events finish where
  store _ := explained.replay.getElem?_eq
  fits _ _ found := explained.fits_at found

variable {store : ParameterStore} {name : Str} {value : ParameterValue} {event : Event}

theorem explained_once {finish : ParameterStore} (fits : (changes event).Fits store)
    (applied : store.apply (changes event) = finish) : (parameterLog changes).Explains store [event] finish := by
  subst applied
  exact ⟨fits, .rfl⟩

theorem new_explained (absent : name ∉ store) (told : changes event = ⟨[⟨name, value.toRaw⟩], [], []⟩) :
    (parameterLog changes).Explains store [event] (store.insert name value) := by
  apply explained_once
  · constructor <;> simp [told, absent]
  · simp [told, ParameterStore.apply, ParameterStore.insertAll, ParameterStore.eraseAll]

theorem changed_explained (present : name ∈ store) (told : changes event = ⟨[], [⟨name, value.toRaw⟩], []⟩) :
    (parameterLog changes).Explains store [event] (store.insert name value) := by
  apply explained_once
  · constructor <;> simp [told, present]
  · simp [told, ParameterStore.apply, ParameterStore.insertAll, ParameterStore.eraseAll]

theorem deleted_explained (present : name ∈ store) (told : changes event = ⟨[], [], [⟨name, value.toRaw⟩]⟩) :
    (parameterLog changes).Explains store [event] (store.erase name) := by
  apply explained_once
  · constructor <;> simp [told, present]
  · simp [told, ParameterStore.apply, ParameterStore.insertAll, ParameterStore.eraseAll]

theorem erase_absent (absent : store[name]? = none) : store.Equiv (store.erase name) := by
  apply TreeMap.Equiv.of_forall_constGet?_eq
  intro other
  rw [TreeMap.getElem?_erase]
  split
  · rename_i same
    rw [← Std.compare_eq_iff_eq.mp same, absent]
  · rfl

inductive ParameterCall
  | set (caller : Caller) (name : Str) (value : ParameterValue) (systemTime : Time)
  | undeclare (name : Str) (systemTime : Time)
deriving DecidableEq

variable {World : Type}

def ParameterCall.run (node : Node World) (shared : Shared World) : ParameterCall → Shared World
  | .set caller name value systemTime => (caller.setParameter node systemTime name value shared).2
  | .undeclare name systemTime => node.undeclareParameter systemTime name shared

def Shared.journal (shared : Shared World) : Journal ParameterStore ParameterEvent :=
  ⟨shared.parameters, shared.published⟩

theorem afterSet_accounted (shared : Shared World) (world : World) (timestamp : Time) (node name : Str)
    (value : ParameterValue) : (parameterLog ParameterEvent.changes).Accounts shared.journal
      ((shared.afterSet world name value).publish
        (setEvent timestamp node name value (shared.parameters.contains name))).journal := by
  refine ⟨[_], rfl, ?_⟩
  by_cases present : name ∈ shared.parameters
  · exact changed_explained present (by simp [ParameterEvent.changes, setEvent, present])
  · exact new_explained present (by simp [ParameterEvent.changes, setEvent, present])

theorem Caller.setParameter_accounted (node : Node World) (caller : Caller) (systemTime : Time) (name : Str)
    (value : ParameterValue) (shared : Shared World) : (parameterLog ParameterEvent.changes).Accounts shared.journal
      (caller.setParameter node systemTime name value shared).2.journal := by
  obtain ⟨reason, world, onNode, onSpinner⟩ | ⟨world, onNode, onSpinner⟩ :=
    node.setParameter_cases systemTime name value shared
  · cases caller with
    | node =>
      rw [Caller.setParameter, onNode]
      exact .refl _
    | spinner =>
      rw [Caller.setParameter, onSpinner]
      exact .refl _
  · cases caller with
    | node =>
      rw [Caller.setParameter, onNode]
      exact afterSet_accounted shared world _ _ name value
    | spinner =>
      rw [Caller.setParameter, onSpinner]
      exact afterSet_accounted shared world _ _ name value

theorem Node.undeclareParameter_accounted (node : Node World) (systemTime : Time) (name : Str) (shared : Shared World) :
    (parameterLog ParameterEvent.changes).Accounts shared.journal
      (node.undeclareParameter systemTime name shared).journal := by
  unfold undeclareParameter
  cases found : shared.parameters[name]? with
  | some value =>
    have present : name ∈ shared.parameters := TreeMap.mem_iff_isSome_getElem?.mpr (by rw [found]; rfl)
    exact ⟨[_], rfl, deleted_explained present rfl⟩
  | none => exact ⟨[], (List.append_nil _).symm, erase_absent found⟩

theorem ParameterCall.run_accounted (node : Node World) (shared : Shared World) (call : ParameterCall) :
    (parameterLog ParameterEvent.changes).Accounts shared.journal (call.run node shared).journal := by
  cases call with
  | set caller name value systemTime => exact caller.setParameter_accounted node systemTime name value shared
  | undeclare name systemTime => exact node.undeclareParameter_accounted systemTime name shared

namespace Zenoh

inductive ParameterCall
  | setParameter (name : Str) (value : ParameterValue) (now : Time)
  | setParameters (parameters : List (Raw.Parameter × Time))
deriving DecidableEq

def ParameterCall.run (server : ParameterServer) : ParameterCall → ParameterServer
  | .setParameter name value now => server.setParameter now name value
  | .setParameters parameters => (server.handleSetParameters parameters).2

def ParameterServer.journal (server : ParameterServer) : Journal ParameterStore ParameterEvent :=
  ⟨server.store, server.published⟩

theorem ParameterServer.setAndNotify_accounted (server : ParameterServer) (now : Time) (name : Str)
    (value : ParameterValue) : (parameterLog ParameterEvent.changes).Accounts server.journal
      (server.setAndNotify now name value).2.journal := by
  unfold setAndNotify
  by_cases present : name ∈ server.store
  · have contained : server.store.contains name = true := present
    simp only [if_pos contained]
    exact ⟨[_], rfl, changed_explained present rfl⟩
  · have absent : ¬server.store.contains name = true := present
    simp only [if_neg absent]
    exact ⟨[_], rfl, new_explained present rfl⟩

theorem ParameterServer.handleSetParameters_accounted (server : ParameterServer)
    (parameters : List (Raw.Parameter × Time)) : (parameterLog ParameterEvent.changes).Accounts server.journal
      (server.handleSetParameters parameters).2.journal := by
  induction parameters generalizing server with
  | nil => exact .refl _
  | cons entry rest ih => exact (server.setAndNotify_accounted _ _ _).trans (ih _)

theorem ParameterCall.run_accounted (server : ParameterServer) (call : ParameterCall) :
    (parameterLog ParameterEvent.changes).Accounts server.journal (call.run server).journal := by
  cases call with
  | setParameter name value now => exact server.setAndNotify_accounted now name value
  | setParameters parameters => exact server.handleSetParameters_accounted parameters

end Zenoh

theorem parameter_events_replay :
    (∀ (World : Type) (node : Node World) (shared : Shared World) (calls : List ParameterCall),
      ∃ events, (calls.foldl (ParameterCall.run node) shared).published = shared.published ++ events ∧
        Replays ParameterEvent.changes shared.parameters events
          (calls.foldl (ParameterCall.run node) shared).parameters) ∧
    ∀ (server : Zenoh.ParameterServer) (calls : List Zenoh.ParameterCall),
      ∃ events, (calls.foldl Zenoh.ParameterCall.run server).published = server.published ++ events ∧
        Replays Zenoh.ParameterEvent.changes server.store events
          (calls.foldl Zenoh.ParameterCall.run server).store := by
  constructor
  · intro World node shared calls
    obtain ⟨events, published, explained⟩ := EventLog.accounts_foldl (ParameterCall.run_accounted node) calls shared
    exact ⟨events, published, Explains.replays explained⟩
  · intro server calls
    obtain ⟨events, published, explained⟩ := EventLog.accounts_foldl Zenoh.ParameterCall.run_accounted calls server
    exact ⟨events, published, Explains.replays explained⟩

end Ros2Client
