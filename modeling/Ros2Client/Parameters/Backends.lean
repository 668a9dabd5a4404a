import Ros2Client.Parameters.Replay
import Ros2Client.Parameters.Services
import Ros2Client.Transition.Responders

open Std (TreeMap)
open Transition

namespace Ros2Client

inductive ParameterRequest
  | getParameters (req : GetParametersRequest)
  | getParameterTypes (req : GetParameterTypesRequest)
  | setParameters (req : SetParametersRequest)
  | setParametersAtomically (req : SetParametersRequest)
  | listParameters (req : ListParametersRequest)
  | describeParameters (req : DescribeParametersRequest)
deriving DecidableEq

inductive ParameterResponse
  | getParameters (resp : GetParametersResponse)
  | getParameterTypes (resp : GetParameterTypesResponse)
  | setParameters (resp : SetParametersResponse)
  | setParametersAtomically (resp : SetParametersResponse)
  | listParameters (resp : ListParametersResponse)
  | describeParameters (resp : DescribeParametersResponse)
deriving DecidableEq

def SetParametersRequest.timed (req : SetParametersRequest) (clock : Nat → Time) : List (Raw.Parameter × Time) :=
  req.parameter.zipIdx.map fun (parameter, index) => (parameter, clock index)

variable {World : Type}

def Spinner.setter (spinner : Spinner World) :
    Responder (Shared World) (Raw.Parameter × Time) Raw.SetParametersResult where
  answer shared request :=
    let (raw, now) := request
    let parameter := Parameter.ofRaw raw
    let (result, shared) := spinner.setParameter now parameter.name parameter.value shared
    (.of result, shared)

/-- Not implemented, and every entry fails. -/
def Spinner.setParametersAtomically (req : SetParametersRequest) : SetParametersResponse :=
  ⟨req.parameter.map fun _ => .of (.error "Setting parameters atomically is not implemented.".toList)⟩

def Spinner.listParameters (parameters : ParameterStore) (req : ListParametersRequest) : ListParametersResponse :=
  let names := parameters.keys.filterMap fun name =>
    if req.prefixes.isEmpty || req.prefixes.any fun p => p.isPrefixOf name then some name else none
  ⟨⟨names, []⟩⟩

def Spinner.answer (spinner : Spinner World) :
    Responder (Shared World) (ParameterRequest × (Nat → Time)) ParameterResponse where
  answer shared request :=
    match request.1 with
    | .getParameters req => (.getParameters (Spinner.getParameters shared.parameters req), shared)
    | .getParameterTypes req => (.getParameterTypes (Spinner.getParameterTypes shared.parameters req), shared)
    | .setParameters req =>
      let (results, shared) := spinner.setter.run shared (req.timed request.2)
      (.setParameters ⟨results⟩, shared)
    | .setParametersAtomically req => (.setParametersAtomically (Spinner.setParametersAtomically req), shared)
    | .listParameters req => (.listParameters (Spinner.listParameters shared.parameters req), shared)
    | .describeParameters req => (.describeParameters (Spinner.describeParameters shared.parameters req), shared)

namespace Zenoh

def ParameterServer.answer : Responder ParameterServer (ParameterRequest × (Nat → Time)) ParameterResponse where
  answer server request :=
    match request.1 with
    | .getParameters req => (.getParameters (server.handleGetParameters req), server)
    | .getParameterTypes req => (.getParameterTypes (server.handleGetParameterTypes req), server)
    | .setParameters req =>
      let (results, server) := server.handleSetParameters (req.timed request.2)
      (.setParameters ⟨results⟩, server)
    | .setParametersAtomically req =>
      (.setParametersAtomically (ParameterServer.handleSetParametersAtomically req), server)
    | .listParameters req => (.listParameters (server.handleListParameters req), server)
    | .describeParameters req => (.describeParameters (server.handleDescribeParameters req), server)

def ParameterServer.setter : Responder ParameterServer (Raw.Parameter × Time) Raw.SetParametersResult where
  answer server request :=
    let (raw, now) := request
    let parameter := Parameter.ofRaw raw
    let (result, server) := server.setAndNotify now parameter.name parameter.value
    (.of result, server)

theorem ParameterServer.handleSetParameters_eq (server : ParameterServer) (parameters : List (Raw.Parameter × Time)) :
    server.handleSetParameters parameters = ParameterServer.setter.run server parameters := by
  induction parameters generalizing server with
  | nil => rfl
  | cons parameter rest ih =>
    simp only [handleSetParameters, Responder.run, ih]
    rfl

end Zenoh

/-- The set is not refused: the name is allowed, and the validator and the set action agree. -/
def Spinner.AcceptsSet (spinner : Spinner World) (shared : Shared World) (request : Raw.Parameter × Time) : Prop :=
  (spinner.setParameter request.2 request.1.name (.ofRaw request.1.value) shared).1 = .ok ()

def Spinner.Accepts (spinner : Spinner World) (shared : Shared World)
    (request : ParameterRequest × (Nat → Time)) : Prop :=
  match request.1 with
  | .setParameters req => spinner.setter.Always spinner.AcceptsSet shared (req.timed request.2)
  | _ => True

structure TimedRequest where
  request : ParameterRequest
  ddsClock : Nat → Time
  zenohClock : Nat → Time

def TimedRequest.onDds (timed : TimedRequest) : ParameterRequest × (Nat → Time) := (timed.request, timed.ddsClock)

def TimedRequest.onZenoh (timed : TimedRequest) : ParameterRequest × (Nat → Time) := (timed.request, timed.zenohClock)

structure BackendsAlike (dds : List ParameterEvent) (zenoh : List Zenoh.ParameterEvent) (shared : Shared World)
    (server : Zenoh.ParameterServer) : Prop where
  store : shared.parameters = server.store
  told : ∃ events events', shared.published = dds ++ events ∧ server.published = zenoh ++ events' ∧
    events.map ParameterEvent.changes = events'.map Zenoh.ParameterEvent.changes

abbrev TimedSet := Raw.Parameter × Time × Time

def TimedSet.onDds (set : TimedSet) : Raw.Parameter × Time := (set.1, set.2.1)

def TimedSet.onZenoh (set : TimedSet) : Raw.Parameter × Time := (set.1, set.2.2)

def TimedRequest.sets (timed : TimedRequest) (req : SetParametersRequest) : List TimedSet :=
  req.parameter.zipIdx.map fun (parameter, index) => (parameter, timed.ddsClock index, timed.zenohClock index)

def setChanges (store : ParameterStore) (parameter : Raw.Parameter) : ParameterChanges :=
  let told : Raw.Parameter := ⟨parameter.name, (ParameterValue.ofRaw parameter.value).toRaw⟩
  if store.contains parameter.name then ⟨[], [told], []⟩ else ⟨[told], [], []⟩

theorem Spinner.setter_cases (node : Node World) (shared : Shared World) (raw : Raw.Parameter) (time : Time) :
    (∃ reason world, ¬(Spinner.ofNode node).AcceptsSet shared (raw, time) ∧
      (Spinner.ofNode node).setter.answer shared (raw, time) = (⟨false, reason⟩, { shared with world })) ∨
    ∃ world event, (Spinner.ofNode node).AcceptsSet shared (raw, time) ∧
      event.changes = setChanges shared.parameters raw ∧
      (Spinner.ofNode node).setter.answer shared (raw, time) =
        (⟨true, []⟩, (shared.afterSet world raw.name (.ofRaw raw.value)).publish event) := by
  unfold AcceptsSet setter
  obtain ⟨reason, world, -, set⟩ | ⟨world, -, set⟩ :=
    node.setParameter_cases time raw.name (.ofRaw raw.value) shared
  · refine .inl ⟨reason, world, ?_, ?_⟩
    · simp [set time]
    · simp only [Parameter.ofRaw, set time, Raw.SetParametersResult.of]
  · refine .inr ⟨world, setEvent time node.nodeName.fullyQualifiedName raw.name (.ofRaw raw.value)
      (shared.parameters.contains raw.name), ?_, ?_, ?_⟩
    · simp only [set time]
    · unfold setChanges
      cases shared.parameters.contains raw.name <;> rfl
    · simp only [Parameter.ofRaw, set time, Raw.SetParametersResult.of]

theorem Zenoh.ParameterServer.setter_answers (server : ParameterServer) (raw : Raw.Parameter) (time : Time) :
    ∃ event, event.changes = setChanges server.store raw ∧ ParameterServer.setter.answer server (raw, time) =
      (⟨true, []⟩, { server with
        store := server.store.insert raw.name (.ofRaw raw.value)
        published := server.published ++ [event] }) := by
  show ∃ event, _ ∧ (let (result, after) := server.setAndNotify time raw.name (.ofRaw raw.value)
    (Raw.SetParametersResult.of result, after)) = _
  unfold setAndNotify setChanges
  by_cases present : server.store.contains raw.name = true
  · simp only [if_pos present]
    exact ⟨_, rfl, rfl⟩
  · simp only [if_neg present]
    exact ⟨_, rfl, rfl⟩

theorem setters_follow (node : Node World) (dds : List ParameterEvent) (zenoh : List Zenoh.ParameterEvent) :
    ((Spinner.ofNode node).setter.comap TimedSet.onDds).Follows (Zenoh.ParameterServer.setter.comap TimedSet.onZenoh)
      (BackendsAlike dds zenoh) (fun shared set => (Spinner.ofNode node).AcceptsSet shared set.onDds) where
  same_iff := by
    intro shared server _ set
    obtain ⟨_, _, answered⟩ := server.setter_answers set.1 set.2.2
    simp only [Responder.comap, TimedSet.onDds, TimedSet.onZenoh, answered]
    obtain ⟨reason, world, refused, set⟩ | ⟨world, event, accepted, -, set⟩ :=
      Spinner.setter_cases node shared set.1 set.2.1
    · simp [set, refused]
    · simp [set, accepted]
  related := by
    intro shared server alike set held
    obtain ⟨event', changes', answered⟩ := server.setter_answers set.1 set.2.2
    simp only [Responder.comap, TimedSet.onDds, TimedSet.onZenoh, answered] at held ⊢
    obtain ⟨_, _, refused, -⟩ | ⟨world, event, -, changes, set⟩ := Spinner.setter_cases node shared set.1 set.2.1
    · exact absurd held refused
    · rw [set]
      obtain ⟨store, events, events', told, told', same⟩ := alike
      refine ⟨?_, events ++ [event], events' ++ [event'], ?_, ?_, ?_⟩
      · simp [Shared.publish, Shared.afterSet, store]
      · simp [Shared.publish, Shared.afterSet, told]
      · simp [told']
      · simp [same, changes, changes', store]

theorem TimedRequest.sets_onDds (timed : TimedRequest) (req : SetParametersRequest) :
    (timed.sets req).map TimedSet.onDds = req.timed timed.ddsClock := by
  simp only [sets, SetParametersRequest.timed, List.map_map]
  rfl

theorem TimedRequest.sets_onZenoh (timed : TimedRequest) (req : SetParametersRequest) :
    (timed.sets req).map TimedSet.onZenoh = req.timed timed.zenohClock := by
  simp only [sets, SetParametersRequest.timed, List.map_map]
  rfl

theorem Spinner.getParameters_eq (server : Zenoh.ParameterServer) (req : GetParametersRequest) :
    Spinner.getParameters server.store req = server.handleGetParameters req := by
  simp only [getParameters, Zenoh.ParameterServer.handleGetParameters, TreeMap.getD_eq_getD_getElem?]

theorem Spinner.getParameterTypes_eq (server : Zenoh.ParameterServer) (req : GetParameterTypesRequest) :
    Spinner.getParameterTypes server.store req = server.handleGetParameterTypes req := by
  simp only [getParameterTypes, Zenoh.ParameterServer.handleGetParameterTypes, TreeMap.getD_eq_getD_getElem?]
  rfl

theorem Spinner.listParameters_eq (server : Zenoh.ParameterServer) (req : ListParametersRequest) :
    Spinner.listParameters server.store req = server.handleListParameters req := by
  unfold listParameters Zenoh.ParameterServer.handleListParameters
  rw [← List.filterMap_eq_filter]
  rfl

theorem answers_follow (node : Node World) (dds : List ParameterEvent) (zenoh : List Zenoh.ParameterEvent) :
    ((Spinner.ofNode node).answer.comap TimedRequest.onDds).Follows
      (Zenoh.ParameterServer.answer.comap TimedRequest.onZenoh) (BackendsAlike dds zenoh)
      (fun shared timed => (Spinner.ofNode node).Accepts shared timed.onDds) where
  same_iff := by
    intro shared server alike timed
    cases kind : timed.request with
    | setParameters req =>
      have same := (setters_follow node dds zenoh).run_same_iff alike (timed.sets req)
      rw [Responder.run_comap, Responder.run_comap, timed.sets_onDds, timed.sets_onZenoh, Responder.always_comap,
        timed.sets_onDds] at same
      simpa [Responder.comap, TimedRequest.onDds, TimedRequest.onZenoh, Spinner.answer, Zenoh.ParameterServer.answer,
        Spinner.Accepts, kind, Zenoh.ParameterServer.handleSetParameters_eq] using same
    | getParameters | getParameterTypes | listParameters =>
      simp only [Responder.comap, TimedRequest.onDds, TimedRequest.onZenoh, Spinner.answer,
        Zenoh.ParameterServer.answer, Spinner.Accepts, kind, alike.store, Spinner.getParameters_eq,
        Spinner.getParameterTypes_eq, Spinner.listParameters_eq]
    | setParametersAtomically | describeParameters =>
      simp only [Responder.comap, TimedRequest.onDds, TimedRequest.onZenoh, Spinner.answer,
        Zenoh.ParameterServer.answer, Spinner.Accepts, kind, alike.store, iff_true]
      rfl
  related := by
    intro shared server alike timed held
    cases kind : timed.request with
    | setParameters req =>
      have same := (setters_follow node dds zenoh).run_related alike (timed.sets req)
      rw [Responder.run_comap, Responder.run_comap, timed.sets_onDds, timed.sets_onZenoh, Responder.always_comap,
        timed.sets_onDds] at same
      simp only [Responder.comap, TimedRequest.onDds, TimedRequest.onZenoh, Spinner.answer,
        Zenoh.ParameterServer.answer, Spinner.Accepts, kind, Zenoh.ParameterServer.handleSetParameters_eq] at held ⊢
      exact same held
    | listParameters | getParameters | getParameterTypes | setParametersAtomically | describeParameters =>
      simpa [Responder.comap, TimedRequest.onDds, TimedRequest.onZenoh, Spinner.answer, Zenoh.ParameterServer.answer,
        kind] using alike

def Node.plain (nodeName : NodeName) (allowUndeclared : Bool) : Node World := ⟨nodeName, allowUndeclared, none, none⟩

section Plain

variable {nodeName : NodeName} {allowUndeclared : Bool} {shared : Shared World} {store : ParameterStore}

/-- The name may be set, and `use_sim_time` only to a Boolean. -/
def SetsPlainly (allowUndeclared : Bool) (store : ParameterStore) (parameter : Raw.Parameter) : Prop :=
  (allowUndeclared = true ∨ parameter.name ∈ store) ∧
    (parameter.name = useSimTimeName → ∃ flag, ParameterValue.ofRaw parameter.value = .boolean flag)

def ParameterRequest.SetsPlainly (allowUndeclared : Bool) (store : ParameterStore) : ParameterRequest → Prop
  | .setParameters req => ∀ parameter ∈ req.parameter, Ros2Client.SetsPlainly allowUndeclared store parameter
  | _ => True

/-- Where only declared parameters may be set, the names are the ones at the start. -/
def KeepsNames (allowUndeclared : Bool) (store : ParameterStore) (shared : Shared World) : Prop :=
  allowUndeclared = false → ∀ name, name ∈ shared.parameters ↔ name ∈ store

theorem plain_setParameter_iff (time : Time) (name : Str) (value : ParameterValue) :
    ((Spinner.ofNode (Node.plain nodeName allowUndeclared)).setParameter time name value shared).1 = .ok () ↔
      (allowUndeclared || shared.parameters.contains name) = true ∧
        (name = useSimTimeName → ∃ flag, value = .boolean flag) := by
  unfold Spinner.setParameter
  by_cases allowed : (allowUndeclared || shared.parameters.contains name) = true
  · rw [if_pos (show ((Spinner.ofNode (Node.plain nodeName allowUndeclared)).allowUndeclaredParameters || _) = true
      from allowed)]
    unfold Spinner.validateParameterOnSet Spinner.executeParameterSetActions
    by_cases clock : name = useSimTimeName
    · simp only [if_pos clock]
      cases value with
      | boolean flag => exact iff_of_true rfl ⟨allowed, fun _ => ⟨flag, rfl⟩⟩
      | _ =>
        refine iff_of_false (fun same => by cases same) ?_
        intro ⟨_, flagged⟩
        obtain ⟨_, same⟩ := flagged clock
        cases same
    · simp only [if_neg clock]
      exact iff_of_true rfl ⟨allowed, fun named => absurd named clock⟩
  · rw [if_neg (show ¬((Spinner.ofNode (Node.plain nodeName allowUndeclared)).allowUndeclaredParameters || _) = true
      from allowed)]
    exact iff_of_false (fun same => by cases same) fun plainly => allowed plainly.1

theorem plain_acceptsSet_iff (keeps : KeepsNames allowUndeclared store shared) (request : Raw.Parameter × Time) :
    (Spinner.ofNode (Node.plain nodeName allowUndeclared)).AcceptsSet shared request ↔
      SetsPlainly allowUndeclared store request.1 := by
  have named : (allowUndeclared || shared.parameters.contains request.1.name) = true ↔
      allowUndeclared = true ∨ request.1.name ∈ store := by
    cases allowUndeclared with
    | true => simp
    | false => simpa using keeps rfl request.1.name
  rw [SetsPlainly, ← named]
  exact plain_setParameter_iff request.2 request.1.name (.ofRaw request.1.value)

theorem plain_set_keeps (keeps : KeepsNames allowUndeclared store shared) (request : Raw.Parameter × Time)
    (plainly : SetsPlainly allowUndeclared store request.1) :
    KeepsNames allowUndeclared store
      ((Spinner.ofNode (Node.plain nodeName allowUndeclared)).setter.answer shared request).2 := by
  intro declared name
  obtain ⟨_, _, refused, -⟩ | ⟨world, event, -, -, set⟩ :=
    Spinner.setter_cases (Node.plain nodeName allowUndeclared) shared request.1 request.2
  · exact absurd ((plain_acceptsSet_iff keeps request).mpr plainly) refused
  · have present : request.1.name ∈ store := by
      rcases plainly.1 with allowed | present
      · rw [declared] at allowed
        cases allowed
      · exact present
    rw [set]
    show name ∈ shared.parameters.insert request.1.name (.ofRaw request.1.value) ↔ name ∈ store
    rw [TreeMap.mem_insert, keeps declared name, Std.compare_eq_iff_eq]
    constructor
    · rintro (rfl | old)
      · exact present
      · exact old
    · exact .inr

theorem plain_sets_iff (keeps : KeepsNames allowUndeclared store shared) (sets : List (Raw.Parameter × Time)) :
    (Spinner.ofNode (Node.plain nodeName allowUndeclared)).setter.Always
        (Spinner.ofNode (Node.plain nodeName allowUndeclared)).AcceptsSet shared sets ↔
      ∀ set ∈ sets, SetsPlainly allowUndeclared store set.1 :=
  Responder.always_iff _ (KeepsNames allowUndeclared store) (fun set => SetsPlainly allowUndeclared store set.1)
    (fun _ => plain_set_keeps) _ (fun _ => plain_acceptsSet_iff) keeps sets

theorem SetParametersRequest.forall_timed (req : SetParametersRequest) (clock : Nat → Time)
    (holds : Raw.Parameter → Prop) :
    (∀ set ∈ req.timed clock, holds set.1) ↔ ∀ parameter ∈ req.parameter, holds parameter := by
  have parameters : (req.timed clock).map Prod.fst = req.parameter := by
    simp only [timed, List.map_map]
    exact List.zipIdx_map_fst 0 req.parameter
  rw [← parameters, List.forall_mem_map]

theorem plain_accepts_iff (keeps : KeepsNames allowUndeclared store shared)
    (request : ParameterRequest × (Nat → Time)) :
    (Spinner.ofNode (Node.plain nodeName allowUndeclared)).Accepts shared request ↔
      request.1.SetsPlainly allowUndeclared store := by
  obtain ⟨request, clock⟩ := request
  cases request with
  | setParameters req =>
    exact (plain_sets_iff keeps (req.timed clock)).trans (req.forall_timed clock _)
  | _ => rfl

theorem plain_answer_keeps (keeps : KeepsNames allowUndeclared store shared)
    (request : ParameterRequest × (Nat → Time)) (plainly : request.1.SetsPlainly allowUndeclared store) :
    KeepsNames allowUndeclared store
      ((Spinner.ofNode (Node.plain nodeName allowUndeclared)).answer.answer shared request).2 := by
  obtain ⟨request, clock⟩ := request
  cases request with
  | setParameters req =>
    exact Responder.run_invariant _ (KeepsNames allowUndeclared store) _ (fun _ => plain_set_keeps) keeps
      (req.timed clock) ((req.forall_timed clock _).mpr plainly)
  | _ => exact keeps

end Plain

def ddsAnswers (node : Node World) (shared : Shared World) (requests : List TimedRequest) :
    List ParameterResponse × Shared World :=
  (Spinner.ofNode node).answer.run shared (requests.map TimedRequest.onDds)

def zenohAnswers (server : Zenoh.ParameterServer) (requests : List TimedRequest) :
    List ParameterResponse × Zenoh.ParameterServer :=
  Zenoh.ParameterServer.answer.run server (requests.map TimedRequest.onZenoh)

def AcceptsAll (node : Node World) (shared : Shared World) (requests : List TimedRequest) : Prop :=
  (Spinner.ofNode node).answer.Always (Spinner.ofNode node).Accepts shared (requests.map TimedRequest.onDds)

theorem answers_same_iff (node : Node World) {shared : Shared World} {server : Zenoh.ParameterServer}
    (same : shared.parameters = server.store) (requests : List TimedRequest) :
    ((ddsAnswers node shared requests).1 = (zenohAnswers server requests).1 ↔ AcceptsAll node shared requests) ∧
    (AcceptsAll node shared requests → BackendsAlike shared.published server.published
      (ddsAnswers node shared requests).2 (zenohAnswers server requests).2) := by
  have follows := answers_follow node shared.published server.published
  have start : BackendsAlike shared.published server.published shared server :=
    ⟨same, [], [], (List.append_nil _).symm, (List.append_nil _).symm, rfl⟩
  have same := follows.run_same_iff start requests
  have related := follows.run_related start requests
  rw [Responder.run_comap, Responder.run_comap, Responder.always_comap] at same related
  exact ⟨same, related⟩

theorem plain_acceptsAll_iff (nodeName : NodeName) (allowUndeclared : Bool) (shared : Shared World)
    (requests : List TimedRequest) : AcceptsAll (Node.plain nodeName allowUndeclared) shared requests ↔
      ∀ timed ∈ requests, timed.request.SetsPlainly allowUndeclared shared.parameters := by
  let spinner : Spinner World := Spinner.ofNode (Node.plain nodeName allowUndeclared)
  have accepts := Responder.always_iff spinner.answer (KeepsNames allowUndeclared shared.parameters)
    (fun request => request.1.SetsPlainly allowUndeclared shared.parameters) (fun _ => plain_answer_keeps)
    spinner.Accepts (fun _ => plain_accepts_iff) (fun _ _ => Iff.rfl) (requests.map TimedRequest.onDds)
  rw [List.forall_mem_map] at accepts
  exact accepts

/-- Nodes of the two backends that start with the same parameters answer any requests alike if and only if the DDS node
    refuses none of the sets, and then they also end with the same parameters and have published the same changes. A
    node without functions of its own refuses none if and only if the names may be set, and the flag is a Boolean. -/
theorem parameter_backends_alike_iff (shared : Shared World) (nodeFqn : Str) (published : List Zenoh.ParameterEvent)
    (requests : List TimedRequest) :
    let server : Zenoh.ParameterServer := ⟨nodeFqn, shared.parameters, published⟩
    (∀ node : Node World,
      ((ddsAnswers node shared requests).1 = (zenohAnswers server requests).1 ↔ AcceptsAll node shared requests) ∧
      (AcceptsAll node shared requests → BackendsAlike shared.published published
        (ddsAnswers node shared requests).2 (zenohAnswers server requests).2)) ∧
    ∀ (nodeName : NodeName) (allowUndeclared : Bool),
      (ddsAnswers (Node.plain nodeName allowUndeclared) shared requests).1 = (zenohAnswers server requests).1 ↔
        ∀ timed ∈ requests, timed.request.SetsPlainly allowUndeclared shared.parameters := by
  intro server
  have same : shared.parameters = server.store := rfl
  refine ⟨fun node => answers_same_iff node same requests, ?_⟩
  intro nodeName allowUndeclared
  rw [(answers_same_iff (Node.plain nodeName allowUndeclared) same requests).1]
  exact plain_acceptsAll_iff nodeName allowUndeclared shared requests

end Ros2Client
