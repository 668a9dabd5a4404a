import Ros2Client.Parameters.Value
import Ros2Client.Names.Name
import Ros2Client.Interfaces.Time
import Mathlib.Data.List.Forall2
import Std.Data.TreeMap.Lemmas

open Std (TreeMap)

namespace Ros2Client

abbrev ParameterStore := TreeMap Str ParameterValue

def useSimTimeName : Str := "use_sim_time".toList

/-- A validator or set action of the application, which may keep a state of its own. -/
abbrev ParameterFunc (World : Type) := Str → ParameterValue → World → Except Str Unit × World

/-- `raw::ParameterEvent`, its timestamp by the instant that it is made from. -/
structure ParameterEvent where
  timestamp : Time
  node : Str
  newParameters : List Raw.Parameter
  changedParameters : List Raw.Parameter
  deletedParameters : List Raw.Parameter
deriving DecidableEq

structure Shared (World : Type) where
  parameters : ParameterStore
  useSimTime : Bool
  simTime : Time
  world : World
  published : List ParameterEvent

structure NodeOptions (World : Type) where
  declaredParameters : List Parameter
  allowUndeclaredParameters : Bool
  parameterValidator : Option (ParameterFunc World)
  parameterSetAction : Option (ParameterFunc World)

structure Node (World : Type) where
  nodeName : NodeName
  allowUndeclaredParameters : Bool
  parameterValidator : Option (ParameterFunc World)
  parameterSetAction : Option (ParameterFunc World)

structure Spinner (World : Type) where
  fullyQualifiedNodeName : Str
  allowUndeclaredParameters : Bool
  parameterValidator : Option (ParameterFunc World)
  parameterSetAction : Option (ParameterFunc World)

variable {World : Type}

def Spinner.ofNode (node : Node World) : Spinner World where
  fullyQualifiedNodeName := node.nodeName.fullyQualifiedName
  allowUndeclaredParameters := node.allowUndeclaredParameters
  parameterValidator := node.parameterValidator
  parameterSetAction := node.parameterSetAction

def Shared.call (shared : Shared World) (func : ParameterFunc World) (name : Str) (value : ParameterValue) :
    Except Str Unit × Shared World :=
  let (result, world) := func name value shared.world
  (result, { shared with world })

def Shared.timeNow (shared : Shared World) (systemTime : Time) : Time :=
  if shared.useSimTime then shared.simTime else systemTime

def Shared.publish (shared : Shared World) (event : ParameterEvent) : Shared World :=
  { shared with published := shared.published ++ [event] }

def Shared.insert (shared : Shared World) (name : Str) (value : ParameterValue) : Shared World :=
  { shared with parameters := shared.parameters.insert name value }

def Node.validateParameterOnSet (node : Node World) (name : Str) (value : ParameterValue) (shared : Shared World) :
    Except Str Unit × Shared World :=
  if name = useSimTimeName then
    match value with
    | .boolean _ => (.ok (), shared)
    | _ => (.error "Parameter'use_sim_time' must be Boolean.".toList, shared)
  else
    match node.parameterValidator with
    | some validator => shared.call validator name value
    | none => (.ok (), shared)

def Node.executeParameterSetActions (node : Node World) (name : Str) (value : ParameterValue)
    (shared : Shared World) : Except Str Unit × Shared World :=
  if name = useSimTimeName then
    match value with
    | .boolean flag => (.ok (), { shared with useSimTime := flag })
    | _ => (.error "Parameter 'use_sim_time' must be Boolean.".toList, shared)
  else
    match node.parameterSetAction with
    | some action => shared.call action name value
    | none => (.ok (), shared)

def undeclaredParameter (name : Str) : Str :=
  "Setting undeclared parameter '".toList ++ name ++ "' is not allowed.".toList

def Node.setParameter (node : Node World) (systemTime : Time) (name : Str) (value : ParameterValue)
    (shared : Shared World) : Except Str Unit × Shared World :=
  let alreadySet := shared.parameters.contains name
  if node.allowUndeclaredParameters || alreadySet then
    match node.validateParameterOnSet name value shared with
    | (.error reason, shared) => (.error reason, shared)
    | (.ok (), shared) =>
      match node.executeParameterSetActions name value shared with
      | (.error reason, shared) => (.error reason, shared)
      | (.ok (), shared) =>
        let p : Raw.Parameter := ⟨name, value.toRaw⟩
        let (newParameters, changedParameters) := if alreadySet then ([], [p]) else ([p], [])
        let shared := shared.insert name value
        (.ok (), shared.publish {
          timestamp := shared.timeNow systemTime
          node := node.nodeName.fullyQualifiedName
          newParameters
          changedParameters
          deletedParameters := [] })
  else (.error (undeclaredParameter name), shared)

def Spinner.validateParameterOnSet (spinner : Spinner World) (name : Str) (value : ParameterValue)
    (shared : Shared World) : Except Str Unit × Shared World :=
  if name = useSimTimeName then
    match value with
    | .boolean _ => (.ok (), shared)
    | _ => (.error "Parameter'use_sim_time' must be Boolean.".toList, shared)
  else
    match spinner.parameterValidator with
    | some validator => shared.call validator name value
    | none => (.ok (), shared)

def Spinner.executeParameterSetActions (spinner : Spinner World) (name : Str) (value : ParameterValue)
    (shared : Shared World) : Except Str Unit × Shared World :=
  if name = useSimTimeName then
    match value with
    | .boolean flag => (.ok (), { shared with useSimTime := flag })
    | _ => (.error "Parameter 'use_sim_time' must be Boolean.".toList, shared)
  else
    match spinner.parameterSetAction with
    | some action => shared.call action name value
    | none => (.ok (), shared)

/-- Its event has the time of the system even when the node's time is simulated. -/
def Spinner.setParameter (spinner : Spinner World) (systemTime : Time) (name : Str) (value : ParameterValue)
    (shared : Shared World) : Except Str Unit × Shared World :=
  let alreadySet := shared.parameters.contains name
  if spinner.allowUndeclaredParameters || alreadySet then
    match spinner.validateParameterOnSet name value shared with
    | (.error reason, shared) => (.error reason, shared)
    | (.ok (), shared) =>
      match spinner.executeParameterSetActions name value shared with
      | (.error reason, shared) => (.error reason, shared)
      | (.ok (), shared) =>
        let p : Raw.Parameter := ⟨name, value.toRaw⟩
        let (newParameters, changedParameters) := if alreadySet then ([], [p]) else ([p], [])
        let shared := shared.insert name value
        (.ok (), shared.publish {
          timestamp := systemTime
          node := spinner.fullyQualifiedNodeName
          newParameters
          changedParameters
          deletedParameters := [] })
  else (.error (undeclaredParameter name), shared)

def Node.undeclareParameter (node : Node World) (systemTime : Time) (name : Str) (shared : Shared World) :
    Shared World :=
  let prevValue := shared.parameters[name]?
  let shared := { shared with parameters := shared.parameters.erase name }
  match prevValue with
  | some deletedParam =>
    shared.publish {
      timestamp := shared.timeNow systemTime
      node := node.nodeName.fullyQualifiedName
      newParameters := []
      changedParameters := []
      deletedParameters := [⟨name, deletedParam.toRaw⟩] }
  | none => shared

def flagAfter (name : Str) (value : ParameterValue) (flag : Bool) : Bool :=
  if name = useSimTimeName then value = .boolean true else flag

theorem Shared.call_eq (shared : Shared World) (func : ParameterFunc World) (name : Str) (value : ParameterValue) :
    shared.call func name value = ((func name value shared.world).1,
      { shared with world := (func name value shared.world).2 }) := rfl

theorem Node.validateParameterOnSet_cases (node : Node World) (name : Str) (value : ParameterValue)
    (shared : Shared World) : ∃ result world,
      node.validateParameterOnSet name value shared = (result, { shared with world }) := by
  unfold validateParameterOnSet
  split
  · split
    · exact ⟨_, shared.world, rfl⟩
    · exact ⟨_, shared.world, rfl⟩
  · split
    · rename_i validator _
      exact ⟨_, _, shared.call_eq validator name value⟩
    · exact ⟨_, shared.world, rfl⟩

theorem Node.executeParameterSetActions_cases (node : Node World) (name : Str) (value : ParameterValue)
    (shared : Shared World) :
    (∃ reason world, node.executeParameterSetActions name value shared = (.error reason, { shared with world })) ∨
    (∃ world, node.executeParameterSetActions name value shared =
        (.ok (), { shared with world, useSimTime := flagAfter name value shared.useSimTime }) ∧
      (name = useSimTimeName → ∃ flag, value = .boolean flag)) := by
  unfold executeParameterSetActions flagAfter
  split
  · split
    · rename_i flag
      refine .inr ⟨shared.world, ?_, fun _ => ⟨flag, rfl⟩⟩
      cases flag <;> rfl
    · exact .inl ⟨_, shared.world, rfl⟩
  · rename_i other
    split
    · rename_i action _
      rw [shared.call_eq]
      cases (action name value shared.world).1 with
      | error reason => exact .inl ⟨reason, _, rfl⟩
      | ok => exact .inr ⟨_, rfl, fun same => absurd same other⟩
    · exact .inr ⟨shared.world, rfl, fun same => absurd same other⟩

theorem Spinner.validateParameterOnSet_ofNode (node : Node World) (name : Str) (value : ParameterValue)
    (shared : Shared World) : (Spinner.ofNode node).validateParameterOnSet name value shared =
      node.validateParameterOnSet name value shared := rfl

theorem Spinner.executeParameterSetActions_ofNode (node : Node World) (name : Str) (value : ParameterValue)
    (shared : Shared World) : (Spinner.ofNode node).executeParameterSetActions name value shared =
      node.executeParameterSetActions name value shared := rfl

def setEvent (timestamp : Time) (node name : Str) (value : ParameterValue) (alreadySet : Bool) : ParameterEvent where
  timestamp
  node
  newParameters := if alreadySet then [] else [⟨name, value.toRaw⟩]
  changedParameters := if alreadySet then [⟨name, value.toRaw⟩] else []
  deletedParameters := []

def Shared.afterSet (shared : Shared World) (world : World) (name : Str) (value : ParameterValue) : Shared World :=
  { shared with
    world
    useSimTime := flagAfter name value shared.useSimTime
    parameters := shared.parameters.insert name value }

/-- A set that is refused leaves all but the state of the application's functions as it was. Otherwise it has
    written the flag, stored the value and published one event. -/
theorem Node.setParameter_cases (node : Node World) (systemTime : Time) (name : Str) (value : ParameterValue)
    (shared : Shared World) :
    (∃ reason world, node.setParameter systemTime name value shared = (.error reason, { shared with world }) ∧
      ∀ time, (Spinner.ofNode node).setParameter time name value shared = (.error reason, { shared with world })) ∨
    ∃ world, node.setParameter systemTime name value shared =
        (.ok (), (shared.afterSet world name value).publish
          (setEvent ((shared.afterSet world name value).timeNow systemTime) node.nodeName.fullyQualifiedName name value
            (shared.parameters.contains name))) ∧
      ∀ time, (Spinner.ofNode node).setParameter time name value shared =
        (.ok (), (shared.afterSet world name value).publish
          (setEvent time node.nodeName.fullyQualifiedName name value (shared.parameters.contains name))) := by
  unfold setParameter Spinner.setParameter
  simp only [Spinner.validateParameterOnSet_ofNode, Spinner.executeParameterSetActions_ofNode]
  by_cases allowed : (node.allowUndeclaredParameters || shared.parameters.contains name) = true
  · have allowed' : ((Spinner.ofNode node).allowUndeclaredParameters || shared.parameters.contains name) = true :=
      allowed
    simp only [allowed, allowed', if_true]
    obtain ⟨result, validated, validation⟩ := node.validateParameterOnSet_cases name value shared
    rw [validation]
    cases result with
    | error reason => exact .inl ⟨reason, validated, rfl, fun _ => rfl⟩
    | ok =>
      dsimp only
      obtain ⟨reason, acted, action⟩ | ⟨acted, action, -⟩ :=
        node.executeParameterSetActions_cases name value { shared with world := validated }
      · rw [action]
        exact .inl ⟨reason, acted, rfl, fun _ => rfl⟩
      · rw [action]
        refine .inr ⟨acted, ?_⟩
        cases shared.parameters.contains name
        · exact ⟨rfl, fun _ => rfl⟩
        · exact ⟨rfl, fun _ => rfl⟩
  · have refused : ¬((Spinner.ofNode node).allowUndeclaredParameters || shared.parameters.contains name) = true :=
      allowed
    simp only [if_neg allowed, if_neg refused]
    exact .inl ⟨_, shared.world, rfl, fun _ => rfl⟩

def ParameterEvent.SameButTimestamp (first second : ParameterEvent) : Prop :=
  { first with timestamp := second.timestamp } = second

structure SameOutcome (first second : Except Str Unit × Shared World) : Prop where
  result : first.1 = second.1
  parameters : first.2.parameters = second.2.parameters
  useSimTime : first.2.useSimTime = second.2.useSimTime
  world : first.2.world = second.2.world
  published : List.Forall₂ ParameterEvent.SameButTimestamp first.2.published second.2.published

/-- Setting is all or nothing. -/
def SetsAtomically (name : Str) (value : ParameterValue) (before : Shared World) :
    Except Str Unit × Shared World → Prop
  | (.error _, after) =>
    after.parameters = before.parameters ∧ after.useSimTime = before.useSimTime ∧ after.published = before.published
  | (.ok (), after) =>
    (∀ other, after.parameters[other]? = if name = other then some value else before.parameters[other]?) ∧
    ∃ event, after.published = before.published ++ [event] ∧ event.deletedParameters = [] ∧
      if name ∈ before.parameters then event.newParameters = [] ∧ event.changedParameters = [⟨name, value.toRaw⟩]
      else event.newParameters = [⟨name, value.toRaw⟩] ∧ event.changedParameters = []

theorem sameButTimestamp_refl (event : ParameterEvent) : event.SameButTimestamp event := rfl

theorem afterSet_atomic (shared : Shared World) (world : World) (name node : Str) (value : ParameterValue)
    (timestamp : Time) : SetsAtomically name value shared (.ok (), (shared.afterSet world name value).publish
      (setEvent timestamp node name value (shared.parameters.contains name))) := by
  refine ⟨fun other => ?_, _, rfl, rfl, ?_⟩
  · simp only [Shared.publish, Shared.afterSet, TreeMap.getElem?_insert, Std.compare_eq_iff_eq]
  · by_cases present : name ∈ shared.parameters
    · simp [present, setEvent]
    · simp [present, setEvent]

theorem parameter_set_copies_agree (node : Node World) (shared : Shared World) (name : Str) (value : ParameterValue)
    (nodeTime spinnerTime : Time) :
    SameOutcome (node.setParameter nodeTime name value shared)
        ((Spinner.ofNode node).setParameter spinnerTime name value shared) ∧
      SetsAtomically name value shared (node.setParameter nodeTime name value shared) ∧
      SetsAtomically name value shared ((Spinner.ofNode node).setParameter spinnerTime name value shared) := by
  have unchanged := List.forall₂_same.mpr fun event (_ : event ∈ shared.published) => sameButTimestamp_refl event
  obtain ⟨reason, world, onNode, onSpinner⟩ | ⟨world, onNode, onSpinner⟩ :=
    node.setParameter_cases nodeTime name value shared
  · rw [onNode, onSpinner]
    exact ⟨⟨rfl, rfl, rfl, rfl, unchanged⟩, ⟨rfl, rfl, rfl⟩, rfl, rfl, rfl⟩
  · rw [onNode, onSpinner]
    refine ⟨⟨rfl, rfl, rfl, rfl, ?_⟩, ?_, ?_⟩
    · exact List.rel_append unchanged (.cons rfl .nil)
    · exact afterSet_atomic shared world name _ value _
    · exact afterSet_atomic shared world name _ value _

end Ros2Client
