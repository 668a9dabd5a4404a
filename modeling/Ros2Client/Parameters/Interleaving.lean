import Ros2Client.Parameters.Setting
import Ros2Client.Transition.Runs

open Std (TreeMap)
open Transition

namespace Ros2Client

variable {World : Type}

inductive NodeCreateError
  | badParameter (reason : Str)
deriving DecidableEq

def ParameterStore.ofDeclared (declared : List Parameter) : ParameterStore :=
  declared.foldl (fun parameters parameter => parameters.insert parameter.name parameter.value) ∅

def Node.validateDeclared (node : Node World) :
    List (Str × ParameterValue) → Shared World → Except Str Unit × Shared World
  | [], shared => (.ok (), shared)
  | (name, value) :: rest, shared =>
    match node.validateParameterOnSet name value shared with
    | (.error reason, shared) => (.error reason, shared)
    | (.ok (), shared) =>
      match node.executeParameterSetActions name value shared with
      | (.error reason, shared) => (.error reason, shared)
      | (.ok (), shared) => node.validateDeclared rest shared

def Node.new (nodeName : NodeName) (options : NodeOptions World) (world : World) :
    Except NodeCreateError (Node World) × Shared World :=
  let declaredParameters := options.declaredParameters ++ [⟨useSimTimeName, .boolean false⟩]
  let parameters := ParameterStore.ofDeclared declaredParameters
  let node : Node World := {
    nodeName
    allowUndeclaredParameters := options.allowUndeclaredParameters
    parameterValidator := options.parameterValidator
    parameterSetAction := options.parameterSetAction }
  let shared : Shared World := { parameters, useSimTime := false, simTime := .zero, world, published := [] }
  match node.validateDeclared parameters.toList shared with
  | (.error reason, shared) => (.error (.badParameter reason), shared)
  | (.ok (), shared) => (.ok node, shared)

inductive Caller
  | node
  | spinner
deriving DecidableEq

/-- A call in progress, by the step that it takes next. -/
inductive ParameterTask
  | check (caller : Caller) (name : Str) (value : ParameterValue)
  | validate (caller : Caller) (name : Str) (value : ParameterValue) (alreadySet : Bool)
  | act (caller : Caller) (name : Str) (value : ParameterValue) (alreadySet : Bool)
  | store (caller : Caller) (name : Str) (value : ParameterValue) (alreadySet : Bool)
  | remove (name : Str)
  | publish (caller : Caller) (newParameters changedParameters deletedParameters : List Raw.Parameter)
  | returned (result : Except Str Unit)
deriving DecidableEq

def Caller.allowUndeclaredParameters (node : Node World) : Caller → Bool
  | .node => node.allowUndeclaredParameters
  | .spinner => (Spinner.ofNode node).allowUndeclaredParameters

def Caller.validateParameterOnSet (node : Node World) :
    Caller → Str → ParameterValue → Shared World → Except Str Unit × Shared World
  | .node => node.validateParameterOnSet
  | .spinner => (Spinner.ofNode node).validateParameterOnSet

def Caller.executeParameterSetActions (node : Node World) :
    Caller → Str → ParameterValue → Shared World → Except Str Unit × Shared World
  | .node => node.executeParameterSetActions
  | .spinner => (Spinner.ofNode node).executeParameterSetActions

def Caller.timestamp (shared : Shared World) (systemTime : Time) : Caller → Time
  | .node => shared.timeNow systemTime
  | .spinner => systemTime

def Caller.nodeName (node : Node World) : Caller → Str
  | .node => node.nodeName.fullyQualifiedName
  | .spinner => (Spinner.ofNode node).fullyQualifiedNodeName

/-- One step: a critical section, a call of one of the application's functions or a publication. -/
def ParameterTask.advance (node : Node World) (systemTime : Time) (shared : Shared World) :
    ParameterTask → Option (ParameterTask × Shared World)
  | .check caller name value =>
    let alreadySet := shared.parameters.contains name
    if caller.allowUndeclaredParameters node || alreadySet then some (.validate caller name value alreadySet, shared)
    else some (.returned (.error (undeclaredParameter name)), shared)
  | .validate caller name value alreadySet =>
    match caller.validateParameterOnSet node name value shared with
    | (.error reason, shared) => some (.returned (.error reason), shared)
    | (.ok (), shared) => some (.act caller name value alreadySet, shared)
  | .act caller name value alreadySet =>
    match caller.executeParameterSetActions node name value shared with
    | (.error reason, shared) => some (.returned (.error reason), shared)
    | (.ok (), shared) => some (.store caller name value alreadySet, shared)
  | .store caller name value alreadySet =>
    let p : Raw.Parameter := ⟨name, value.toRaw⟩
    let (newParameters, changedParameters) := if alreadySet then ([], [p]) else ([p], [])
    some (.publish caller newParameters changedParameters [], shared.insert name value)
  | .remove name =>
    let removed := { shared with parameters := shared.parameters.erase name }
    match shared.parameters[name]? with
    | some deletedParam => some (.publish .node [] [] [⟨name, deletedParam.toRaw⟩], removed)
    | none => some (.returned (.ok ()), removed)
  | .publish caller newParameters changedParameters deletedParameters =>
    some (.returned (.ok ()), shared.publish {
      timestamp := caller.timestamp shared systemTime
      node := caller.nodeName node
      newParameters
      changedParameters
      deletedParameters })
  | .returned _ => none

structure ParameterState (World : Type) where
  shared : Shared World
  tasks : List ParameterTask

inductive ParameterLabel
  | set (caller : Caller) (name : Str) (value : ParameterValue)
  | undeclare (name : Str)
  | advance (index : Nat) (systemTime : Time)
deriving DecidableEq

def ParameterState.step (node : Node World) (state : ParameterState World) :
    ParameterLabel → Option (ParameterState World)
  | .set caller name value => some { state with tasks := state.tasks ++ [.check caller name value] }
  | .undeclare name => some { state with tasks := state.tasks ++ [.remove name] }
  | .advance index systemTime => do
    let task ← state.tasks[index]?
    let (task, shared) ← task.advance node systemTime state.shared
    return ⟨shared, state.tasks.set index task⟩

def parameterCalls (node : Node World) (shared : Shared World) : System (ParameterState World) ParameterLabel where
  initial := ⟨shared, []⟩
  step := ParameterState.step node

def ParameterTask.alone (node : Node World) (systemTime : Time) :
    Nat → ParameterTask → Shared World → ParameterTask × Shared World
  | 0, task, shared => (task, shared)
  | steps + 1, task, shared =>
    match task.advance node systemTime shared with
    | some (task, shared) => task.alone node systemTime steps shared
    | none => (task, shared)

theorem alone_advance {node : Node World} {systemTime : Time} {task next : ParameterTask} {before after : Shared World}
    (advanced : task.advance node systemTime before = some (next, after)) (steps : Nat) :
    task.alone node systemTime (steps + 1) before = next.alone node systemTime steps after := by
  rw [ParameterTask.alone, advanced]

theorem alone_returned (node : Node World) (systemTime : Time) (steps : Nat) (result : Except Str Unit)
    (shared : Shared World) :
    (ParameterTask.returned result).alone node systemTime steps shared = (.returned result, shared) := by
  cases steps <;> rfl

@[simp] theorem Caller.allowUndeclaredParameters_eq (node : Node World) (caller : Caller) :
    caller.allowUndeclaredParameters node = node.allowUndeclaredParameters := by
  cases caller <;> rfl

@[simp] theorem Caller.validateParameterOnSet_eq (node : Node World) (caller : Caller) :
    caller.validateParameterOnSet node = node.validateParameterOnSet := by
  cases caller <;> rfl

@[simp] theorem Caller.executeParameterSetActions_eq (node : Node World) (caller : Caller) :
    caller.executeParameterSetActions node = node.executeParameterSetActions := by
  cases caller <;> rfl

inductive ParameterTask.Advances (node : Node World) (before : Shared World) :
    ParameterTask → ParameterTask → Shared World → Prop
  | allowed {caller : Caller} {name : Str} {value : ParameterValue}
      (declared : node.allowUndeclaredParameters = true ∨ name ∈ before.parameters) :
      Advances node before (.check caller name value)
        (.validate caller name value (before.parameters.contains name)) before
  | undeclared {caller : Caller} {name : Str} {value : ParameterValue} :
      Advances node before (.check caller name value) (.returned (.error (undeclaredParameter name))) before
  | invalid {caller : Caller} {name reason : Str} {value : ParameterValue} {alreadySet : Bool} {world : World} :
      Advances node before (.validate caller name value alreadySet) (.returned (.error reason)) { before with world }
  | valid {caller : Caller} {name : Str} {value : ParameterValue} {alreadySet : Bool} {world : World} :
      Advances node before (.validate caller name value alreadySet) (.act caller name value alreadySet)
        { before with world }
  | failed {caller : Caller} {name reason : Str} {value : ParameterValue} {alreadySet : Bool} {world : World} :
      Advances node before (.act caller name value alreadySet) (.returned (.error reason)) { before with world }
  | acted {caller : Caller} {name : Str} {value : ParameterValue} {alreadySet : Bool} {world : World}
      (boolean : name = useSimTimeName → ∃ flag, value = .boolean flag) :
      Advances node before (.act caller name value alreadySet) (.store caller name value alreadySet)
        { before with world, useSimTime := flagAfter name value before.useSimTime }
  | stored {caller : Caller} {name : Str} {value : ParameterValue} {alreadySet : Bool} :
      Advances node before (.store caller name value alreadySet)
        (.publish caller (if alreadySet then [] else [⟨name, value.toRaw⟩])
          (if alreadySet then [⟨name, value.toRaw⟩] else []) []) (before.insert name value)
  | removed {name : Str} {value : ParameterValue} :
      Advances node before (.remove name) (.publish .node [] [] [⟨name, value.toRaw⟩])
        { before with parameters := before.parameters.erase name }
  | absent {name : Str} :
      Advances node before (.remove name) (.returned (.ok ()))
        { before with parameters := before.parameters.erase name }
  | published {caller : Caller} {newParameters changedParameters deletedParameters : List Raw.Parameter}
      {event : ParameterEvent} :
      Advances node before (.publish caller newParameters changedParameters deletedParameters) (.returned (.ok ()))
        (before.publish event)

theorem ParameterTask.advances {node : Node World} {systemTime : Time} {task next : ParameterTask}
    {before after : Shared World} (advanced : task.advance node systemTime before = some (next, after)) :
    task.Advances node before next after := by
  cases task with
  | check caller name value =>
    simp only [ParameterTask.advance, Caller.allowUndeclaredParameters_eq] at advanced
    split at advanced
    · rename_i allowed
      cases advanced
      rw [Bool.or_eq_true, TreeMap.contains_iff_mem] at allowed
      exact .allowed allowed
    · cases advanced
      exact .undeclared
  | validate caller name value alreadySet =>
    obtain ⟨result, world, validation⟩ := node.validateParameterOnSet_cases name value before
    simp only [ParameterTask.advance, Caller.validateParameterOnSet_eq, validation] at advanced
    cases result with
    | error reason =>
      cases advanced
      exact .invalid
    | ok =>
      cases advanced
      exact .valid
  | act caller name value alreadySet =>
    simp only [ParameterTask.advance, Caller.executeParameterSetActions_eq] at advanced
    obtain ⟨reason, world, action⟩ | ⟨world, action, boolean⟩ := node.executeParameterSetActions_cases name value before
    · rw [action] at advanced
      cases advanced
      exact .failed
    · rw [action] at advanced
      cases advanced
      exact .acted boolean
  | store caller name value alreadySet =>
    cases alreadySet with
    | false =>
      cases advanced
      exact .stored
    | true =>
      cases advanced
      exact .stored
  | remove name =>
    simp only [ParameterTask.advance] at advanced
    split at advanced
    · cases advanced
      exact .removed
    · cases advanced
      exact .absent
  | publish caller newParameters changedParameters deletedParameters =>
    cases advanced
    exact .published
  | returned result => cases advanced

def Caller.setParameter (node : Node World) :
    Caller → Time → Str → ParameterValue → Shared World → Except Str Unit × Shared World
  | .node => node.setParameter
  | .spinner => (Spinner.ofNode node).setParameter

/-- The steps of a call, taken alone, are the function of the source. -/
theorem alone_check (node : Node World) (caller : Caller) (systemTime : Time) (name : Str) (value : ParameterValue)
    (shared : Shared World) : (ParameterTask.check caller name value).alone node systemTime 5 shared =
      (.returned (caller.setParameter node systemTime name value shared).1,
        (caller.setParameter node systemTime name value shared).2) := by
  have called : caller.setParameter node systemTime name value shared =
      if node.allowUndeclaredParameters || shared.parameters.contains name then
        match node.validateParameterOnSet name value shared with
        | (.error reason, shared) => (.error reason, shared)
        | (.ok (), validated) =>
          match node.executeParameterSetActions name value validated with
          | (.error reason, shared) => (.error reason, shared)
          | (.ok (), acted) => (.ok (), (acted.insert name value).publish
              (setEvent (caller.timestamp (acted.insert name value) systemTime) (caller.nodeName node) name value
                (shared.parameters.contains name)))
      else (.error (undeclaredParameter name), shared) := by
    unfold setEvent
    cases caller
    all_goals
      simp only [Caller.setParameter, Node.setParameter, Spinner.setParameter]
      cases shared.parameters.contains name <;> rfl
  rw [called]
  by_cases allowed : (node.allowUndeclaredParameters || shared.parameters.contains name) = true
  · have checked : (ParameterTask.check caller name value).advance node systemTime shared =
        some (.validate caller name value (shared.parameters.contains name), shared) := by
      simp only [ParameterTask.advance, Caller.allowUndeclaredParameters_eq, if_pos allowed]
    rw [alone_advance checked, if_pos allowed]
    rcases validation : node.validateParameterOnSet name value shared with ⟨reason | _, validated⟩
    · simp only [ParameterTask.alone, ParameterTask.advance, Caller.validateParameterOnSet_eq, validation]
    · rcases action : node.executeParameterSetActions name value validated with ⟨reason | _, acted⟩
      · simp only [ParameterTask.alone, ParameterTask.advance, Caller.validateParameterOnSet_eq, validation,
          Caller.executeParameterSetActions_eq, action]
      · simp only [ParameterTask.alone, ParameterTask.advance, Caller.validateParameterOnSet_eq, validation,
          Caller.executeParameterSetActions_eq, action]
        cases shared.parameters.contains name <;> rfl
  · have refused : (ParameterTask.check caller name value).advance node systemTime shared =
        some (.returned (.error (undeclaredParameter name)), shared) := by
      simp only [ParameterTask.advance, Caller.allowUndeclaredParameters_eq, if_neg allowed]
    rw [alone_advance refused, alone_returned, if_neg allowed]

theorem alone_remove (node : Node World) (systemTime : Time) (name : Str) (shared : Shared World) :
    (ParameterTask.remove name).alone node systemTime 2 shared =
      (.returned (.ok ()), node.undeclareParameter systemTime name shared) := by
  simp only [Node.undeclareParameter, ParameterTask.alone, ParameterTask.advance]
  cases shared.parameters[name]? <;> rfl

end Ros2Client
