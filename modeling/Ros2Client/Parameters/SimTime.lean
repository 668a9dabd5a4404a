import Ros2Client.Parameters.Interleaving
import Ros2Client.Transition.Threads

open Std (TreeMap)
open Transition

namespace Ros2Client

variable {World : Type} {node : Node World} {systemTime : Time}

def Shared.Coherent (shared : Shared World) : Prop :=
  shared.useSimTime = true ↔ shared.parameters[useSimTimeName]? = some (.boolean true)

/-- The value that a set of `use_sim_time` has written to the flag and not yet to the store. -/
def ParameterTask.pending : ParameterTask → Option ParameterValue
  | .store _ name value _ => if name = useSimTimeName then some value else none
  | _ => none

def ParameterTask.setting : ParameterTask → Bool
  | .check .. | .validate .. | .act .. | .store .. => true
  | _ => false

def ParameterState.quiet (state : ParameterState World) : Bool := state.tasks.all fun task => !task.setting

/-- A set of `use_sim_time` does not store the value of the flag while another one has a different value to store, and
    the name is not removed while the flag is on, unless a set has its value to store. -/
def ParameterState.careful (state : ParameterState World) : ParameterLabel → Bool
  | .advance index _ =>
    match state.tasks[index]? with
    | some (.store _ name value _) =>
      name ≠ useSimTimeName || value ≠ .boolean state.shared.useSimTime ||
        state.tasks.all fun task => task.pending.all (· = .boolean state.shared.useSimTime)
    | some (.remove name) =>
      name ≠ useSimTimeName || !state.shared.useSimTime || state.tasks.any (·.pending.isSome)
    | _ => true
  | _ => true

/-- Over all nodes that can be created, with any functions of the application. -/
def CoherentWhenQuiet (World : Type)
    (system : Node World → Shared World → System (ParameterState World) ParameterLabel) : Prop :=
  ∀ nodeName options world node shared, Node.new nodeName options world = (.ok node, shared) →
    ∀ state, (system node shared).Reachable state → state.quiet = true → state.shared.Coherent

theorem validateDeclared_keeps {declared : List (Str × ParameterValue)} {before after : Shared World}
    {result : Except Str Unit} (validation : node.validateDeclared declared before = (result, after))
    (off : ∀ entry ∈ declared, entry.1 = useSimTimeName → entry.2 = .boolean false)
    (flag : before.useSimTime = false) : after.useSimTime = false ∧ after.parameters = before.parameters := by
  induction declared generalizing before with
  | nil =>
    cases validation
    exact ⟨flag, rfl⟩
  | cons entry rest ih =>
    obtain ⟨name, value⟩ := entry
    have rest_off := fun entry member => off entry (List.mem_cons_of_mem _ member)
    obtain ⟨valid, validated, checked⟩ := node.validateParameterOnSet_cases name value before
    rw [Node.validateDeclared, checked] at validation
    cases valid with
    | error reason =>
      cases validation
      exact ⟨flag, rfl⟩
    | ok =>
      dsimp only at validation
      obtain ⟨reason, acted, action⟩ | ⟨acted, action, -⟩ :=
        node.executeParameterSetActions_cases name value { before with world := validated }
      · rw [action] at validation
        cases validation
        exact ⟨flag, rfl⟩
      · rw [action] at validation
        apply ih validation rest_off
        by_cases same : name = useSimTimeName
        · have written := off (name, value) List.mem_cons_self same
          dsimp only at written
          simp [flagAfter, same, written]
        · simp [flagAfter, same, flag]

theorem ofDeclared_useSimTime (declared : List Parameter) :
    (ParameterStore.ofDeclared (declared ++ [⟨useSimTimeName, .boolean false⟩]))[useSimTimeName]? =
      some (.boolean false) := by
  rw [ParameterStore.ofDeclared, List.foldl_append]
  exact TreeMap.getElem?_insert_self

/-- A new node starts with the declared store and the flag off. -/
theorem new_shared {nodeName : NodeName} {options : NodeOptions World} {world : World} {shared : Shared World}
    (created : Node.new nodeName options world = (.ok node, shared)) :
    shared.useSimTime = false ∧ shared.parameters =
      ParameterStore.ofDeclared (options.declaredParameters ++ [⟨useSimTimeName, .boolean false⟩]) := by
  have declared := ofDeclared_useSimTime options.declaredParameters
  simp only [Node.new] at created
  split at created
  · cases created
  · rename_i shared' validation
    cases created
    refine validateDeclared_keeps validation ?_ rfl
    intro entry member same
    have found := TreeMap.mem_toList_iff_getElem?_eq_some.mp member
    rw [same, declared] at found
    exact (Option.some.inj found).symm

theorem new_coherent {nodeName : NodeName} {options : NodeOptions World} {world : World} {shared : Shared World}
    (created : Node.new nodeName options world = (.ok node, shared)) : shared.Coherent := by
  obtain ⟨flag, store⟩ := new_shared created
  have empty : ¬some (ParameterValue.boolean false) = some (.boolean true) := by decide
  rw [Shared.Coherent, flag, store, ofDeclared_useSimTime]
  exact iff_of_false Bool.false_ne_true empty

inductive SimTimeStep (before after : Shared World) : ParameterTask → ParameterTask → Prop
  | other {task next : ParameterTask} (idle : task.pending = none) (idle' : next.pending = none)
      (flag : after.useSimTime = before.useSimTime)
      (entry : after.parameters[useSimTimeName]? = before.parameters[useSimTimeName]?) :
      SimTimeStep before after task next
  | act {task next : ParameterTask} (idle : task.pending = none)
      (written : next.pending = some (.boolean after.useSimTime)) : SimTimeStep before after task next
  | store {caller : Caller} {value : ParameterValue} {alreadySet : Bool} {next : ParameterTask}
      (idle' : next.pending = none) (flag : after.useSimTime = before.useSimTime)
      (entry : after.parameters[useSimTimeName]? = some value) :
      SimTimeStep before after (.store caller useSimTimeName value alreadySet) next
  | remove {next : ParameterTask} (idle' : next.pending = none) (flag : after.useSimTime = before.useSimTime)
      (entry : after.parameters[useSimTimeName]? = none) : SimTimeStep before after (.remove useSimTimeName) next

theorem erase_simTime (parameters : ParameterStore) (name : Str) : (parameters.erase name)[useSimTimeName]? =
    if name = useSimTimeName then none else parameters[useSimTimeName]? := by
  simp [TreeMap.getElem?_erase]

theorem SimTimeStep.erased {name : Str} {before : Shared World} {next : ParameterTask} (idle' : next.pending = none) :
    SimTimeStep before { before with parameters := before.parameters.erase name } (.remove name) next := by
  have entry := erase_simTime before.parameters name
  by_cases same : name = useSimTimeName
  · subst same
    exact .remove idle' rfl (entry.trans (if_pos rfl))
  · exact .other rfl idle' rfl (entry.trans (if_neg same))

theorem advance_simTime {task next : ParameterTask} {before after : Shared World}
    (advanced : task.Advances node before next after) : SimTimeStep before after task next := by
  cases advanced with
  | allowed _ | undeclared | invalid | valid | failed | published => exact .other rfl rfl rfl rfl
  | @acted caller name value alreadySet world boolean =>
    by_cases same : name = useSimTimeName
    · obtain ⟨flag, rfl⟩ := boolean same
      exact .act rfl (by simp [ParameterTask.pending, flagAfter, same])
    · exact .other rfl (by simp [ParameterTask.pending, same]) (by simp [flagAfter, same]) rfl
  | @stored caller name value alreadySet =>
    by_cases same : name = useSimTimeName
    · subst same
      exact .store rfl rfl TreeMap.getElem?_insert_self
    · refine .other (by simp [ParameterTask.pending, same]) rfl rfl ?_
      simp [Shared.insert, TreeMap.getElem?_insert, same]
  | removed | absent => exact .erased rfl

def ParameterState.Pending (state : ParameterState World) (index : Nat) (value : ParameterValue) : Prop :=
  ∃ task, state.tasks[index]? = some task ∧ task.pending = some value

/-- Either some set has the value of the flag to store, or none has anything to store and flag and store agree. -/
def ParameterState.Settled (state : ParameterState World) : Prop :=
  (∃ index, state.Pending index (.boolean state.shared.useSimTime)) ∨
    ((∀ index value, ¬state.Pending index value) ∧ state.shared.Coherent)

variable {state : ParameterState World} {index other : Nat} {task next : ParameterTask} {value : ParameterValue}
  {after : Shared World}

theorem pending_set_ne (different : index ≠ other) :
    (ParameterState.mk after (state.tasks.set index next)).Pending other value ↔ state.Pending other value := by
  simp only [ParameterState.Pending, List.getElem?_set_ne different]

theorem not_pending_set (idle : next.pending = none) :
    ¬(ParameterState.mk after (state.tasks.set index next)).Pending index value := by
  intro ⟨task, found, waits⟩
  exact (claim_elsewhere ParameterTask.pending idle found waits).1 rfl

theorem ParameterState.Pending.ne_idle (pending : state.Pending other value) (found : state.tasks[index]? = some task)
    (idle : task.pending = none) : index ≠ other := by
  rintro rfl
  obtain ⟨same, found', waits⟩ := pending
  rw [found] at found'
  cases found'
  rw [idle] at waits
  cases waits

theorem ParameterState.Settled.unaffected (held : state.Settled) (found : state.tasks[index]? = some task)
    (idle : task.pending = none) (idle' : next.pending = none) (flag : after.useSimTime = state.shared.useSimTime)
    (coherent : (∀ index value, ¬state.Pending index value) → state.shared.Coherent → after.Coherent) :
    (ParameterState.mk after (state.tasks.set index next)).Settled := by
  obtain ⟨waiting, pending⟩ | ⟨none_pending, agrees⟩ := held
  · have different := pending.ne_idle found idle
    rw [← flag] at pending
    exact .inl ⟨waiting, (pending_set_ne different).mpr pending⟩
  · refine .inr ⟨fun other value pending => ?_, coherent none_pending agrees⟩
    by_cases same : index = other
    · subst same
      exact not_pending_set idle' pending
    · exact none_pending other value ((pending_set_ne same).mp pending)

theorem ParameterState.Settled.store {caller : Caller} {alreadySet : Bool} (held : state.Settled)
    (found : state.tasks[index]? = some (.store caller useSimTimeName value alreadySet))
    (careful : state.careful (.advance index systemTime) = true)
    (idle' : next.pending = none) (flag : after.useSimTime = state.shared.useSimTime)
    (entry : after.parameters[useSimTimeName]? = some value) :
    (ParameterState.mk after (state.tasks.set index next)).Settled := by
  have waits : state.Pending index value := ⟨_, found, by simp [ParameterTask.pending]⟩
  by_cases stale : value = .boolean state.shared.useSimTime
  · have agree : ∀ task ∈ state.tasks, task.pending.all (· = .boolean state.shared.useSimTime) = true := by
      simp only [ParameterState.careful, found, stale, ne_eq, not_true_eq_false, decide_false, Bool.false_or,
        List.all_eq_true] at careful
      exact careful
    by_cases more : ∃ other value, index ≠ other ∧ state.Pending other value
    · obtain ⟨other, value', different, pending⟩ := more
      obtain ⟨task, found', waits'⟩ := pending
      have same := agree task (List.mem_of_getElem? found')
      rw [waits'] at same
      have current : value' = .boolean state.shared.useSimTime := of_decide_eq_true same
      refine .inl ⟨other, (pending_set_ne different).mpr ⟨task, found', ?_⟩⟩
      rw [waits', current, flag]
    · refine .inr ⟨fun other value' pending => ?_, ?_⟩
      · by_cases same : index = other
        · subst same
          exact not_pending_set idle' pending
        · exact more ⟨other, value', same, (pending_set_ne same).mp pending⟩
      · rw [Shared.Coherent, entry, stale, flag]
        simp
  · obtain ⟨waiting, pending⟩ | ⟨none_pending, -⟩ := held
    · have different : index ≠ waiting := by
        rintro rfl
        obtain ⟨task, found', current⟩ := pending
        obtain ⟨task', found'', mine⟩ := waits
        rw [found'] at found''
        cases found''
        rw [current] at mine
        exact stale (Option.some.inj mine).symm
      rw [← flag] at pending
      exact .inl ⟨waiting, (pending_set_ne different).mpr pending⟩
    · exact absurd waits (none_pending index value)

theorem ParameterState.Settled.advance (held : state.Settled) (found : state.tasks[index]? = some task)
    (careful : state.careful (.advance index systemTime) = true) (effect : SimTimeStep state.shared after task next) :
    (ParameterState.mk after (state.tasks.set index next)).Settled := by
  cases effect with
  | other idle idle' flag entry =>
    apply held.unaffected found idle idle' flag
    intro _ agrees
    rwa [Shared.Coherent, flag, entry]
  | act idle written =>
    refine .inl ⟨index, next, ?_, written⟩
    have bound := (List.getElem?_eq_some_iff.mp found).1
    exact List.getElem?_set_self bound
  | store idle' flag entry => exact held.store found careful idle' flag entry
  | remove idle' flag entry =>
    apply held.unaffected found rfl idle' flag
    intro none_pending _
    have off : state.shared.useSimTime = false := by
      simp only [ParameterState.careful, found, ne_eq, not_true_eq_false, decide_false, Bool.false_or,
        Bool.or_eq_true, Bool.not_eq_true', List.any_eq_true] at careful
      obtain off | ⟨task, member, waits⟩ := careful
      · exact off
      · obtain ⟨value, pending⟩ := Option.isSome_iff_exists.mp waits
        obtain ⟨position, found'⟩ := List.getElem?_of_mem member
        exact absurd ⟨task, found', pending⟩ (none_pending position value)
    rw [Shared.Coherent, flag, off, entry]
    simp

theorem ParameterState.Settled.start (held : state.Settled) (idle : task.pending = none) :
    (ParameterState.mk state.shared (state.tasks ++ [task])).Settled := by
  have same : ∀ index value,
      (ParameterState.mk state.shared (state.tasks ++ [task])).Pending index value ↔ state.Pending index value := by
    intro index value
    constructor
    · intro ⟨started, found, waits⟩
      exact ⟨started, claim_concat ParameterTask.pending idle found waits, waits⟩
    · intro ⟨started, found, waits⟩
      have inside := (List.getElem?_eq_some_iff.mp found).1
      exact ⟨started, (List.getElem?_append_left inside).trans found, waits⟩
  obtain ⟨index, pending⟩ | ⟨none_pending, agrees⟩ := held
  · exact .inl ⟨index, (same _ _).mpr pending⟩
  · exact .inr ⟨fun index value pending => none_pending index value ((same _ _).mp pending), agrees⟩

theorem ParameterState.Settled.step {label : ParameterLabel} {after : ParameterState World} (held : state.Settled)
    (careful : state.careful label = true) (stepped : state.step node label = some after) : after.Settled := by
  cases label with
  | set caller name value =>
    cases stepped
    exact held.start rfl
  | undeclare name =>
    cases stepped
    exact held.start rfl
  | advance index systemTime =>
    obtain ⟨task, found, advanced⟩ := Option.bind_eq_some_iff.mp stepped
    obtain ⟨⟨next, shared⟩, moved, after_eq⟩ := Option.bind_eq_some_iff.mp advanced
    cases after_eq
    exact held.advance found careful (advance_simTime (ParameterTask.advances moved))

theorem ParameterState.Settled.quiet (held : state.Settled) (quiet : state.quiet = true) : state.shared.Coherent := by
  obtain ⟨index, task, found, waits⟩ | ⟨-, agrees⟩ := held
  · have member := List.mem_of_getElem? found
    have settled := List.all_eq_true.mp quiet task member
    cases task <;> simp [ParameterTask.pending, ParameterTask.setting] at waits settled
  · exact agrees

theorem sim_time_flag_coherent (World : Type) : CoherentWhenQuiet World fun node shared =>
    (parameterCalls node shared).restrict fun state label => state.careful label = true := by
  intro nodeName options world node shared created state reachable quiet
  have settled : state.Settled := by
    refine reachable.invariant ParameterState.Settled ?_ ?_
    · refine .inr ⟨?_, new_coherent created⟩
      rintro index value ⟨task, found, -⟩
      cases found
    · intro before label after held stepped
      obtain ⟨careful, stepped⟩ := System.restrict_step.mp stepped
      exact held.step careful stepped
  exact settled.quiet quiet

def plainOptions : NodeOptions Unit where
  declaredParameters := []
  allowUndeclaredParameters := false
  parameterValidator := none
  parameterSetAction := none

def plainName : NodeName := ⟨"/".toList, "talker".toList, NodeName.check_talker⟩

def plainNode : Node Unit := ⟨plainName, false, none, none⟩

def plainShared : Shared Unit := (Node.new plainName plainOptions ()).2

/-- A set to true, and then the parameter is undeclared: the node goes on with the simulated time. -/
def undeclareSimTime : List ParameterLabel :=
  [.set .node useSimTimeName (.boolean true)] ++ List.replicate 5 (.advance 0 .zero) ++
    [.undeclare useSimTimeName, .advance 1 .zero, .advance 1 .zero]

theorem undeclared_sim_time_stays_on : ¬CoherentWhenQuiet Unit parameterCalls := by
  intro coherent
  have created : Node.new plainName plainOptions () = (.ok plainNode, plainShared) := rfl
  obtain ⟨state, reachable, checked⟩ := System.reachable_of_check (parameterCalls plainNode plainShared)
    undeclareSimTime
    (fun state => state.quiet && state.shared.useSimTime && !state.shared.parameters.contains useSimTimeName)
    (by decide)
  simp only [Bool.and_eq_true, Bool.not_eq_true', ← TreeMap.isSome_getElem?_eq_contains] at checked
  obtain ⟨⟨quiet, flag⟩, absent⟩ := checked
  have present := (coherent _ _ _ _ _ created state reachable quiet).mp flag
  rw [present] at absent
  cases absent

end Ros2Client
