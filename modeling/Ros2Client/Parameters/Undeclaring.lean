import Ros2Client.Parameters.SimTime
import Ros2Client.Transition.Traces

open Std (TreeMap)
open Transition

namespace Ros2Client

variable {World : Type} {node : Node World} {systemTime : Time}

def ParameterTask.sets : ParameterTask → Option Str
  | .validate _ name _ _ | .act _ name _ _ | .store _ name _ _ => some name
  | _ => none

def ParameterTask.changes : ParameterTask → List Raw.Parameter
  | .publish _ _ changedParameters _ => changedParameters
  | _ => []

abbrev ParameterPast (World : Type) := List (ParameterState World × ParameterLabel)

def StoredPresent (past : ParameterPast World) (index : Nat) (parameter : Raw.Parameter) : Prop :=
  ∃ before systemTime caller value alreadySet, (before, .advance index systemTime) ∈ past ∧
    before.tasks[index]? = some (.store caller parameter.name value alreadySet) ∧
    parameter.value = value.toRaw ∧ parameter.name ∈ before.shared.parameters

structure NoRace (system : System (ParameterState World) ParameterLabel) : Prop where
  inserts : ∀ (state after : ParameterState World) (index : Nat) (systemTime : Time) (caller : Caller) (name : Str)
    (value : ParameterValue) (alreadySet : Bool), system.Reachable state →
    system.step state (.advance index systemTime) = some after →
    state.tasks[index]? = some (.store caller name value alreadySet) → name ∈ state.shared.parameters
  undeclared : ∀ (state after : ParameterState World) (label : ParameterLabel) (name : Str),
    system.Reachable state → system.step state label = some after →
    name ∉ state.shared.parameters → name ∉ after.shared.parameters
  /-- Events are published by calls that stand at their publication, with the changes they hold. -/
  changed : ∀ (state after : ParameterState World) (past : ParameterPast World) (index : Nat) (systemTime : Time)
    (task : ParameterTask), system.traced.Reachable (state, past) →
    system.step state (.advance index systemTime) = some after → state.tasks[index]? = some task →
    ∀ parameter ∈ task.changes, StoredPresent past index parameter

/-- Over all nodes that do not allow undeclared parameters, with any functions of the application. -/
def NeverRaces (World : Type)
    (system : Node World → Shared World → System (ParameterState World) ParameterLabel) : Prop :=
  ∀ nodeName options world node shared, Node.new nodeName options world = (.ok node, shared) →
    options.allowUndeclaredParameters = false → NoRace (system node shared)

/-- No set of a name stands between its check and its insert when the name is removed. -/
def ParameterState.removesUnset (state : ParameterState World) : ParameterLabel → Bool
  | .advance index _ =>
    match state.tasks[index]? with
    | some (.remove name) => state.tasks.all fun task => task.sets ≠ some name
    | _ => true
  | _ => true

inductive StoreStep (node : Node World) (before after : Shared World) : ParameterTask → ParameterTask → Prop
  | checked {task next : ParameterTask} {name : Str} (sets : next.sets = some name)
      (allowed : node.allowUndeclaredParameters = true ∨ name ∈ before.parameters) (silent : next.changes = [])
      (same : after.parameters = before.parameters) : StoreStep node before after task next
  | moved {task next : ParameterTask} (sets : next.sets = task.sets ∨ next.sets = none) (silent : next.changes = [])
      (same : after.parameters = before.parameters) : StoreStep node before after task next
  | stored {caller : Caller} {name : Str} {value : ParameterValue} {alreadySet : Bool} {next : ParameterTask}
      (sets : next.sets = none) (changes : ∀ parameter ∈ next.changes, parameter = ⟨name, value.toRaw⟩)
      (inserted : after.parameters = before.parameters.insert name value) :
      StoreStep node before after (.store caller name value alreadySet) next
  | removed {name : Str} {next : ParameterTask} (sets : next.sets = none) (silent : next.changes = [])
      (erased : after.parameters = before.parameters.erase name) : StoreStep node before after (.remove name) next

theorem advance_store {task next : ParameterTask} {before after : Shared World}
    (advanced : task.Advances node before next after) : StoreStep node before after task next := by
  cases advanced with
  | allowed declared => exact .checked rfl declared rfl rfl
  | valid | acted _ => exact .moved (.inl rfl) rfl rfl
  | undeclared | invalid | failed | published => exact .moved (.inr rfl) rfl rfl
  | @stored caller name value alreadySet =>
    have changes : ∀ parameter ∈ if alreadySet then [Raw.Parameter.mk name value.toRaw] else [],
        parameter = ⟨name, value.toRaw⟩ := by
      cases alreadySet <;> simp
    exact .stored rfl changes rfl
  | removed | absent => exact .removed rfl rfl rfl

def ParameterState.SetsPresent (state : ParameterState World) : Prop :=
  ∀ task ∈ state.tasks, ∀ name, task.sets = some name → name ∈ state.shared.parameters

variable {state : ParameterState World} {index : Nat} {task next : ParameterTask} {after : Shared World}

theorem removesUnset_apart {name : Str} (unset : state.removesUnset (.advance index systemTime) = true)
    (found : state.tasks[index]? = some (.remove name)) : ∀ task ∈ state.tasks, task.sets ≠ some name := by
  simpa only [ParameterState.removesUnset, found, List.all_eq_true, decide_eq_true_eq] using unset

/-- A name that a set relies on stays, whatever step is taken. -/
theorem StoreStep.keeps_relied {name : Str} (effect : StoreStep node state.shared after task next)
    (found : state.tasks[index]? = some task) (unset : state.removesUnset (.advance index systemTime) = true)
    (relied : ∃ task ∈ state.tasks, task.sets = some name) (present : name ∈ state.shared.parameters) :
    name ∈ after.parameters := by
  cases effect with
  | checked _ _ _ same | moved _ _ same =>
    rw [same]
    exact present
  | stored _ _ inserted =>
    rw [inserted, TreeMap.mem_insert]
    exact .inr present
  | removed _ _ erased =>
    obtain ⟨other, member, sets⟩ := relied
    have apart := removesUnset_apart unset found other member
    rw [erased, TreeMap.mem_erase, ne_eq, Std.compare_eq_iff_eq]
    refine ⟨?_, present⟩
    rintro rfl
    exact apart sets

theorem ParameterState.SetsPresent.advance (held : state.SetsPresent) (found : state.tasks[index]? = some task)
    (unset : state.removesUnset (.advance index systemTime) = true) (declared : node.allowUndeclaredParameters = false)
    (effect : StoreStep node state.shared after task next) :
    (ParameterState.mk after (state.tasks.set index next)).SetsPresent := by
  have member := List.mem_of_getElem? found
  intro other inside name sets
  rcases List.mem_or_eq_of_mem_set inside with old | rfl
  · exact effect.keeps_relied found unset ⟨other, old, sets⟩ (held other old name sets)
  · cases effect with
    | checked named allowed _ same =>
      show name ∈ after.parameters
      rw [same]
      rw [named] at sets
      cases sets
      exact allowed.resolve_left (by simp [declared])
    | moved kept _ same =>
      show name ∈ after.parameters
      rw [same]
      rcases kept with kept | none
      · exact held task member name (kept.symm.trans sets)
      · rw [none] at sets
        cases sets
    | stored none _ _ | removed none _ _ =>
      rw [none] at sets
      cases sets

theorem ParameterState.SetsPresent.step {label : ParameterLabel} {after : ParameterState World}
    (held : state.SetsPresent) (unset : state.removesUnset label = true)
    (declared : node.allowUndeclaredParameters = false) (stepped : state.step node label = some after) :
    after.SetsPresent := by
  cases label with
  | set | undeclare =>
    cases stepped
    intro task member name sets
    rcases List.mem_append.mp member with old | new
    · exact held task old name sets
    · rw [List.mem_singleton.mp new] at sets
      cases sets
  | advance index systemTime =>
    obtain ⟨task, found, advanced⟩ := Option.bind_eq_some_iff.mp stepped
    obtain ⟨⟨next, shared⟩, moved, after_eq⟩ := Option.bind_eq_some_iff.mp advanced
    cases after_eq
    exact held.advance found unset declared (advance_store (ParameterTask.advances moved))

/-- Only a set inserts, and what it inserts was there. -/
theorem ParameterState.SetsPresent.absent {label : ParameterLabel} {after : ParameterState World} {name : Str}
    (held : state.SetsPresent) (stepped : state.step node label = some after)
    (absent : name ∉ state.shared.parameters) : name ∉ after.shared.parameters := by
  cases label with
  | set | undeclare =>
    cases stepped
    exact absent
  | advance index systemTime =>
    obtain ⟨task, found, advanced⟩ := Option.bind_eq_some_iff.mp stepped
    obtain ⟨⟨next, shared⟩, moved, after_eq⟩ := Option.bind_eq_some_iff.mp advanced
    cases after_eq
    show name ∉ shared.parameters
    cases advance_store (ParameterTask.advances moved) with
    | checked _ _ _ same | moved _ _ same =>
      rw [same]
      exact absent
    | stored _ _ inserted =>
      have present := held _ (List.mem_of_getElem? found) _ rfl
      rw [inserted, TreeMap.mem_insert, Std.compare_eq_iff_eq]
      rintro (rfl | inside)
      · exact absent present
      · exact absent inside
    | removed _ _ erased =>
      rw [erased, TreeMap.mem_erase]
      exact fun inside => absent inside.2

def ChangesStored (state : ParameterState World) (past : ParameterPast World) : Prop :=
  ∀ (index : Nat) (task : ParameterTask), state.tasks[index]? = some task →
    ∀ parameter ∈ task.changes, StoredPresent past index parameter

theorem StoredPresent.later {past : ParameterPast World} {parameter : Raw.Parameter}
    (stored : StoredPresent past index parameter) (entry : ParameterState World × ParameterLabel) :
    StoredPresent (entry :: past) index parameter := by
  obtain ⟨before, systemTime, caller, value, alreadySet, member, rest⟩ := stored
  exact ⟨before, systemTime, caller, value, alreadySet, List.mem_cons_of_mem _ member, rest⟩

theorem ChangesStored.step {past : ParameterPast World} {label : ParameterLabel} {after : ParameterState World}
    (held : ChangesStored state past) (present : state.SetsPresent) (stepped : state.step node label = some after) :
    ChangesStored after ((state, label) :: past) := by
  cases label with
  | set | undeclare =>
    cases stepped
    intro index task found parameter member
    rcases lookup_concat found with old | ⟨_, rfl⟩
    · exact (held index task old parameter member).later _
    · cases member
  | advance moving systemTime =>
    obtain ⟨task, found, advanced⟩ := Option.bind_eq_some_iff.mp stepped
    obtain ⟨⟨next, shared⟩, moved, after_eq⟩ := Option.bind_eq_some_iff.mp advanced
    cases after_eq
    intro index other inside parameter member
    rcases lookup_set inside with ⟨rfl, rfl⟩ | ⟨_, old⟩
    · cases advance_store (ParameterTask.advances moved) with
      | checked _ _ silent _ | moved _ silent _ | removed _ silent _ =>
        rw [silent] at member
        cases member
      | stored _ changes _ =>
        rw [changes parameter member]
        exact ⟨state, systemTime, _, _, _, List.mem_cons_self, found, rfl,
          present _ (List.mem_of_getElem? found) _ rfl⟩
    · exact (held index other old parameter member).later _

theorem setting_never_races (World : Type) : NeverRaces World fun node shared =>
    (parameterCalls node shared).restrict fun state label => state.removesUnset label = true := by
  intro nodeName options world node shared created undeclared
  have declared : node.allowUndeclaredParameters = false := by
    simp only [Node.new] at created
    split at created
    · cases created
    · cases created
      exact undeclared
  have present : ∀ state, ((parameterCalls node shared).restrict fun state label =>
      state.removesUnset label = true).Reachable state → state.SetsPresent := by
    intro state reachable
    refine reachable.invariant ParameterState.SetsPresent ?_ ?_
    · intro task member
      cases member
    · intro before label after held stepped
      obtain ⟨unset, stepped⟩ := System.restrict_step.mp stepped
      exact held.step unset declared stepped
  refine ⟨?_, ?_, ?_⟩
  · intro state after index systemTime caller name value alreadySet reachable _ found
    exact present state reachable _ (List.mem_of_getElem? found) name rfl
  · intro state after label name reachable stepped absent
    exact (present state reachable).absent (System.restrict_step.mp stepped).2 absent
  · intro state after past index systemTime task traced _ found
    have stored : ∀ traced, ((parameterCalls node shared).restrict fun state label =>
        state.removesUnset label = true).traced.Reachable traced → ChangesStored traced.1 traced.2 := by
      intro traced reachable
      induction reachable with
      | initial =>
        intro index task found
        cases found
      | @step before reached label earlier stepped held =>
        obtain ⟨moved, remembered⟩ := System.traced_step.mp stepped
        rw [remembered]
        exact held.step (present _ earlier.of_traced) (System.restrict_step.mp moved).2
    exact stored _ traced index task found

/-- A set of a declared parameter has found it there when the application undeclares it. -/
def setDuringUndeclare : List ParameterLabel :=
  [.set .spinner useSimTimeName (.boolean false), .advance 0 .zero, .undeclare useSimTimeName, .advance 1 .zero,
   .advance 0 .zero, .advance 0 .zero]

theorem undeclared_parameter_reappears : ¬NeverRaces Unit parameterCalls := by
  intro never
  have created : Node.new plainName plainOptions () = (.ok plainNode, plainShared) := rfl
  obtain ⟨state, reachable, checked⟩ := System.reachable_of_check (parameterCalls plainNode plainShared)
    setDuringUndeclare
    (fun state => state.tasks[0]? = some (.store .spinner useSimTimeName (.boolean false) true) &&
      !state.shared.parameters.contains useSimTimeName) (by decide)
  simp only [Bool.and_eq_true, decide_eq_true_eq, Bool.not_eq_true'] at checked
  obtain ⟨found, absent⟩ := checked
  obtain ⟨after, stepped⟩ : ∃ after, (parameterCalls plainNode plainShared).step state (.advance 0 .zero) =
      some after := by
    simp [parameterCalls, ParameterState.step, found, ParameterTask.advance]
  have present := (never _ _ _ _ _ created rfl).inserts state after 0 .zero .spinner useSimTimeName _ true reachable
    stepped found
  rw [← TreeMap.contains_iff_mem, absent] at present
  cases present

end Ros2Client
