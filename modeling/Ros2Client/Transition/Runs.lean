import Mathlib.Data.List.Forall2
import Mathlib.Data.Option.Basic

namespace Transition

/-- A labelled system. A label carries everything its step does not decide by itself (who
    moves, what the environment delivers); a label that is not enabled steps to `none`. -/
structure System (State Label : Type) where
  initial : State
  step : State → Label → Option State

variable {State Label : Type}

def System.run (system : System State Label) : State → List Label → Option State
  | state, [] => some state
  | state, label :: labels => (system.step state label).bind (system.run · labels)

inductive System.Reachable (system : System State Label) : State → Prop
  | initial : Reachable system system.initial
  | step {before after : State} {label : Label} :
      Reachable system before → system.step before label = some after → Reachable system after

def System.restrict (system : System State Label) (guard : State → Label → Prop)
    [∀ state label, Decidable (guard state label)] : System State Label where
  initial := system.initial
  step state label := if guard state label then system.step state label else none

theorem System.restrict_step {system : System State Label} {guard : State → Label → Prop}
    [∀ state label, Decidable (guard state label)] {before after : State} {label : Label} :
    (system.restrict guard).step before label = some after ↔
      guard before label ∧ system.step before label = some after := by
  simp [System.restrict]

theorem System.Reachable.of_restrict {system : System State Label} {guard : State → Label → Prop}
    [∀ state label, Decidable (guard state label)] {state : State}
    (reachable : (system.restrict guard).Reachable state) : system.Reachable state := by
  induction reachable with
  | initial => exact .initial
  | step _ stepped ih => exact ih.step (System.restrict_step.mp stepped).2

/-- The induction rule of a system: what holds initially and is kept by every step is invariant. -/
theorem System.Reachable.invariant {system : System State Label} (holds : State → Prop)
    (initial : holds system.initial)
    (preserved : ∀ before label after, holds before → system.step before label = some after → holds after)
    {state : State} (reachable : system.Reachable state) : holds state := by
  induction reachable with
  | initial => exact initial
  | step _ stepped ih => exact preserved _ _ _ ih stepped

theorem System.run_append {system : System State Label} {start finish : State} {first second : List Label} :
    system.run start (first ++ second) = some finish ↔
      ∃ middle, system.run start first = some middle ∧ system.run middle second = some finish := by
  induction first generalizing start with
  | nil => simp [System.run]
  | cons label labels ih =>
    simp only [List.cons_append, System.run, Option.bind_eq_some_iff, ih]
    grind

/-- What every step of an allowed kind keeps is kept by a run of such steps. -/
theorem System.run_invariant {system : System State Label} (allowed : Label → Prop) (holds : State → Prop)
    (preserved : ∀ before label after, allowed label → holds before → system.step before label = some after →
      holds after) {start finish : State} {labels : List Label} (held : holds start)
    (all : ∀ label ∈ labels, allowed label) (ran : system.run start labels = some finish) : holds finish := by
  induction labels generalizing start with
  | nil =>
    cases ran
    exact held
  | cons label labels ih =>
    obtain ⟨middle, stepped, rest⟩ := Option.bind_eq_some_iff.mp ran
    have next := preserved start label middle (all label (by simp)) held stepped
    exact ih next (fun later member => all later (by simp [member])) rest

theorem System.reachable_of_run {system : System State Label} {labels : List Label} {start finish : State}
    (reachable : system.Reachable start) (ran : system.run start labels = some finish) :
    system.Reachable finish := by
  refine System.run_invariant (fun _ => True) system.Reachable ?_ reachable (fun _ _ => trivial) ran
  intro before label after _ reached stepped
  exact reached.step stepped

theorem System.reachable_of_check (system : System State Label) (labels : List Label) (check : State → Bool)
    (checked : (system.run system.initial labels).any check = true) :
    ∃ state, system.Reachable state ∧ check state = true := by
  cases ran : system.run system.initial labels with
  | none => simp [ran] at checked
  | some state => exact ⟨state, reachable_of_run .initial ran, by simpa [ran] using checked⟩

/-- Two systems that answer each other's labels step for step do so over whole runs. -/
theorem System.run_simulates {Other OtherLabel : Type} {system : System State Label} {other : System Other OtherLabel}
    {related : State → Other → Prop} {answers : Label → OtherLabel → Prop}
    (steps : ∀ first second label label', related first second → answers label label' →
      Option.Rel related (system.step first label) (other.step second label'))
    {first : State} {second : Other} {labels : List Label} {labels' : List OtherLabel}
    (start : related first second) (answered : List.Forall₂ answers labels labels') :
    Option.Rel related (system.run first labels) (other.run second labels') := by
  induction answered generalizing first second with
  | nil => exact .some start
  | @cons label label' _ _ head _ ih =>
    have next := steps first second label label' start head
    simp only [System.run]
    generalize system.step first label = after at next
    generalize other.step second label' = after' at next
    cases next with
    | none => exact .none
    | some held => exact ih held

end Transition
