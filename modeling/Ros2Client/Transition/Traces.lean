import Ros2Client.Transition.Runs

namespace Transition

variable {State Label : Type} {system : System State Label}

/-- The system that remembers its steps, the last one first: each by the state before it and its
    label. -/
def System.traced (system : System State Label) : System (State × List (State × Label)) Label where
  initial := (system.initial, [])
  step before label := (system.step before.1 label).map fun after => (after, (before.1, label) :: before.2)

theorem System.traced_step {before after : State × List (State × Label)} {label : Label} :
    system.traced.step before label = some after ↔
      system.step before.1 label = some after.1 ∧ after.2 = (before.1, label) :: before.2 := by
  obtain ⟨state, past⟩ := after
  simp only [System.traced, Option.map_eq_some_iff, Prod.mk.injEq]
  constructor
  · rintro ⟨reached, stepped, rfl, rfl⟩
    exact ⟨stepped, rfl⟩
  · intro ⟨stepped, rfl⟩
    exact ⟨state, stepped, rfl, rfl⟩

theorem System.Reachable.of_traced {traced : State × List (State × Label)}
    (reachable : system.traced.Reachable traced) : system.Reachable traced.1 := by
  induction reachable with
  | initial => exact .initial
  | step _ stepped ih => exact ih.step (System.traced_step.mp stepped).1

/-- The induction rule of a system with its past, for the pasts of a kind that no step leads back to. -/
theorem System.Reachable.traced_invariant_of (meets : List (State × Label) → Prop)
    (earlier : ∀ entry past, meets (entry :: past) → meets past) (holds : State → List (State × Label) → Prop)
    (initial : holds system.initial [])
    (preserved : ∀ before label after past, system.traced.Reachable (before, past) → meets ((before, label) :: past) →
      holds before past → system.step before label = some after → holds after ((before, label) :: past))
    {state : State} {past : List (State × Label)} (reachable : system.traced.Reachable (state, past))
    (met : meets past) : holds state past := by
  refine (reachable.invariant (fun traced => system.traced.Reachable traced ∧ (meets traced.2 →
    holds traced.1 traced.2)) ⟨.initial, fun _ => initial⟩ ?_).2 met
  intro before label after held stepped
  refine ⟨held.1.step stepped, ?_⟩
  obtain ⟨moved, remembered⟩ := System.traced_step.mp stepped
  rw [remembered]
  intro met
  exact preserved before.1 label after.1 before.2 held.1 met (held.2 (earlier _ _ met)) moved

theorem System.Reachable.traced_invariant (holds : State → List (State × Label) → Prop)
    (initial : holds system.initial [])
    (preserved : ∀ before label after past, system.traced.Reachable (before, past) → holds before past →
      system.step before label = some after → holds after ((before, label) :: past))
    {state : State} {past : List (State × Label)} (reachable : system.traced.Reachable (state, past)) :
    holds state past := by
  refine reachable.traced_invariant_of (fun _ => True) (fun _ _ _ => trivial) holds initial ?_ trivial
  intro before label after past reached _ held stepped
  exact preserved before label after past reached held stepped

/-- The same for the steps that meet a guard. -/
theorem System.Reachable.guarded_invariant {guard : State × List (State × Label) → Label → Prop}
    [∀ traced label, Decidable (guard traced label)] (holds : State → List (State × Label) → Prop)
    (initial : holds system.initial [])
    (preserved : ∀ before label after past, guard (before, past) label → holds before past →
      system.step before label = some after → holds after ((before, label) :: past))
    {state : State} {past : List (State × Label)} (reachable : (system.traced.restrict guard).Reachable (state, past)) :
    holds state past := by
  refine reachable.invariant (fun traced => holds traced.1 traced.2) initial ?_
  intro before label after held stepped
  obtain ⟨guarded, stepped⟩ := System.restrict_step.mp stepped
  obtain ⟨moved, remembered⟩ := System.traced_step.mp stepped
  rw [remembered]
  exact preserved before.1 label after.1 before.2 guarded held moved

/-- Every step that is remembered was taken in a state that was reached with the steps before it. -/
theorem System.Reachable.earlier {state before : State} {past : List (State × Label)} {label : Label}
    (reachable : system.traced.Reachable (state, past)) (member : (before, label) ∈ past) :
    ∃ front rest, past = front ++ (before, label) :: rest ∧ system.traced.Reachable (before, rest) := by
  refine (reachable.invariant (fun traced => system.traced.Reachable traced ∧ ∀ entry ∈ traced.2,
    ∃ front rest, traced.2 = front ++ entry :: rest ∧ system.traced.Reachable (entry.1, rest)) ?_ ?_).2 _ member
  · refine ⟨.initial, ?_⟩
    intro entry member
    cases member
  · intro traced label after held stepped
    refine ⟨held.1.step stepped, ?_⟩
    obtain ⟨_, remembered⟩ := System.traced_step.mp stepped
    rw [remembered]
    intro entry member
    rcases List.mem_cons.mp member with rfl | old
    · exact ⟨[], traced.2, rfl, held.1⟩
    · obtain ⟨front, rest, split, reached⟩ := held.2 entry old
      exact ⟨(traced.1, label) :: front, rest, by rw [split]; rfl, reached⟩

/-- There is a run from one state to the other, all of whose states, these two included, are inside. -/
inductive System.RunsIn (system : System State Label) (inside : State → Prop) : State → State → Prop
  | start {state : State} : inside state → RunsIn system inside state state
  | step {first before after : State} {label : Label} : RunsIn system inside first before →
      system.step before label = some after → inside after → RunsIn system inside first after

variable {inside : State → Prop} {first last : State}

theorem System.RunsIn.last_inside (run : system.RunsIn inside first last) : inside last := by
  cases run with
  | start held => exact held
  | step _ _ held => exact held

theorem System.RunsIn.reachable (run : system.RunsIn inside first last) (reachable : system.Reachable first) :
    system.Reachable last := by
  induction run with
  | start _ => exact reachable
  | step _ stepped _ ih => exact ih.step stepped

/-- What each step inside keeps is kept by the run. -/
theorem System.RunsIn.keeps (run : system.RunsIn inside first last) (reachable : system.Reachable first)
    (holds : State → Prop) (kept : ∀ before label after, system.Reachable before → inside before → inside after →
      system.step before label = some after → holds before → holds after) (held : holds first) : holds last := by
  induction run with
  | start _ => exact held
  | step earlier stepped inside ih =>
    exact kept _ _ _ (earlier.reachable reachable) earlier.last_inside inside stepped ih

end Transition
