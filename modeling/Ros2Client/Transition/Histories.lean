import Mathlib.Data.List.Induction
import Ros2Client.Transition.Runs

namespace Transition

variable {State Label View Event : Type}

def lastOf (kind : Event → Bool) (events : List Event) : Option Event := (events.filter kind).getLast?

theorem lastOf_append (kind : Event → Bool) (events : List Event) (event : Event) :
    lastOf kind (events ++ [event]) = if kind event then some event else lastOf kind events := by
  rw [lastOf, List.filter_append, List.filter_singleton]
  cases kind event with
  | true => simp
  | false => simp [lastOf]

theorem lastOf_spec {kind : Event → Bool} {events : List Event} {event : Event}
    (last : lastOf kind events = some event) :
    event ∈ events ∧ kind event = true :=
  List.mem_filter.mp (List.mem_of_getLast? last)

/-- What the events of one kind decide, each of them alone, holds after a history as its last event of that kind
    has decided. -/
theorem holds_iff_last (record : View → Event → View) (kind : Event → Bool) (holds : View → Prop)
    {decides : Event → Prop}
    (decided : ∀ view event, kind event = true → (holds (record view event) ↔ decides event))
    (kept : ∀ view event, kind event = false → (holds (record view event) ↔ holds view))
    {start : View} (absent : ¬holds start) (events : List Event) :
    holds (events.foldl record start) ↔ ∃ event, lastOf kind events = some event ∧ decides event := by
  induction events using List.reverseRecOn with
  | nil => simpa [lastOf] using absent
  | append_singleton events event ih =>
    rw [List.foldl_append, List.foldl_cons, List.foldl_nil, lastOf_append]
    cases concerned : kind event with
    | true => simpa using decided _ event concerned
    | false => simpa [kept _ event concerned] using ih

/-- A part of the state that only some labels change, each as the event it carries says, is what the events of a run
    make of it. -/
theorem System.run_view {system : System State Label} (view : State → View) (record : View → Event → View)
    (carried : Label → Option Event)
    (recorded : ∀ before label after event, system.step before label = some after → carried label = some event →
      view after = record (view before) event)
    (kept : ∀ before label after, system.step before label = some after → carried label = none →
      view after = view before)
    {start finish : State} {labels : List Label} (ran : system.run start labels = some finish) :
    view finish = (labels.filterMap carried).foldl record (view start) := by
  induction labels generalizing start with
  | nil =>
    cases ran
    rfl
  | cons label labels ih =>
    obtain ⟨middle, stepped, rest⟩ := Option.bind_eq_some_iff.mp ran
    rw [ih rest]
    cases event : carried label with
    | none => rw [List.filterMap_cons_none event, kept _ _ _ stepped event]
    | some event' => rw [List.filterMap_cons_some event, List.foldl_cons, recorded _ _ _ _ stepped event]

end Transition
