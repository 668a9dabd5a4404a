import Mathlib.Data.List.Basic

namespace Transition

/-- Events that tell how a store changes. Stores are looked at up to an equivalence, which the events must respect. -/
structure EventLog (Store Event : Type) where
  apply : Store → Event → Store
  fits : Store → Event → Prop
  same : Store → Store → Prop
  refl : ∀ store, same store store
  trans : ∀ {first second third : Store}, same first second → same second third → same first third
  apply_congr : ∀ {first second : Store} (event : Event), same first second →
    same (apply first event) (apply second event)
  fits_congr : ∀ {first second : Store} {event : Event}, same first second → fits second event → fits first event

variable {Store Event : Type} {log : EventLog Store Event} {start middle finish : Store} {events later : List Event}

def EventLog.Explains (log : EventLog Store Event) (start : Store) : List Event → Store → Prop
  | [], finish => log.same start finish
  | event :: events, finish => log.fits start event ∧ log.Explains (log.apply start event) events finish

theorem EventLog.Explains.of_same (same : log.same start middle) (explained : log.Explains middle events finish) :
    log.Explains start events finish := by
  induction events generalizing start middle with
  | nil => exact log.trans same explained
  | cons event events ih => exact ⟨log.fits_congr same explained.1, ih (log.apply_congr event same) explained.2⟩

theorem EventLog.Explains.append (first : log.Explains start events middle)
    (second : log.Explains middle later finish) : log.Explains start (events ++ later) finish := by
  induction events generalizing start with
  | nil => exact second.of_same first
  | cons event events ih => exact ⟨first.1, ih first.2⟩

theorem EventLog.Explains.replay (explained : log.Explains start events finish) :
    log.same (events.foldl log.apply start) finish := by
  induction events generalizing start with
  | nil => exact explained
  | cons event events ih => exact ih explained.2

theorem EventLog.Explains.fits_at {index : Nat} {event : Event} (explained : log.Explains start events finish)
    (found : events[index]? = some event) : log.fits ((events.take index).foldl log.apply start) event := by
  induction events generalizing start index with
  | nil => cases found
  | cons head events ih =>
    cases index with
    | zero =>
      cases found
      exact explained.1
    | succ index => exact ih explained.2 found

structure Journal (Store Event : Type) where
  store : Store
  published : List Event

def EventLog.Accounts (log : EventLog Store Event) (before after : Journal Store Event) : Prop :=
  ∃ events, after.published = before.published ++ events ∧ log.Explains before.store events after.store

theorem EventLog.Accounts.refl (journal : Journal Store Event) : log.Accounts journal journal :=
  ⟨[], (List.append_nil _).symm, log.refl _⟩

theorem EventLog.Accounts.trans {first second third : Journal Store Event} (start : log.Accounts first second)
    (rest : log.Accounts second third) : log.Accounts first third := by
  obtain ⟨events, published, explained⟩ := start
  obtain ⟨later, published', explained'⟩ := rest
  refine ⟨events ++ later, ?_, explained.append explained'⟩
  rw [published', published, List.append_assoc]

theorem EventLog.accounts_foldl {State Call : Type} {journal : State → Journal Store Event} {run : State → Call → State}
    (each : ∀ state call, log.Accounts (journal state) (journal (run state call))) (calls : List Call) (state : State) :
    log.Accounts (journal state) (journal (calls.foldl run state)) := by
  induction calls generalizing state with
  | nil => exact .refl _
  | cons call calls ih => exact (each state call).trans (ih (run state call))

end Transition
