import Mathlib.Logic.Function.Basic

namespace Transition

structure KeyedUpdates (Key Update Value : Type) where
  key : Update → Key
  apply : Update → Value → Value

namespace KeyedUpdates

variable {Key Update Value : Type} [DecidableEq Key] (updates : KeyedUpdates Key Update Value) {store : Key → Value}
  {inFlight : List Update} {update other : Update} {index : Nat} {key : Key}

def one (store : Key → Value) (update : Update) : Key → Value :=
  Function.update store (updates.key update) (updates.apply update (store (updates.key update)))

/-- What a store is once all updates on their way to it have arrived. -/
def settle (store : Key → Value) (inFlight : List Update) : Key → Value := inFlight.foldl updates.one store

/-- The update may arrive next: those of other keys may be overtaken, those of its own may not. -/
def Next (inFlight : List Update) (index : Nat) (update : Update) : Prop :=
  inFlight[index]? = some update ∧ ∀ earlier ∈ inFlight.take index, updates.key earlier ≠ updates.key update

variable {updates}

theorem one_same (same : updates.key update = key) :
    updates.one store update key = updates.apply update (store key) := by
  subst same
  exact Function.update_self ..

theorem one_other (different : updates.key update ≠ key) : updates.one store update key = store key :=
  Function.update_of_ne different.symm ..

theorem one_comm (different : updates.key update ≠ updates.key other) :
    updates.one (updates.one store update) other = updates.one (updates.one store other) update := by
  unfold one
  rw [Function.update_of_ne different.symm, Function.update_of_ne different, Function.update_comm different]

theorem settle_concat :
    updates.settle store (inFlight ++ [update]) = updates.one (updates.settle store inFlight) update := by
  rw [settle, List.foldl_append]
  rfl

/-- The order in which updates of different keys arrive makes no difference in the end. -/
theorem settle_deliver (next : updates.Next inFlight index update) :
    updates.settle (updates.one store update) (inFlight.eraseIdx index) = updates.settle store inFlight := by
  obtain ⟨looked, first⟩ := next
  induction inFlight generalizing store index with
  | nil => cases looked
  | cons head rest ih =>
    cases index with
    | zero =>
      cases looked
      rfl
    | succ index =>
      have different := first head List.mem_cons_self
      show updates.settle (updates.one (updates.one store update) head) (rest.eraseIdx index) = _
      rw [one_comm different.symm]
      exact ih looked fun earlier member => first earlier (List.mem_cons_of_mem _ member)

end KeyedUpdates

end Transition
