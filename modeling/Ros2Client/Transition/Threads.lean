import Mathlib.Data.List.Basic

namespace Transition

variable {α : Type}

/-- Of several items, one has changed. -/
theorem lookup_set {items : List α} {index place : Nat} {item found : α}
    (looked : (items.set index item)[place]? = some found) :
    (place = index ∧ found = item) ∨ (place ≠ index ∧ items[place]? = some found) := by
  rw [List.getElem?_set] at looked
  by_cases same : index = place
  · rw [if_pos same, Option.ite_none_right_eq_some] at looked
    exact .inl ⟨same.symm, (Option.some.inj looked.2).symm⟩
  · rw [if_neg same] at looked
    exact .inr ⟨Ne.symm same, looked⟩

theorem map_set_same {β : Type} {items : List α} {index : Nat} {old new : α} {f : α → β}
    (looked : items[index]? = some old) (same : f new = f old) : (items.set index new).map f = items.map f := by
  obtain ⟨inside, rfl⟩ := List.getElem?_eq_some_iff.mp looked
  rw [List.map_set, same, ← List.getElem_map f (h := by simpa using inside), List.set_getElem_self]

theorem forall_set {items : List α} {index : Nat} {item : α} {holds : α → Prop} (held : ∀ other ∈ items, holds other)
    (changed : holds item) : ∀ other ∈ items.set index item, holds other := by
  intro other member
  rcases List.mem_or_eq_of_mem_set member with old | rfl
  · exact held other old
  · exact changed

theorem mem_set_of_mem {items : List α} {index : Nat} {before item : α} (looked : items[index]? = some before)
    (member : item ∈ items) (after : α) : item = before ∨ item ∈ items.set index after := by
  obtain ⟨place, found⟩ := List.mem_iff_getElem?.mp member
  by_cases same : index = place
  · subst same
    rw [looked] at found
    exact .inl (Option.some.inj found).symm
  · exact .inr (List.mem_of_getElem? ((List.getElem?_set_ne same).trans found))

/-- What the changed item keeps is still found in every place. -/
theorem exists_lookup_set {items : List α} {index place : Nat} {before after item : α} {holds : α → Prop}
    (looked : items[index]? = some before) (kept : holds before → holds after)
    (found : items[place]? = some item) (held : holds item) :
    ∃ item', (items.set index after)[place]? = some item' ∧ holds item' := by
  by_cases same : index = place
  · subst same
    rw [looked] at found
    cases found
    exact ⟨after, List.getElem?_set_self (List.getElem?_eq_some_iff.mp looked).1, kept held⟩
  · exact ⟨item, (List.getElem?_set_ne same).trans found, held⟩

/-- To several items, one has been added. -/
theorem lookup_concat {items : List α} {place : Nat} {item found : α}
    (looked : (items ++ [item])[place]? = some found) :
    items[place]? = some found ∨ (place = items.length ∧ found = item) := by
  rw [List.getElem?_append] at looked
  split at looked
  · exact .inl looked
  · rw [List.getElem?_singleton, Option.ite_none_right_eq_some] at looked
    exact .inr ⟨by omega, (Option.some.inj looked.2).symm⟩

section Claims

variable {Thread Key : Type} {claims : Thread → Option Key} {threads : List Thread} {index place : Nat}
  {old new thread : Thread} {key : Key}

def ClaimedOnce (claims : Thread → Option Key) (threads : List Thread) : Prop :=
  ∀ (i j : Nat) (thread thread' : Thread) (key : Key), threads[i]? = some thread → threads[j]? = some thread' →
    claims thread = some key → claims thread' = some key → i = j

/-- After a step in which a thread keeps its claim or gives it up, every claim was there before. -/
theorem claim_before (claims : Thread → Option Key) (found : threads[index]? = some old)
    (kept : claims new = none ∨ claims new = claims old) (looked : (threads.set index new)[place]? = some thread)
    (claimed : claims thread = some key) :
    ∃ before, threads[place]? = some before ∧ claims before = some key := by
  rcases lookup_set looked with ⟨rfl, rfl⟩ | ⟨_, earlier⟩
  · rcases kept with none | same
    · rw [none] at claimed
      cases claimed
    · exact ⟨old, found, same.symm.trans claimed⟩
  · exact ⟨thread, earlier, claimed⟩

theorem claim_elsewhere (claims : Thread → Option Key) (idle : claims new = none)
    (looked : (threads.set index new)[place]? = some thread) (claimed : claims thread = some key) :
    place ≠ index ∧ threads[place]? = some thread := by
  rcases lookup_set looked with ⟨_, rfl⟩ | earlier
  · rw [idle] at claimed
    cases claimed
  · exact earlier

theorem claim_concat (claims : Thread → Option Key) (idle : claims new = none)
    (looked : (threads ++ [new])[place]? = some thread) (claimed : claims thread = some key) :
    threads[place]? = some thread := by
  rcases lookup_concat looked with earlier | ⟨_, rfl⟩
  · exact earlier
  · rw [idle] at claimed
    cases claimed

theorem ClaimedOnce.of_earlier {later : List Thread} (once : ClaimedOnce claims threads)
    (earlier : ∀ (place : Nat) (thread : Thread) (key : Key), later[place]? = some thread →
      claims thread = some key → ∃ before, threads[place]? = some before ∧ claims before = some key) :
    ClaimedOnce claims later := by
  intro i j thread thread' key foundI foundJ claimsI claimsJ
  obtain ⟨before, atI, oldI⟩ := earlier i thread key foundI claimsI
  obtain ⟨before', atJ, oldJ⟩ := earlier j thread' key foundJ claimsJ
  exact once i j before before' key atI atJ oldI oldJ

theorem ClaimedOnce.move (once : ClaimedOnce claims threads) (found : threads[index]? = some old)
    (kept : claims new = none ∨ claims new = claims old) : ClaimedOnce claims (threads.set index new) :=
  once.of_earlier fun _ _ _ looked claimed => claim_before claims found kept looked claimed

theorem ClaimedOnce.release (once : ClaimedOnce claims threads) (idle : claims new = none) :
    ClaimedOnce claims (threads.set index new) :=
  once.of_earlier fun _ thread _ looked claimed => ⟨thread, (claim_elsewhere claims idle looked claimed).2, claimed⟩

theorem ClaimedOnce.concat (once : ClaimedOnce claims threads) (idle : claims new = none) :
    ClaimedOnce claims (threads ++ [new]) :=
  once.of_earlier fun _ thread _ looked claimed => ⟨thread, claim_concat claims idle looked claimed, claimed⟩

/-- A thread may claim what no other thread claims. -/
theorem ClaimedOnce.claim (once : ClaimedOnce claims threads) (claimed : claims new = some key)
    (free : ∀ thread ∈ threads, claims thread ≠ some key) : ClaimedOnce claims (threads.set index new) := by
  intro i j thread thread' key' foundI foundJ claimsI claimsJ
  rcases lookup_set foundI with ⟨rfl, rfl⟩ | ⟨_, atI⟩ <;>
    rcases lookup_set foundJ with ⟨rfl, rfl⟩ | ⟨_, atJ⟩
  · rfl
  · rw [claimed] at claimsI
    cases claimsI
    exact absurd claimsJ (free thread' (List.mem_of_getElem? atJ))
  · rw [claimed] at claimsJ
    cases claimsJ
    exact absurd claimsI (free thread (List.mem_of_getElem? atI))
  · exact once i j thread thread' key' atI atJ claimsI claimsJ

end Claims

end Transition
