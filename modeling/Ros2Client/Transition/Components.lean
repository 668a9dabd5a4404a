import Ros2Client.Transition.Traces

namespace Transition

section Components

variable {State Label Part PartLabel : Type} {whole : System State Label} {component : System Part PartLabel}

def partOfPast (part : State → Part) (carried : State → Label → Option PartLabel) (past : List (State × Label)) :
    List (Part × PartLabel) :=
  past.filterMap fun (before, label) => (carried before label).map (part before, ·)

theorem partOfPast_some {part : State → Part} {carried : State → Label → Option PartLabel} {before : State}
    {label : Label} {moved : PartLabel} (carries : carried before label = some moved) (past : List (State × Label)) :
    partOfPast part carried ((before, label) :: past) = (part before, moved) :: partOfPast part carried past :=
  List.filterMap_cons_some (by simp [carries])

theorem partOfPast_none {part : State → Part} {carried : State → Label → Option PartLabel} {before : State}
    {label : Label} (carries : carried before label = none) (past : List (State × Label)) :
    partOfPast part carried ((before, label) :: past) = partOfPast part carried past :=
  List.filterMap_cons_none (by simp [carries])

/-- A part that steps as another system does, on the labels that carry one of that system's, and that
    the other labels leave alone. -/
structure System.Contains (whole : System State Label) (component : System Part PartLabel) (part : State → Part)
    (carried : State → Label → Option PartLabel) : Prop where
  initial : part whole.initial = component.initial
  moves : ∀ before label after partLabel, whole.step before label = some after →
    carried before label = some partLabel →
    component.step (part before) partLabel = some (part after)
  keeps : ∀ before label after, whole.step before label = some after → carried before label = none →
    part after = part before

/-- The history of a part, in every history of the whole, is one of its own system's. -/
theorem System.Contains.traced {part : State → Part} {carried : State → Label → Option PartLabel}
    (contains : whole.Contains component part carried) {state : State} {past : List (State × Label)}
    (reachable : whole.traced.Reachable (state, past)) :
    component.traced.Reachable (part state, partOfPast part carried past) := by
  refine reachable.traced_invariant (fun state past => component.traced.Reachable
    (part state, partOfPast part carried past)) ?_ ?_
  · show component.traced.Reachable (part whole.initial, [])
    rw [contains.initial]
    exact .initial
  · intro before label after past _ reached moved
    cases carries : carried before label with
    | none =>
      rw [partOfPast_none carries, contains.keeps before label after moved carries]
      exact reached
    | some partLabel =>
      rw [partOfPast_some carries]
      exact reached.step (System.traced_step.mpr ⟨contains.moves before label after partLabel moved carries, rfl⟩)

end Components

/-- Names that are given to owners, no two of them the same one, with a way back from a name to its owner. -/
structure Directory (Owner Name : Type) where
  name : Owner → Name
  owner : Name → Option Owner
  owner_eq : ∀ given holder, owner given = some holder ↔ name holder = given

theorem Directory.name_inj {Owner Name : Type} (directory : Directory Owner Name) {first second : Owner}
    (same : directory.name first = directory.name second) : first = second :=
  Option.some.inj (((directory.owner_eq _ first).mpr rfl).symm.trans ((directory.owner_eq _ second).mpr same.symm))

section Ordered

variable {Item : Type} {allowed stronger : List Item → Item → Prop} {items more : List Item}

def Ordered (allowed : List Item → Item → Prop) (items : List Item) : Prop :=
  ∀ front item rest, items = front ++ item :: rest → allowed front item

theorem Ordered.nil : Ordered allowed [] := by
  intro front item rest split
  cases front <;> cases split

theorem Ordered.concat {item : Item} (ordered : Ordered allowed items) (next : allowed items item) :
    Ordered allowed (items ++ [item]) := by
  intro front item' rest split
  rcases List.eq_nil_or_concat rest with rfl | ⟨rest', last, rfl⟩
  · obtain ⟨rfl, same⟩ := List.append_inj' split rfl
    cases same
    exact next
  · rw [List.concat_eq_append, ← List.cons_append, ← List.append_assoc] at split
    exact ordered front item' rest' (List.append_inj' split rfl).1

/-- At most one item is added, and what is there allows it. -/
theorem Ordered.append (ordered : Ordered allowed items)
    (next : more = [] ∨ ∃ item, more = [item] ∧ allowed items item) : Ordered allowed (items ++ more) := by
  rcases next with rfl | ⟨item, rfl, allows⟩
  · rwa [List.append_nil]
  · exact ordered.concat allows

theorem Ordered.mono (ordered : Ordered stronger items)
    (weaker : ∀ front item, stronger front item → allowed front item) :
    Ordered allowed items :=
  fun front item rest split => weaker front item (ordered front item rest split)

end Ordered

end Transition
