import Mathlib.Data.List.Basic

namespace Transition

variable {Item Sender : Type}

/-- What one receiver gets from any number of senders: all that was sent to it, what is on its way, what waits for it,
    and what it has taken. It lacks nothing as long as nothing is lost on the way. -/
structure Feed (Item : Type) where
  sent : List Item
  inFlight : List Item
  waiting : List Item
  taken : List Item
  lossless : Bool

namespace Feed

def empty : Feed Item := ⟨[], [], [], [], true⟩

def send (feed : Feed Item) (item : Item) : Feed Item :=
  { feed with sent := feed.sent ++ [item], inFlight := feed.inFlight ++ [item] }

/-- An item may overtake those of other senders. -/
def arrive [DecidableEq Sender] (sender : Item → Sender) (feed : Feed Item) (number : Nat) : Option (Feed Item) :=
  feed.inFlight[number]?.bind fun item =>
    if (feed.inFlight.take number).any fun earlier => sender earlier = sender item then none
    else some { feed with inFlight := feed.inFlight.eraseIdx number, waiting := feed.waiting ++ [item] }

def lose (feed : Feed Item) (number : Nat) : Option (Feed Item) :=
  if number < feed.inFlight.length then
    some { feed with inFlight := feed.inFlight.eraseIdx number, lossless := false }
  else none

def take (feed : Feed Item) : Option (Feed Item) :=
  match feed.waiting with
  | [] => none
  | item :: rest => some { feed with waiting := rest, taken := feed.taken ++ [item] }

def path (feed : Feed Item) : List Item := feed.taken ++ feed.waiting ++ feed.inFlight

variable {feed after : Feed Item} {number : Nat}

theorem lose_sent (lost : feed.lose number = some after) : after.sent = feed.sent := by
  unfold lose at lost
  split at lost
  · cases lost
    rfl
  · cases lost

theorem take_sent (took : feed.take = some after) : after.sent = feed.sent := by
  unfold take at took
  split at took
  · cases took
  · cases took
    rfl

variable [DecidableEq Sender] {sender : Item → Sender}

def of (sender : Item → Sender) (who : Sender) (items : List Item) : List Item := items.filter (sender · = who)

structure InOrder (sender : Item → Sender) (feed : Feed Item) : Prop where
  ordered : ∀ who, (of sender who feed.path).Sublist (of sender who feed.sent)
  complete : feed.lossless = true → ∀ who, of sender who feed.path = of sender who feed.sent

theorem InOrder.empty : InOrder sender (Feed.empty : Feed Item) :=
  ⟨fun _ => List.Sublist.refl _, fun _ _ => rfl⟩

theorem InOrder.mem_sent (inOrder : feed.InOrder sender) {item : Item} (member : item ∈ feed.path) :
    item ∈ feed.sent := by
  have own : item ∈ of sender (sender item) feed.path := List.mem_filter.mpr ⟨member, by simp⟩
  exact (List.mem_filter.mp ((inOrder.ordered _).subset own)).1

theorem InOrder.taken (inOrder : feed.InOrder sender) (who : Sender) :
    (of sender who feed.taken).Sublist (of sender who feed.sent) := by
  refine List.Sublist.trans ?_ (inOrder.ordered who)
  rw [path, List.append_assoc]
  exact (List.sublist_append_left _ _).filter _

theorem InOrder.send (inOrder : feed.InOrder sender) (item : Item) : (feed.send item).InOrder sender := by
  have path : (feed.send item).path = feed.path ++ [item] := by simp [Feed.path, Feed.send]
  constructor
  · intro who
    rw [path, of, List.filter_append]
    show List.Sublist _ ((feed.sent ++ [item]).filter _)
    rw [List.filter_append]
    exact (inOrder.ordered who).append_right _
  · intro lossless who
    rw [path, of, List.filter_append]
    show _ = (feed.sent ++ [item]).filter _
    rw [List.filter_append]
    exact congrArg (· ++ _) (inOrder.complete lossless who)

theorem arrive_sent (arrived : feed.arrive sender number = some after) : after.sent = feed.sent := by
  obtain ⟨item, _, arrived⟩ := Option.bind_eq_some_iff.mp arrived
  split at arrived
  · cases arrived
  · cases arrived
    rfl

/-- An item that comes first among those of its sender can come first of all of them. -/
theorem of_first {items : List Item} {item : Item} (looked : items[number]? = some item)
    (first : ∀ earlier ∈ items.take number, sender earlier ≠ sender item) (who : Sender) :
    of sender who (item :: items.eraseIdx number) = of sender who items := by
  induction items generalizing number with
  | nil => cases looked
  | cons head rest ih =>
    cases number with
    | zero =>
      cases looked
      rfl
    | succ number =>
      have different := first head List.mem_cons_self
      have later := ih looked fun earlier member => first earlier (List.mem_cons_of_mem _ member)
      simp only [of, List.eraseIdx_cons_succ, List.filter_cons, decide_eq_true_eq] at later ⊢
      rw [← later]
      by_cases own : sender item = who
      · have other : sender head ≠ who := own ▸ different
        simp [own, other]
      · simp [own]

theorem InOrder.arrive (inOrder : feed.InOrder sender) (arrived : feed.arrive sender number = some after) :
    after.InOrder sender := by
  obtain ⟨item, looked, arrived⟩ := Option.bind_eq_some_iff.mp arrived
  split at arrived
  · cases arrived
  · rename_i overtakes
    cases arrived
    have first : ∀ earlier ∈ feed.inFlight.take number, sender earlier ≠ sender item := by
      intro earlier member same
      exact overtakes (List.any_eq_true.mpr ⟨earlier, member, decide_eq_true same⟩)
    have same : ∀ who, of sender who (feed.taken ++ (feed.waiting ++ [item]) ++ feed.inFlight.eraseIdx number) =
        of sender who feed.path := by
      intro who
      have moved := of_first looked first who
      simp only [of, path, List.filter_append, List.append_assoc] at moved ⊢
      rw [← moved, ← List.filter_append, List.singleton_append]
    constructor
    · intro who
      exact same who ▸ inOrder.ordered who
    · intro lossless who
      exact (same who).trans (inOrder.complete lossless who)

theorem InOrder.lose (inOrder : feed.InOrder sender) (lost : feed.lose number = some after) : after.InOrder sender := by
  unfold Feed.lose at lost
  split at lost
  · cases lost
    constructor
    · intro who
      refine List.Sublist.trans ?_ (inOrder.ordered who)
      exact (((List.eraseIdx_sublist ..).append_left _)).filter _
    · intro lossless
      cases lossless
  · cases lost

theorem InOrder.take (inOrder : feed.InOrder sender) (took : feed.take = some after) : after.InOrder sender := by
  unfold Feed.take at took
  split at took
  · cases took
  · rename_i item rest waiting
    cases took
    have same : feed.taken ++ [item] ++ rest ++ feed.inFlight = feed.path := by simp [path, waiting]
    constructor
    · intro who
      show List.Sublist (of sender who (feed.taken ++ [item] ++ rest ++ feed.inFlight)) _
      rw [same]
      exact inOrder.ordered who
    · intro lossless who
      show of sender who (feed.taken ++ [item] ++ rest ++ feed.inFlight) = _
      rw [same]
      exact inOrder.complete lossless who

end Feed

end Transition
