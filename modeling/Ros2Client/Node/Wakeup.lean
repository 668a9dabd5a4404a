import Ros2Client.Node.MatchWait
import Ros2Client.Transition.Threads

open Transition

namespace Ros2Client

variable {Info : Type}

/-- No wait whose last poll returned pending sleeps on an empty channel while its endpoint is
    matched, unless the spinner is still to announce something. -/
def NoMissedMatch (system : System (MatchState Info) (MatchLabel Info)) : Prop :=
  ∀ state, system.Reachable state → ∀ receiver ∈ state.receivers, ∀ wait,
    receiver.holder = .matchWait wait → wait.phase = .pending → receiver.channel.queue = [] →
    state.spinner = .idle ∨ state.spinner = .gone → wait.matched state.tables = false

structure ReceiverStep (tables : MatchTables) (before after : StatusReceiver Info) : Prop where
  capacity : after.channel.capacity = before.channel.capacity
  alive : after.holder ≠ .dropped → before.holder ≠ .dropped ∧ after.channel.closed = before.channel.closed
  closed : before.channel.closed = true → after.channel.closed = true
  checked : ∀ wait, after.holder = .matchWait wait → wait.phase = .pending → wait.matched tables = false

theorem ReceiverStep.setWait {tables : MatchTables} {receiver : StatusReceiver Info} {old new : MatchWait}
    (held : receiver.holder = .matchWait old) (checked : new.phase = .pending → new.matched tables = false) :
    ReceiverStep tables receiver (receiver.setWait new) where
  capacity := rfl
  alive _ := ⟨by simp [held], rfl⟩
  closed := id
  checked wait held := by
    cases held
    exact checked

theorem ReceiverStep.setQueue {tables : MatchTables} {receiver : StatusReceiver Info} {queue : List (NodeEvent Info)}
    (polled : ∀ wait, receiver.holder = .matchWait wait → wait.phase ≠ .pending) :
    ReceiverStep tables receiver (receiver.setQueue queue) where
  capacity := rfl
  alive kept := ⟨kept, rfl⟩
  closed := id
  checked wait held pending := absurd pending (polled wait held)

theorem StatusReceiver.step_spec {receiver after : StatusReceiver Info} {tables : MatchTables}
    {action : ReceiverAction} (stepped : receiver.step tables action = some after) :
    ReceiverStep tables receiver after := by
  cases action with
  | startPoll =>
    simp only [StatusReceiver.step] at stepped
    split at stepped
    · rename_i wait held
      split at stepped
      · cases stepped
        apply ReceiverStep.setWait held
        dsimp only
        cases wait.streaming <;> simp
      · cases stepped
    · cases stepped
  | pollNext =>
    simp only [StatusReceiver.step] at stepped
    split at stepped
    · rename_i wait held _
      split at stepped
      · cases stepped
        exact .setWait held (by simp)
      · cases stepped
    · rename_i wait _ rest held _
      split at stepped
      · rename_i draining
        cases stepped
        apply ReceiverStep.setQueue
        intro other same
        rw [held] at same
        cases same
        simp [draining]
      · cases stepped
    · rename_i held _
      cases stepped
      exact .setQueue (by simp [held])
    · cases stepped
  | check =>
    simp only [StatusReceiver.step] at stepped
    split at stepped
    · rename_i wait held
      split at stepped
      · cases stepped
        apply ReceiverStep.setWait held
        dsimp only
        cases matched : wait.matched tables with
        | true => simp
        | false => exact fun _ => matched
      · cases stepped
    · cases stepped
  | drop =>
    cases stepped
    exact ⟨rfl, fun kept => absurd rfl kept, fun _ => rfl, fun wait held => by cases held⟩

def MatchState.Announces (state : MatchState Info) (receiver : Nat) : Prop :=
  match state.spinner with
  | .recorded _ => True
  | .announcing _ index _ => ∃ later, index ≤ later ∧ state.senders[later]? = some receiver
  | .idle | .gone => False

def MatchState.MarksClosed (state : MatchState Info) (index : Nat) (closed : List Nat) : Prop :=
  closed.Pairwise (· < ·) ∧ ∀ place ∈ closed, place < index ∧
    ∃ (sender : Nat) (receiver : StatusReceiver Info), state.senders[place]? = some sender ∧
      state.receivers[sender]? = some receiver ∧
      receiver.channel.closed = true

theorem MatchState.MarksClosed.grow {state after : MatchState Info} {index later : Nat} {closed : List Nat}
    (marks : state.MarksClosed index closed) (le : index ≤ later) (same : after.senders = state.senders)
    (kept : ∀ (sender : Nat) (receiver : StatusReceiver Info), state.receivers[sender]? = some receiver →
      receiver.channel.closed = true → ∃ other, after.receivers[sender]? = some other ∧ other.channel.closed = true) :
    after.MarksClosed later closed := by
  refine ⟨marks.1, ?_⟩
  intro place member
  obtain ⟨before, sender, receiver, present, found, isClosed⟩ := marks.2 place member
  obtain ⟨other, found', isClosed'⟩ := kept sender receiver found isClosed
  exact ⟨by omega, sender, other, by rw [same]; exact present, found', isClosed'⟩

theorem MatchState.MarksClosed.mark {state : MatchState Info} {index sender : Nat} {closed : List Nat}
    {receiver : StatusReceiver Info} (marks : state.MarksClosed index closed)
    (present : state.senders[index]? = some sender) (found : state.receivers[sender]? = some receiver)
    (isClosed : receiver.channel.closed = true) : state.MarksClosed (index + 1) (closed ++ [index]) := by
  refine ⟨List.pairwise_append.mpr ⟨marks.1, by simp, ?_⟩, ?_⟩
  · intro place member last isLast
    rw [List.mem_singleton.mp isLast]
    exact (marks.2 place member).1
  · intro place member
    rcases List.mem_append.mp member with earlier | last
    · obtain ⟨before, rest⟩ := marks.2 place earlier
      exact ⟨by omega, rest⟩
    · rw [List.mem_singleton.mp last]
      exact ⟨by omega, sender, receiver, present, found, isClosed⟩

structure WakeInvariant (state : MatchState Info) : Prop where
  capacity : ∀ (index : Nat) (receiver : StatusReceiver Info), state.receivers[index]? = some receiver →
    receiver.channel.capacity = some 8
  registered : state.spinner ≠ .gone → ∀ (index : Nat) (receiver : StatusReceiver Info),
    state.receivers[index]? = some receiver →
    receiver.holder ≠ .dropped → receiver.channel.closed = false ∧ index ∈ state.senders
  marked : ∀ event index closed, state.spinner = .announcing event index closed → state.MarksClosed index closed
  awake : ∀ (index : Nat) (receiver : StatusReceiver Info) wait, state.receivers[index]? = some receiver →
    receiver.holder = .matchWait wait → wait.phase = .pending → wait.matched state.tables = true →
    receiver.channel.queue ≠ [] ∨ state.Announces index

theorem WakeInvariant.initial (Info : Type) : WakeInvariant (matchWaiting Info).initial where
  capacity index receiver found := by simp [matchWaiting] at found
  registered _ index receiver found := by simp [matchWaiting] at found
  marked event index closed announcing := by simp [matchWaiting] at announcing
  awake index receiver wait found := by simp [matchWaiting] at found

theorem WakeInvariant.record {state : MatchState Info} (invariant : WakeInvariant state) (event : NodeEvent Info)
    (idle : state.spinner = .idle) :
    WakeInvariant { state with tables := state.tables.record event, spinner := .recorded event } where
  capacity := invariant.capacity
  registered _ := invariant.registered (by simp [idle])
  marked _ _ _ announcing := by cases announcing
  awake _ _ _ _ _ _ _ := .inr trivial

theorem WakeInvariant.announce {state : MatchState Info} {event : NodeEvent Info}
    (invariant : WakeInvariant state) (recorded : state.spinner = .recorded event) :
    WakeInvariant { state with spinner := .announcing event 0 [] } where
  capacity := invariant.capacity
  registered _ := invariant.registered (by simp [recorded])
  marked _ _ _ announcing := by
    cases announcing
    exact ⟨.nil, by simp⟩
  awake index receiver wait found held _ _ := by
    have present := (invariant.registered (by simp [recorded]) index receiver found (by simp [held])).2
    obtain ⟨place, at_⟩ := List.mem_iff_getElem?.mp present
    exact .inr ⟨place, Nat.zero_le _, at_⟩

theorem WakeInvariant.trySend {state : MatchState Info} {event : NodeEvent Info} {index sender : Nat}
    {closed : List Nat} {receiver : StatusReceiver Info} (invariant : WakeInvariant state)
    (announcing : state.spinner = .announcing event index closed) (present : state.senders[index]? = some sender)
    (found : state.receivers[sender]? = some receiver) :
    WakeInvariant { state with
      receivers := state.receivers.set sender { receiver with channel := receiver.channel.offer event }
      spinner := .announcing event (index + 1) (match receiver.channel.trySend event with
        | .error .closed => closed ++ [index]
        | _ => closed) } := by
  have active : state.spinner ≠ .gone := by simp [announcing]
  refine ⟨?_, ?_, ?_, ?_⟩
  · intro other found' looked
    rcases lookup_set looked with ⟨rfl, rfl⟩ | ⟨_, old⟩
    · simpa using invariant.capacity _ _ found
    · exact invariant.capacity _ _ old
  · intro _ other found' looked kept
    rcases lookup_set looked with ⟨rfl, rfl⟩ | ⟨_, old⟩
    · simpa using invariant.registered active _ _ found kept
    · exact invariant.registered active _ _ old kept
  · rintro _ _ _ ⟨⟩
    have marks := invariant.marked _ _ _ announcing
    have marks' : state.MarksClosed (index + 1) (match receiver.channel.trySend event with
        | .error .closed => closed ++ [index]
        | _ => closed) := by
      split
      · rename_i refused
        exact marks.mark present found (Channel.trySend_closed.mp refused)
      · exact marks.grow (Nat.le_succ index) rfl fun _ receiver found isClosed => ⟨receiver, found, isClosed⟩
    refine marks'.grow (Nat.le_refl _) rfl ?_
    intro other old found' isClosed
    exact exists_lookup_set found (by simp) found' isClosed
  · intro other found' wait looked held pending matched
    rcases lookup_set looked with ⟨rfl, rfl⟩ | ⟨apart, old⟩
    · -- Full or not, the channel that was just offered the event has something in it.
      left
      have waits : receiver.holder = .matchWait wait := held
      have opened := (invariant.registered active _ _ found (by simp [waits])).1
      exact Channel.offer_queue_ne_nil opened (by simp [invariant.capacity _ _ found])
    · rcases invariant.awake _ _ _ old held pending matched with queued | announces
      · exact .inl queued
      · simp only [MatchState.Announces, announcing] at announces
        obtain ⟨later, le, at_⟩ := announces
        have beyond : later ≠ index := by
          intro same
          subst same
          rw [present] at at_
          exact apart (Option.some.inj at_).symm
        exact .inr ⟨later, by omega, at_⟩

theorem WakeInvariant.removeClosed {state : MatchState Info} {event : NodeEvent Info} {closed : List Nat}
    (invariant : WakeInvariant state)
    (announcing : state.spinner = .announcing event state.senders.length closed) :
    WakeInvariant { state with senders := removeClosed state.senders closed, spinner := .idle } where
  capacity := invariant.capacity
  registered _ index receiver found kept := by
    obtain ⟨opened, present⟩ := invariant.registered (by simp [announcing]) index receiver found kept
    obtain ⟨sorted, marks⟩ := invariant.marked _ _ _ announcing
    refine ⟨opened, mem_removeClosed present sorted (fun place member => (marks place member).1) ?_⟩
    intro place member same
    obtain ⟨_, sender, other, at_, found', isClosed⟩ := marks place member
    rw [same] at at_
    cases at_
    rw [found] at found'
    cases found'
    simp [opened] at isClosed
  marked _ _ _ announcing := by cases announcing
  awake index receiver wait found held pending matched := by
    rcases invariant.awake _ _ _ found held pending matched with queued | announces
    · exact .inl queued
    · simp only [MatchState.Announces, announcing] at announces
      obtain ⟨later, le, at_⟩ := announces
      have inside := (List.getElem?_eq_some_iff.mp at_).1
      omega

theorem WakeInvariant.register {state : MatchState Info} {holder : Holder} (invariant : WakeInvariant state)
    (free : ∀ event index closed, state.spinner ≠ .announcing event index closed)
    (fresh : holder.isNew = true) :
    WakeInvariant { state with
      receivers := state.receivers ++ [⟨Channel.new (some 8), holder⟩]
      senders := state.senders ++ [state.receivers.length] } := by
  refine ⟨?_, ?_, ?_, ?_⟩
  · intro index receiver looked
    rcases lookup_concat looked with old | ⟨_, rfl⟩
    · exact invariant.capacity _ _ old
    · rfl
  · intro active index receiver looked kept
    rcases lookup_concat looked with old | ⟨rfl, rfl⟩
    · obtain ⟨opened, present⟩ := invariant.registered active _ _ old kept
      exact ⟨opened, List.mem_append_left _ present⟩
    · exact ⟨rfl, by simp⟩
  · intro event index closed announcing
    exact absurd announcing (free event index closed)
  · intro index receiver wait looked held pending matched
    rcases lookup_concat looked with old | ⟨_, rfl⟩
    · rcases invariant.awake _ _ _ old held pending matched with queued | announces
      · exact .inl queued
      · cases phase : state.spinner with
        | recorded event => exact .inr trivial
        | announcing event position closed => exact absurd phase (free event position closed)
        | idle => simp [MatchState.Announces, phase] at announces
        | gone => simp [MatchState.Announces, phase] at announces
    · have waits : holder = .matchWait wait := held
      simp [waits, Holder.isNew, pending] at fresh

theorem WakeInvariant.receiver {state : MatchState Info} {index : Nat} {receiver after : StatusReceiver Info}
    (invariant : WakeInvariant state) (found : state.receivers[index]? = some receiver)
    (stepped : ReceiverStep state.tables receiver after) :
    WakeInvariant { state with receivers := state.receivers.set index after } := by
  refine ⟨?_, ?_, ?_, ?_⟩
  · intro other found' looked
    rcases lookup_set looked with ⟨rfl, rfl⟩ | ⟨_, old⟩
    · rw [stepped.capacity]
      exact invariant.capacity _ _ found
    · exact invariant.capacity _ _ old
  · intro active other found' looked kept
    rcases lookup_set looked with ⟨rfl, rfl⟩ | ⟨_, old⟩
    · obtain ⟨alive, same⟩ := stepped.alive kept
      rw [same]
      exact invariant.registered active _ _ found alive
    · exact invariant.registered active _ _ old kept
  · intro event place closed announcing
    refine (invariant.marked event place closed announcing).grow (Nat.le_refl _) rfl ?_
    intro other old found' isClosed
    exact exists_lookup_set found stepped.closed found' isClosed
  · intro other found' wait looked held pending matched
    rcases lookup_set looked with ⟨rfl, rfl⟩ | ⟨_, old⟩
    · rw [stepped.checked wait held pending] at matched
      cases matched
    · exact invariant.awake _ _ _ old held pending matched

theorem WakeInvariant.shutdown {state : MatchState Info} (invariant : WakeInvariant state)
    (idle : state.spinner = .idle) :
    WakeInvariant { state with
      receivers := state.receivers.mapIdx fun index receiver =>
        if index ∈ state.senders then { receiver with channel := receiver.channel.close } else receiver
      senders := []
      spinner := .gone } := by
  -- Closing a channel leaves its capacity, its queue and its holder alone.
  have lookup : ∀ (index : Nat) (found : StatusReceiver Info),
      (state.receivers.mapIdx fun index receiver =>
        if index ∈ state.senders then { receiver with channel := receiver.channel.close } else receiver)[index]? =
          some found →
      ∃ receiver, state.receivers[index]? = some receiver ∧ found.holder = receiver.holder ∧
        found.channel.queue = receiver.channel.queue ∧ found.channel.capacity = receiver.channel.capacity := by
    intro index found looked
    rw [List.getElem?_mapIdx] at looked
    obtain ⟨receiver, present, rfl⟩ := Option.map_eq_some_iff.mp looked
    refine ⟨receiver, present, ?_⟩
    split <;> exact ⟨rfl, rfl, rfl⟩
  refine ⟨?_, ?_, ?_, ?_⟩
  · intro index receiver looked
    obtain ⟨old, present, _, _, capacity⟩ := lookup index receiver looked
    rw [capacity]
    exact invariant.capacity _ _ present
  · intro active
    exact absurd rfl active
  · intro _ _ _ announcing
    cases announcing
  · intro index receiver wait looked held pending matched
    obtain ⟨old, present, holder, queue, _⟩ := lookup index receiver looked
    rw [holder] at held
    rcases invariant.awake _ _ _ present held pending matched with queued | announces
    · left
      rw [queue]
      exact queued
    · simp [MatchState.Announces, idle] at announces

theorem WakeInvariant.step {state after : MatchState Info} {label : MatchLabel Info}
    (invariant : WakeInvariant state) (stepped : state.step label = some after) : WakeInvariant after := by
  cases label with
  | record event =>
    simp only [MatchState.step] at stepped
    split at stepped
    · cases stepped
      exact invariant.record event ‹_›
    · cases stepped
  | announce =>
    simp only [MatchState.step] at stepped
    split at stepped
    · cases stepped
      exact invariant.announce ‹_›
    · cases stepped
  | trySend =>
    simp only [MatchState.step] at stepped
    split at stepped
    · obtain ⟨sender, present, sent⟩ := Option.bind_eq_some_iff.mp stepped
      obtain ⟨receiver, found, rfl⟩ := Option.map_eq_some_iff.mp sent
      exact invariant.trySend ‹_› present found
    · cases stepped
  | removeClosed =>
    simp only [MatchState.step] at stepped
    split at stepped
    · split at stepped
      · rename_i announcing complete
        cases stepped
        subst complete
        exact invariant.removeClosed announcing
      · cases stepped
    · cases stepped
  | register holder =>
    simp only [MatchState.step] at stepped
    split at stepped
    · split at stepped
      · cases stepped
        exact invariant.register (by simp [*]) ‹_›
      · cases stepped
    · split at stepped
      · cases stepped
        exact invariant.register (by simp [*]) ‹_›
      · cases stepped
    · cases stepped
  | receiver index action =>
    obtain ⟨receiver, found, moved⟩ := Option.bind_eq_some_iff.mp stepped
    obtain ⟨next, stepped', rfl⟩ := Option.map_eq_some_iff.mp moved
    exact invariant.receiver found (StatusReceiver.step_spec stepped')
  | shutdown =>
    simp only [MatchState.step] at stepped
    split at stepped
    · cases stepped
      exact invariant.shutdown ‹_›
    · cases stepped

theorem no_missed_match (Info : Type) : NoMissedMatch (matchWaiting Info) := by
  intro state reachable receiver member wait held pending empty quiet
  have invariant : WakeInvariant state := by
    apply reachable.invariant WakeInvariant (.initial Info)
    intro before label after holds stepped
    exact holds.step stepped
  obtain ⟨index, found⟩ := List.mem_iff_getElem?.mp member
  by_contra unmatched
  rcases invariant.awake index receiver wait found held pending (by simpa using unmatched) with queued | announces
  · exact queued empty
  · rcases quiet with idle | gone
    · simp [MatchState.Announces, idle] at announces
    · simp [MatchState.Announces, gone] at announces

end Ros2Client
