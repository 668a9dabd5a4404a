import Mathlib.Logic.Function.Iterate
import Mathlib.Data.List.Induction
import Ros2Client.Node.MatchWait

open Transition

namespace Ros2Client

def swapRemoveChecked {α : Type} (items : List α) (index : Nat) : Option (List α) :=
  if index < items.length then some (swapRemove items index) else none

/-- `status_event_senders`. A sender is a handle on a channel, and the same channel may be registered more than once. -/
structure StatusSenders (Id Event : Type) where
  channels : Id → Channel Event
  senders : List Id

variable {Id Event : Type} [DecidableEq Id]

/-- One turn of the loop over the senders; with the channels go the indices that are marked for deletion. -/
def trySendTo (event : Event) (sent : (Id → Channel Event) × List Nat) (entry : Id × Nat) :
    (Id → Channel Event) × List Nat :=
  match (sent.1 entry.1).trySend event with
  | .ok channel => (Function.update sent.1 entry.1 channel, sent.2)
  | .error .closed => (sent.1, sent.2 ++ [entry.2])
  | .error .full => sent

def sendStatusEvent (array : StatusSenders Id Event) (event : Event) : Option (StatusSenders Id Event) :=
  let sent := array.senders.zipIdx.foldl (trySendTo event) (array.channels, [])
  (sent.2.reverse.foldlM swapRemoveChecked array.senders).map fun senders => ⟨sent.1, senders⟩

section Removal

variable {α : Type}

/-- What stands before the index keeps its place. -/
theorem swapRemove_append (front : List α) (item : α) (back : List α) :
    ∃ moved, swapRemove (front ++ item :: back) front.length = front ++ moved ∧ moved.Perm back := by
  induction back using List.reverseRecOn with
  | nil => exact ⟨[], by simp [swapRemove], .nil⟩
  | append_singleton back last _ =>
    refine ⟨last :: back, ?_, (List.perm_append_singleton last back).symm⟩
    have final : (front ++ item :: (back ++ [last])).getLast? = some last := by
      rw [← List.cons_append, ← List.append_assoc, List.getLast?_concat]
    rw [swapRemove, final]
    simp only [List.set_append_right _ _ (Nat.le_refl _), Nat.sub_self, List.set_cons_zero]
    rw [← List.cons_append, ← List.append_assoc, List.dropLast_concat]

def indicesOf (gone : α → Bool) (items : List α) : List Nat := (items.zipIdx.filter (gone ·.1)).map Prod.snd

theorem indicesOf_append (gone : α → Bool) (items : List α) (item : α) :
    indicesOf gone (items ++ [item]) = indicesOf gone items ++ if gone item then [items.length] else [] := by
  rw [indicesOf, List.zipIdx_append, List.filter_append, List.map_append, ← indicesOf]
  cases removed : gone item <;> simp [removed]

/-- From the last index to the first one, each index is still in range and hits the item that it was taken for. -/
theorem remove_indicesOf (gone : α → Bool) (front back : List α) :
    ∃ kept, (indicesOf gone front).reverse.foldlM swapRemoveChecked (front ++ back) = some kept ∧
      kept.Perm (front.filter (!gone ·) ++ back) := by
  induction front using List.reverseRecOn generalizing back with
  | nil => exact ⟨back, rfl, .refl _⟩
  | append_singleton front item ih =>
    rw [indicesOf_append]
    cases removed : gone item with
    | false =>
      obtain ⟨kept, rest, same⟩ := ih (item :: back)
      refine ⟨kept, by simpa using rest, ?_⟩
      simpa [List.filter_append, removed] using same
    | true =>
      obtain ⟨moved, swapped, shuffled⟩ := swapRemove_append front item back
      obtain ⟨kept, rest, same⟩ := ih moved
      refine ⟨kept, ?_, ?_⟩
      · have first : swapRemoveChecked (front ++ [item] ++ back) front.length = some (front ++ moved) := by
          rw [swapRemoveChecked, if_pos (by simp), List.append_assoc, List.singleton_append, swapped]
        rw [if_pos rfl, List.reverse_append, List.reverse_singleton, List.singleton_append, List.foldlM_cons, first]
        exact rest
      · have order := same.trans (shuffled.append_left _)
        simpa [List.filter_append, removed] using order

end Removal

section Sending

variable {event : Event} {channels : Id → Channel Event}

theorem trySendTo_eq (sent : (Id → Channel Event) × List Nat) (entry : Id × Nat) :
    trySendTo event sent entry = (Function.update sent.1 entry.1 ((sent.1 entry.1).offer event),
      if (sent.1 entry.1).closed then sent.2 ++ [entry.2] else sent.2) := by
  rw [trySendTo, Channel.offer, Channel.trySend]
  by_cases closed : (sent.1 entry.1).closed = true
  · simp [closed]
  · by_cases full : (sent.1 entry.1).isFull = true <;> simp [closed, full]

theorem closed_iterate (channel : Channel Event) (count : Nat) :
    ((Channel.offer · event)^[count] channel).closed = channel.closed := by
  induction count with
  | zero => rfl
  | succ count ih => rw [Function.iterate_succ_apply', Channel.offer_closed, ih]

/-- Each channel is offered the event as often as it is registered. -/
theorem trySendTo_loop (channels : Id → Channel Event) (senders : List Id) :
    senders.zipIdx.foldl (trySendTo event) (channels, []) =
      (fun id => (Channel.offer · event)^[senders.count id] (channels id),
        indicesOf (fun id => (channels id).closed) senders) := by
  induction senders using List.reverseRecOn with
  | nil => rfl
  | append_singleton senders sender ih =>
    rw [List.zipIdx_append, List.foldl_append, ih, indicesOf_append]
    simp only [List.zipIdx_cons, List.zipIdx_nil, List.foldl_cons, List.foldl_nil, trySendTo_eq, Nat.zero_add,
      closed_iterate]
    refine Prod.ext ?_ (by cases (channels sender).closed <;> simp)
    funext id
    dsimp only
    rw [List.count_append, List.count_singleton]
    by_cases same : sender = id
    · subst same
      simp [Function.iterate_succ_apply']
    · rw [Function.update_of_ne (Ne.symm same)]
      simp [same]

theorem sendStatusEvent_eq (array : StatusSenders Id Event) (event : Event) :
    ∃ senders, sendStatusEvent array event =
      some ⟨fun id => (Channel.offer · event)^[array.senders.count id] (array.channels id), senders⟩ ∧
      senders.Perm (array.senders.filter fun id => !(array.channels id).closed) := by
  obtain ⟨kept, removed, same⟩ := remove_indicesOf (fun id => (array.channels id).closed) array.senders []
  rw [List.append_nil] at removed same
  refine ⟨kept, ?_, same⟩
  simp only [sendStatusEvent, trySendTo_loop, removed, Option.map_some]

end Sending

theorem status_fan_out (array : StatusSenders Id Event) (event : Event) :
    ∃ after, sendStatusEvent array event = some after ∧
      (∀ id, array.senders.count id = 1 → (array.channels id).closed = false → (array.channels id).isFull = false →
        (after.channels id).queue = (array.channels id).queue ++ [event]) ∧
      (∀ id, after.channels id = if (array.channels id).closed then array.channels id
        else { array.channels id with
          queue := (array.channels id).queue ++
            List.replicate ((array.channels id).room (array.senders.count id)) event }) ∧
      after.senders.Perm (array.senders.filter fun id => !(array.channels id).closed) ∧
      ∀ id, after.senders.count id = if (array.channels id).closed then 0 else array.senders.count id := by
  obtain ⟨senders, sent, kept⟩ := sendStatusEvent_eq array event
  refine ⟨_, sent, ?_, fun id => Channel.offer_iterate _ event _, kept, ?_⟩
  · intro id once opened roomy
    simp [once, Channel.offer_eq, opened, roomy]
  · intro id
    rw [kept.count_eq]
    cases closed : (array.channels id).closed with
    | true =>
      rw [if_pos rfl, List.count_eq_zero]
      simp [closed]
    | false =>
      rw [if_neg (by simp), List.count_filter (by simp [closed])]

section Steps

variable {Info : Type} {event : NodeEvent Info} {state : MatchState Info}

def MatchState.channel (state : MatchState Info) (sender : Nat) : Channel (NodeEvent Info) :=
  (state.receivers[sender]?.map StatusReceiver.channel).getD (.new none)

theorem removeClosed_of_checked {α : Type} {items kept : List α} {closed : List Nat}
    (removed : closed.reverse.foldlM swapRemoveChecked items = some kept) : removeClosed items closed = kept := by
  unfold removeClosed
  generalize closed.reverse = indices at removed
  induction indices generalizing items with
  | nil =>
    cases removed
    rfl
  | cons index indices ih =>
    rw [List.foldlM_cons] at removed
    obtain ⟨rest, checked, removed⟩ := Option.bind_eq_some_iff.mp removed
    rw [swapRemoveChecked] at checked
    split at checked
    · cases checked
      exact ih removed
    · cases checked

theorem MatchState.channel_set {receiver : StatusReceiver Info} {sender : Nat} {channel : Channel (NodeEvent Info)}
    {phase : SpinnerPhase Info} (found : state.receivers[sender]? = some receiver) :
    { state with
      receivers := state.receivers.set sender { receiver with channel := channel }, spinner := phase }.channel =
      Function.update state.channel sender channel := by
  have inside : sender < state.receivers.length := (List.getElem?_eq_some_iff.mp found).1
  funext other
  by_cases same : other = sender
  · subst same
    simp [MatchState.channel, inside]
  · simp [MatchState.channel, List.getElem?_set_ne (Ne.symm same), same]

/-- A step of the spinner to the next sender is a turn of the loop. -/
theorem MatchState.step_trySend {index sender : Nat} {closed : List Nat} {receiver : StatusReceiver Info}
    (announcing : state.spinner = .announcing event index closed) (present : state.senders[index]? = some sender)
    (found : state.receivers[sender]? = some receiver) :
    ∃ after marked, state.step .trySend = some after ∧ after.senders = state.senders ∧
      after.receivers.length = state.receivers.length ∧ after.spinner = .announcing event (index + 1) marked ∧
      trySendTo event (state.channel, closed) (sender, index) = (after.channel, marked) := by
  have own : state.channel sender = receiver.channel := by simp [MatchState.channel, found]
  simp only [MatchState.step, announcing, present, found, Option.bind_some, Option.map_some]
  refine ⟨_, _, rfl, rfl, by simp, rfl, ?_⟩
  rw [trySendTo_eq, MatchState.channel_set found]
  simp only [own]
  refine Prod.ext rfl ?_
  cases result : receiver.channel.trySend event with
  | ok sent =>
    have opened : ¬receiver.channel.closed = true := by
      rw [← Channel.trySend_closed, result]
      simp
    simp [opened]
  | error error =>
    cases error with
    | closed => simp [Channel.trySend_closed.mp result]
    | full =>
      have opened : ¬receiver.channel.closed = true := by
        rw [← Channel.trySend_closed, result]
        simp
      simp [opened]

theorem MatchState.trySend_run (announcing : state.spinner = .announcing event 0 [])
    (registered : ∀ sender ∈ state.senders, sender < state.receivers.length) {turns : Nat}
    (bound : turns ≤ state.senders.length) :
    ∃ after closed, (matchWaiting Info).run state (List.replicate turns .trySend) = some after ∧
      after.senders = state.senders ∧ after.receivers.length = state.receivers.length ∧
      after.spinner = .announcing event turns closed ∧
      (state.senders.take turns).zipIdx.foldl (trySendTo event) (state.channel, []) = (after.channel, closed) := by
  induction turns with
  | zero => exact ⟨state, [], rfl, rfl, rfl, announcing, rfl⟩
  | succ turns ih =>
    obtain ⟨middle, closed, ran, senders, length, spinner, sent⟩ := ih (by omega)
    have inside : turns < state.senders.length := by omega
    have present : middle.senders[turns]? = some state.senders[turns] := by
      rw [senders]
      exact List.getElem?_eq_getElem inside
    have known : state.senders[turns] < middle.receivers.length := by
      rw [length]
      exact registered _ (List.getElem_mem inside)
    obtain ⟨after, marked, stepped, senders', length', spinner', turn⟩ :=
      step_trySend spinner present (List.getElem?_eq_getElem known)
    refine ⟨after, marked, ?_, senders'.trans senders, length'.trans length, spinner', ?_⟩
    · rw [List.replicate_succ', System.run_append]
      exact ⟨middle, ran, Option.bind_eq_some_iff.mpr ⟨after, stepped, rfl⟩⟩
    · rw [List.take_succ_eq_append_getElem inside, List.zipIdx_append, List.foldl_append, sent]
      simpa [Nat.min_eq_left (Nat.le_of_lt inside)] using turn

/-- Where no other task moves in between, the spinner's steps from one event to the next are `send_status_event`. -/
theorem MatchState.announce_run (recorded : state.spinner = .recorded event)
    (registered : ∀ sender ∈ state.senders, sender < state.receivers.length) :
    ∃ after, (matchWaiting Info).run state
        (.announce :: (List.replicate state.senders.length .trySend ++ [.removeClosed])) = some after ∧
      sendStatusEvent ⟨state.channel, state.senders⟩ event = some ⟨after.channel, after.senders⟩ := by
  have start : { state with spinner := .announcing event 0 [] }.spinner = .announcing event 0 [] := rfl
  obtain ⟨middle, closed, ran, senders, -, spinner, sent⟩ := trySend_run start registered (Nat.le_refl _)
  obtain ⟨kept, result, -⟩ := sendStatusEvent_eq ⟨state.channel, state.senders⟩ event
  have loop : state.senders.zipIdx.foldl (trySendTo event) (state.channel, []) = (middle.channel, closed) := by
    rw [List.take_length] at sent
    exact sent
  have removed : closed.reverse.foldlM swapRemoveChecked state.senders = some kept := by
    simp only [sendStatusEvent, loop] at result
    obtain ⟨kept', removed, same⟩ := Option.map_eq_some_iff.mp result
    have equal : kept' = kept := congrArg StatusSenders.senders same
    rw [removed, equal]
  refine ⟨{ middle with senders := kept, spinner := .idle }, ?_, ?_⟩
  · have first : state.step .announce = some { state with spinner := .announcing event 0 [] } := by
      simp [MatchState.step, recorded]
    have last : middle.step .removeClosed = some { middle with senders := kept, spinner := .idle } := by
      simp [MatchState.step, spinner, senders, removeClosed_of_checked removed]
    refine Option.bind_eq_some_iff.mpr ⟨_, first, ?_⟩
    rw [System.run_append]
    exact ⟨middle, ran, Option.bind_eq_some_iff.mpr ⟨_, last, rfl⟩⟩
  · simp only [sendStatusEvent, loop, removed, Option.map_some]
    rfl

end Steps

end Ros2Client
