import Mathlib.Data.List.Basic
import Mathlib.Logic.Function.Iterate

namespace Transition

/-- A queue from any number of senders to one receiver. Without a capacity it is never full. It is
    closed once either side is gone. -/
structure Channel (α : Type) where
  capacity : Option Nat
  queue : List α
  closed : Bool
deriving DecidableEq

inductive TrySendError
  | full
  | closed
deriving DecidableEq

variable {α : Type}

def Channel.new (capacity : Option Nat) : Channel α := ⟨capacity, [], false⟩

def Channel.isFull (channel : Channel α) : Bool := channel.capacity.any (· ≤ channel.queue.length)

def Channel.trySend (channel : Channel α) (item : α) : Except TrySendError (Channel α) :=
  if channel.closed then .error .closed
  else if channel.isFull then .error .full
  else .ok { channel with queue := channel.queue ++ [item] }

def Channel.offer (channel : Channel α) (item : α) : Channel α :=
  match channel.trySend item with
  | .ok sent => sent
  | .error _ => channel

def Channel.close (channel : Channel α) : Channel α := { channel with closed := true }

theorem Channel.trySend_closed {channel : Channel α} {item : α} :
    channel.trySend item = .error .closed ↔ channel.closed = true := by
  unfold trySend
  split
  · simp_all
  · split <;> simp_all

theorem Channel.offer_eq (channel : Channel α) (item : α) :
    channel.offer item = if channel.closed = true ∨ channel.isFull = true then channel
      else { channel with queue := channel.queue ++ [item] } := by
  unfold offer trySend
  by_cases closed : channel.closed = true
  · simp [closed]
  · by_cases full : channel.isFull = true <;> simp [closed, full]

@[simp] theorem Channel.offer_closed (channel : Channel α) (item : α) :
    (channel.offer item).closed = channel.closed := by
  rw [offer_eq]
  split <;> rfl

@[simp] theorem Channel.offer_capacity (channel : Channel α) (item : α) :
    (channel.offer item).capacity = channel.capacity := by
  rw [offer_eq]
  split <;> rfl

theorem Channel.mem_offer_of_mem {channel : Channel α} {item other : α} (member : other ∈ channel.queue) :
    other ∈ (channel.offer item).queue := by
  rw [offer_eq]
  split
  · exact member
  · exact List.mem_append_left _ member

theorem Channel.mem_of_mem_offer {channel : Channel α} {item other : α} (member : other ∈ (channel.offer item).queue) :
    other ∈ channel.queue ∨ other = item := by
  rw [offer_eq] at member
  split at member
  · exact .inl member
  · exact (List.mem_append.mp member).imp_right List.mem_singleton.mp

theorem Channel.mem_offer {channel : Channel α} {item : α} (opened : channel.closed = false)
    (unbounded : channel.capacity = none) : item ∈ (channel.offer item).queue := by
  simp [offer_eq, opened, isFull, unbounded]

/-- After an offer an open channel is not empty: it has taken the item, or was full. -/
theorem Channel.offer_queue_ne_nil {channel : Channel α} {item : α} (opened : channel.closed = false)
    (roomy : channel.capacity ≠ some 0) : (channel.offer item).queue ≠ [] := by
  rw [offer_eq]
  split
  · rename_i refused
    rcases refused with closed | full
    · simp [opened] at closed
    · intro empty
      obtain ⟨limit, found, reached⟩ := (Option.any_eq_true _ _).mp full
      rw [empty, List.length_nil, decide_eq_true_eq, Nat.le_zero] at reached
      exact roomy (reached ▸ found)
  · simp

def Channel.room (channel : Channel α) (count : Nat) : Nat :=
  match channel.capacity with
  | none => count
  | some limit => min count (limit - channel.queue.length)

theorem Channel.offer_iterate (channel : Channel α) (item : α) (count : Nat) :
    (Channel.offer · item)^[count] channel = if channel.closed = true then channel
      else { channel with queue := channel.queue ++ List.replicate (channel.room count) item } := by
  induction count with
  | zero =>
    have none : channel.room 0 = 0 := by
      unfold room
      split <;> simp
    simp [none]
  | succ count ih =>
    rw [Function.iterate_succ_apply', ih]
    obtain ⟨capacity, queue, closed⟩ := channel
    cases closed with
    | true => simp [offer_eq]
    | false =>
      simp only [Bool.false_eq_true, if_false, offer_eq, isFull, room, false_or]
      cases capacity with
      | none => simp [List.replicate_succ']
      | some limit =>
        simp only [Option.any_some, List.length_append, List.length_replicate, decide_eq_true_eq]
        by_cases full : limit ≤ queue.length + min count (limit - queue.length)
        · have same : min (count + 1) (limit - queue.length) = min count (limit - queue.length) := by omega
          rw [if_pos full, same]
        · have more : min (count + 1) (limit - queue.length) = min count (limit - queue.length) + 1 := by omega
          rw [if_neg full, more, List.replicate_succ', List.append_assoc]

end Transition
