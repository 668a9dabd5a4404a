import Std.Data.TreeMap.Lemmas
import Std.Data.TreeSet.Lemmas
import Ros2Client.Service.Identity
import Ros2Client.Transition.Channel

open Std (TreeMap TreeSet)
open Transition

namespace Ros2Client

instance : Ord GUID := ⟨compareOn GUID.bytes⟩

abbrev MatchTable := TreeMap GUID (TreeSet GUID)

def MatchTable.insertMatch (table : MatchTable) (localEndpoint remoteEndpoint : GUID) : MatchTable :=
  table.alter localEndpoint fun
    | some remotes => some (remotes.insert remoteEndpoint)
    | none => some (TreeSet.empty.insert remoteEndpoint)

def MatchTable.removeRemote (table : MatchTable) (guid : GUID) : MatchTable :=
  table.map fun _ remotes => remotes.erase guid

structure MatchTables where
  readersToRemoteWriters : MatchTable
  writersToRemoteReaders : MatchTable

inductive DomainParticipantStatusEvent
  | remoteReaderMatched (localWriter remoteReader : GUID)
  | remoteWriterMatched (localReader remoteWriter : GUID)
  | readerLost (guid : GUID)
  | writerLost (guid : GUID)
  | other
deriving DecidableEq

inductive NodeEvent (Info : Type)
  | dds (event : DomainParticipantStatusEvent)
  | ros (update : Info)
deriving DecidableEq

variable {Info : Type}

def MatchTables.record (tables : MatchTables) : NodeEvent Info → MatchTables
  | .dds (.remoteReaderMatched localWriter remoteReader) =>
    { tables with writersToRemoteReaders := tables.writersToRemoteReaders.insertMatch localWriter remoteReader }
  | .dds (.remoteWriterMatched localReader remoteWriter) =>
    { tables with readersToRemoteWriters := tables.readersToRemoteWriters.insertMatch localReader remoteWriter }
  | .dds (.readerLost guid) =>
    { tables with writersToRemoteReaders := tables.writersToRemoteReaders.removeRemote guid }
  | .dds (.writerLost guid) =>
    { tables with readersToRemoteWriters := tables.readersToRemoteWriters.removeRemote guid }
  | .dds .other | .ros _ => tables

/-- `Vec::swap_remove`: the last item takes the place of the removed one. -/
def swapRemove {α : Type} (items : List α) (index : Nat) : List α :=
  match items.getLast? with
  | some last => (items.set index last).dropLast
  | none => items

def removeClosed {α : Type} (senders : List α) (closed : List Nat) : List α :=
  closed.reverse.foldl swapRemove senders

theorem swapRemove_getElem? {α : Type} {items : List α} {index position : Nat} (earlier : position < index)
    (bound : index < items.length) : (swapRemove items index)[position]? = items[position]? := by
  have present : items ≠ [] := by
    intro same
    subst same
    simp at bound
  rw [swapRemove, List.getLast?_eq_some_getLast present]
  simp only [List.getElem?_dropLast, List.length_set, List.getElem?_set]
  rw [if_pos (by omega), if_neg (by omega)]

theorem mem_swapRemove {α : Type} {items : List α} {index : Nat} {item : α} (member : item ∈ items)
    (other : items[index]? ≠ some item) (bound : index < items.length) : item ∈ swapRemove items index := by
  obtain ⟨position, found⟩ := List.mem_iff_getElem?.mp member
  have apart : position ≠ index := fun same => other (same ▸ found)
  have inside : position < items.length := (List.getElem?_eq_some_iff.mp found).1
  have present : items ≠ [] := List.ne_nil_of_mem member
  rw [swapRemove, List.getLast?_eq_some_getLast present]
  rw [List.mem_iff_getElem?]
  by_cases last : position = items.length - 1
  · refine ⟨index, ?_⟩
    have final : items.getLast present = item := by
      rw [List.getLast_eq_getElem]
      exact (List.getElem?_eq_some_iff.mp (last ▸ found)).2
    simp only [List.getElem?_dropLast, List.length_set, List.getElem?_set, final]
    rw [if_pos (by omega), if_pos trivial, if_pos bound]
  · refine ⟨position, ?_⟩
    simp only [List.getElem?_dropLast, List.length_set, List.getElem?_set]
    rw [if_pos (by omega), if_neg (Ne.symm apart), found]

theorem mem_removeClosed {α : Type} {senders : List α} {closed : List Nat} {sender : α} (member : sender ∈ senders)
    (sorted : closed.Pairwise (· < ·)) (bound : ∀ index ∈ closed, index < senders.length)
    (other : ∀ index ∈ closed, senders[index]? ≠ some sender) : sender ∈ removeClosed senders closed := by
  have descending : closed.reverse.Pairwise (· > ·) := List.pairwise_reverse.mpr sorted
  replace bound : ∀ index ∈ closed.reverse, index < senders.length := by simpa using bound
  replace other : ∀ index ∈ closed.reverse, senders[index]? ≠ some sender := by simpa using other
  unfold removeClosed
  generalize closed.reverse = indices at *
  induction indices generalizing senders with
  | nil => exact member
  | cons index indices ih =>
    obtain ⟨below, rest⟩ := List.pairwise_cons.mp descending
    have inside := bound index (by simp)
    have length : (swapRemove senders index).length = senders.length - 1 := by
      have present : senders ≠ [] := List.ne_nil_of_mem member
      simp [swapRemove, List.getLast?_eq_some_getLast present]
    refine ih (mem_swapRemove member (other index (by simp)) inside) rest ?_ ?_
    · intro next present
      have := below next present
      omega
    · intro next present
      rw [swapRemove_getElem? (below next present) inside]
      exact other next (by simp [present])

end Ros2Client
