import Mathlib.Data.Set.Card
import Ros2Client.Node.MatchWait
import Ros2Client.Transition.Histories

open Std (TreeMap TreeSet)
open Transition

namespace Ros2Client

variable {Info : Type}

instance : Std.TransOrd GUID := inferInstanceAs (Std.TransCmp (compareOn GUID.bytes))

instance : Std.LawfulEqOrd GUID where
  compare_self {guid} := by
    change compare guid.bytes guid.bytes = .eq
    exact Std.ReflOrd.compare_self
  eq_of_compare {first second} same := by
    obtain ⟨bytes, size⟩ := first
    obtain ⟨bytes', size'⟩ := second
    have equal : bytes = bytes' := Std.LawfulEqCmp.eq_of_compare (show compare bytes bytes' = .eq from same)
    subst equal
    rfl

def MatchTable.remotes (table : MatchTable) (localEndpoint : GUID) : TreeSet GUID := table[localEndpoint]?.getD ∅

def MatchTables.getPublisherCount (tables : MatchTables) (subscriptionGuid : GUID) : Nat :=
  (tables.readersToRemoteWriters[subscriptionGuid]?.map TreeSet.size).getD 0

def MatchTables.getSubscriptionCount (tables : MatchTables) (publisherGuid : GUID) : Nat :=
  (tables.writersToRemoteReaders[publisherGuid]?.map TreeSet.size).getD 0

section Sets

variable {table : MatchTable} {localEndpoint remoteEndpoint endpoint remote : GUID}

theorem MatchTable.mem_insertMatch : remote ∈ (table.insertMatch localEndpoint remoteEndpoint).remotes endpoint ↔
    (localEndpoint = endpoint ∧ remoteEndpoint = remote) ∨ remote ∈ table.remotes endpoint := by
  rw [insertMatch, remotes, remotes, TreeMap.getElem?_alter]
  by_cases same : localEndpoint = endpoint
  · subst same
    rw [if_pos Std.ReflOrd.compare_self]
    cases table[localEndpoint]? with
    | none => simp [TreeSet.mem_insert]
    | some set => simp [TreeSet.mem_insert]
  · have apart : compare localEndpoint endpoint ≠ .eq := fun equal => same (Std.LawfulEqCmp.eq_of_compare equal)
    rw [if_neg apart]
    simp [same]

theorem MatchTable.mem_removeRemote : remote ∈ (table.removeRemote remoteEndpoint).remotes endpoint ↔
    remoteEndpoint ≠ remote ∧ remote ∈ table.remotes endpoint := by
  rw [removeRemote, remotes, remotes, TreeMap.getElem?_map]
  cases table[endpoint]? with
  | none => simp
  | some set => simp [TreeSet.mem_erase]

theorem MatchTable.size_remotes : (table[endpoint]?.map TreeSet.size).getD 0 = (table.remotes endpoint).size := by
  rw [remotes]
  cases table[endpoint]? with
  | none => rfl
  | some set => rfl

end Sets

theorem size_eq_ncard (set : TreeSet GUID) : set.size = {guid | guid ∈ set}.ncard := by
  have distinct : set.toList.Nodup := by
    refine set.distinct_toList.imp ?_
    rintro first second apart rfl
    exact apart Std.ReflOrd.compare_self
  have members : {guid | guid ∈ set} = (set.toList.toFinset : Set GUID) := by
    ext guid
    simp
  rw [members, Set.ncard_coe_finset, List.toFinset_card_of_nodup distinct, TreeSet.length_toList]

def MatchSide.matched : MatchSide → GUID → GUID → DomainParticipantStatusEvent
  | .readerWaitsForWriter, localReader, remoteWriter => .remoteWriterMatched localReader remoteWriter
  | .writerWaitsForReader, localWriter, remoteReader => .remoteReaderMatched localWriter remoteReader

def MatchSide.lost : MatchSide → GUID → DomainParticipantStatusEvent
  | .readerWaitsForWriter, guid => .writerLost guid
  | .writerWaitsForReader, guid => .readerLost guid

def MatchSide.concerns (side : MatchSide) (localEndpoint remoteEndpoint : GUID) (event : NodeEvent Info) : Bool :=
  match event with
  | .dds event => event = side.matched localEndpoint remoteEndpoint || event = side.lost remoteEndpoint
  | .ros _ => false

/-- The remote endpoints whose last event among the matches with the local one and their losses was a match. -/
def lastMatched (side : MatchSide) (events : List (NodeEvent Info)) (localEndpoint : GUID) : Set GUID :=
  {remoteEndpoint | lastOf (side.concerns localEndpoint remoteEndpoint) events =
    some (.dds (side.matched localEndpoint remoteEndpoint))}

section Histories

variable {side : MatchSide} {localEndpoint remoteEndpoint : GUID} {tables : MatchTables} {event : NodeEvent Info}

theorem MatchTables.mem_record_concerned (concerned : side.concerns localEndpoint remoteEndpoint event = true) :
    remoteEndpoint ∈ ((tables.record event).table side).remotes localEndpoint ↔
      event = .dds (side.matched localEndpoint remoteEndpoint) := by
  cases event with
  | ros update => cases concerned
  | dds event =>
    simp only [MatchSide.concerns, Bool.or_eq_true, decide_eq_true_eq] at concerned
    rcases concerned with rfl | rfl
    · cases side <;> simp [MatchSide.matched, record, table, MatchTable.mem_insertMatch]
    · cases side <;> simp [MatchSide.matched, MatchSide.lost, record, table, MatchTable.mem_removeRemote]

theorem MatchTables.mem_record_other (other : side.concerns localEndpoint remoteEndpoint event = false) :
    remoteEndpoint ∈ ((tables.record event).table side).remotes localEndpoint ↔
      remoteEndpoint ∈ (tables.table side).remotes localEndpoint := by
  cases event with
  | ros update => rfl
  | dds event =>
    simp only [MatchSide.concerns, Bool.or_eq_false_iff, decide_eq_false_iff_not] at other
    cases side <;> cases event <;>
      simp_all [MatchSide.matched, MatchSide.lost, record, table, MatchTable.mem_insertMatch,
        MatchTable.mem_removeRemote]

/-- The table after a history of events, from an empty one. -/
theorem MatchTables.mem_after (side : MatchSide) (events : List (NodeEvent Info)) :
    remoteEndpoint ∈ ((events.foldl record ⟨∅, ∅⟩).table side).remotes localEndpoint ↔
      remoteEndpoint ∈ lastMatched side events localEndpoint := by
  have absent : remoteEndpoint ∉ ((⟨∅, ∅⟩ : MatchTables).table side).remotes localEndpoint := by
    cases side <;> simp [table, MatchTable.remotes]
  have last := holds_iff_last record (side.concerns localEndpoint remoteEndpoint)
    (fun tables => remoteEndpoint ∈ (tables.table side).remotes localEndpoint)
    (fun tables event concerned => mem_record_concerned concerned)
    (fun tables event other => mem_record_other other) absent events
  rw [last]
  simp [lastMatched]

end Histories

def MatchLabel.recorded : MatchLabel Info → Option (NodeEvent Info)
  | .record event => some event
  | _ => none

theorem MatchState.step_record {before after : MatchState Info} {event : NodeEvent Info}
    (stepped : before.step (.record event) = some after) : after.tables = before.tables.record event := by
  simp only [step] at stepped
  split at stepped
  · cases stepped
    rfl
  · cases stepped

theorem MatchState.step_tables {before after : MatchState Info} {label : MatchLabel Info}
    (stepped : before.step label = some after) (unrecorded : label.recorded = none) : after.tables = before.tables := by
  cases label with
  | record event => cases unrecorded
  | announce =>
    simp only [step] at stepped
    split at stepped <;> cases stepped
    rfl
  | trySend =>
    simp only [step] at stepped
    split at stepped
    · obtain ⟨sender, -, stepped⟩ := Option.bind_eq_some_iff.mp stepped
      obtain ⟨receiver, -, rfl⟩ := Option.map_eq_some_iff.mp stepped
      rfl
    · cases stepped
  | removeClosed =>
    simp only [step] at stepped
    split at stepped
    · split at stepped <;> cases stepped
      rfl
    · cases stepped
  | register holder =>
    simp only [step] at stepped
    split at stepped
    · split at stepped <;> cases stepped
      rfl
    · split at stepped <;> cases stepped
      rfl
    · cases stepped
  | receiver index action =>
    obtain ⟨receiver, -, stepped⟩ := Option.bind_eq_some_iff.mp stepped
    obtain ⟨moved, -, rfl⟩ := Option.map_eq_some_iff.mp stepped
    rfl
  | shutdown =>
    simp only [step] at stepped
    split at stepped <;> cases stepped
    rfl

theorem MatchState.run_tables {state : MatchState Info} {labels : List (MatchLabel Info)}
    (ran : (matchWaiting Info).run (matchWaiting Info).initial labels = some state) :
    state.tables = (labels.filterMap MatchLabel.recorded).foldl MatchTables.record ⟨∅, ∅⟩ := by
  refine System.run_view MatchState.tables MatchTables.record MatchLabel.recorded ?_ ?_ ran
  · intro before label after event stepped carried
    cases label with
    | record event' =>
      cases carried
      exact step_record stepped
    | _ => cases carried
  · intro before label after stepped unrecorded
    exact step_tables stepped unrecorded

theorem MatchTables.count_after (side : MatchSide) (events : List (NodeEvent Info)) (localEndpoint : GUID) :
    (((events.foldl record ⟨∅, ∅⟩).table side)[localEndpoint]?.map TreeSet.size).getD 0 =
      (lastMatched side events localEndpoint).ncard := by
  have members : {remote | remote ∈ ((events.foldl record ⟨∅, ∅⟩).table side).remotes localEndpoint} =
      lastMatched side events localEndpoint := by
    ext remote
    exact mem_after side events
  rw [MatchTable.size_remotes, size_eq_ncard, members]

theorem lastMatched_of_unmatched {side : MatchSide} {events : List (NodeEvent Info)} {localEndpoint : GUID}
    (unmatched : ∀ remote, .dds (side.matched localEndpoint remote) ∉ events) :
    lastMatched side events localEndpoint = ∅ := by
  ext remote
  simp only [lastMatched, Set.mem_ofPred_eq, Set.mem_empty_iff_false, iff_false]
  intro last
  exact unmatched remote (lastOf_spec last).1

theorem match_tables_follow_discovery {state : MatchState Info} {labels : List (MatchLabel Info)}
    (ran : (matchWaiting Info).run (matchWaiting Info).initial labels = some state) :
    let events := labels.filterMap MatchLabel.recorded
    (∀ writer reader, reader ∈ state.tables.writersToRemoteReaders.remotes writer ↔
      reader ∈ lastMatched .writerWaitsForReader events writer) ∧
    (∀ reader writer, writer ∈ state.tables.readersToRemoteWriters.remotes reader ↔
      writer ∈ lastMatched .readerWaitsForWriter events reader) ∧
    (∀ writer, state.tables.getSubscriptionCount writer = (lastMatched .writerWaitsForReader events writer).ncard) ∧
    (∀ reader, state.tables.getPublisherCount reader = (lastMatched .readerWaitsForWriter events reader).ncard) ∧
    (∀ writer, (∀ reader, .dds (.remoteReaderMatched writer reader) ∉ events) →
      state.tables.getSubscriptionCount writer = 0) ∧
    (∀ reader, (∀ writer, .dds (.remoteWriterMatched reader writer) ∉ events) →
      state.tables.getPublisherCount reader = 0) ∧
    (∀ tables : MatchTables, tables.record (.dds .other : NodeEvent Info) = tables) ∧
    ∀ (tables : MatchTables) (update : Info), tables.record (.ros update) = tables := by
  intro events
  have after : state.tables = events.foldl MatchTables.record ⟨∅, ∅⟩ := MatchState.run_tables ran
  have subscriptions : ∀ writer, state.tables.getSubscriptionCount writer =
      (lastMatched .writerWaitsForReader events writer).ncard := by
    intro writer
    rw [after]
    exact MatchTables.count_after .writerWaitsForReader events writer
  have publishers : ∀ reader, state.tables.getPublisherCount reader =
      (lastMatched .readerWaitsForWriter events reader).ncard := by
    intro reader
    rw [after]
    exact MatchTables.count_after .readerWaitsForWriter events reader
  refine ⟨?_, ?_, subscriptions, publishers, ?_, ?_, fun _ => rfl, fun _ _ => rfl⟩
  · intro writer reader
    rw [after]
    exact MatchTables.mem_after .writerWaitsForReader events
  · intro reader writer
    rw [after]
    exact MatchTables.mem_after .readerWaitsForWriter events
  · intro writer unmatched
    rw [subscriptions, lastMatched_of_unmatched unmatched, Set.ncard_empty]
  · intro reader unmatched
    rw [publishers, lastMatched_of_unmatched unmatched, Set.ncard_empty]

/-- A writer is matched by two readers, of which the first one is lost. -/
theorem match_tables_follow_discovery_loss :
    let writer : GUID := ⟨List.replicate 16 1, rfl⟩
    let first : GUID := ⟨List.replicate 16 2, rfl⟩
    let second : GUID := ⟨List.replicate 16 3, rfl⟩
    let labels : List (MatchLabel Unit) :=
      [.record (.dds (.remoteReaderMatched writer first)), .announce, .removeClosed,
        .record (.dds (.remoteReaderMatched writer second)), .announce, .removeClosed,
        .record (.dds (.readerLost first)), .announce, .removeClosed]
    ∃ state, (matchWaiting Unit).run (matchWaiting Unit).initial labels = some state ∧
      first ∉ state.tables.writersToRemoteReaders.remotes writer ∧
      second ∈ state.tables.writersToRemoteReaders.remotes writer := by
  intro writer first second labels
  obtain ⟨state, ran⟩ : ∃ state, (matchWaiting Unit).run (matchWaiting Unit).initial labels = some state := ⟨_, rfl⟩
  have follows := (match_tables_follow_discovery ran).1
  refine ⟨state, ran, ?_, ?_⟩
  · rw [follows]
    change ¬lastOf _ _ = some _
    decide
  · rw [follows]
    change lastOf _ _ = some _
    decide

end Ros2Client
