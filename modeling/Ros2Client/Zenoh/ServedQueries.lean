import Ros2Client.Transition.Traces
import Ros2Client.Zenoh.PendingQueries

open Transition

namespace Ros2Client.Zenoh

abbrev ServicePast (Request Response : Type) := List (Service Request × ServiceLabel Response)

variable {Request Response : Type} {ext : ZenohExt} {read : Query → Except ServiceError (AttachmentData × Request)}
  {write : Response → Except CdrError (List UInt8)} {state after : Service Request} {label : ServiceLabel Response}
  {past : ServicePast Request Response}

def ServiceLabel.arrives : ServiceLabel Response → Bool
  | .arrive .. => true
  | _ => false

def Event.query? : Event Request → Option Query
  | .accepted _ query _ => some query
  | .refused query _ => some query
  | .answered _ reply _ => reply.map Reply.query

def Service.seen (state : Service Request) : List Query :=
  state.server.queryable.queue ++ state.taken ++ state.history.filterMap Event.query?

theorem mem_seen {query : Query} : query ∈ state.seen ↔ query ∈ state.server.queryable.queue ∨ query ∈ state.taken ∨
    ∃ event ∈ state.history, event.query? = some query := by
  simp [Service.seen]

theorem accepted_seen {id : RmwRequestId} {query : Query} {request : Request}
    (accepted : .accepted id query request ∈ state.history) : query ∈ state.seen :=
  mem_seen.mpr (.inr (.inr ⟨_, accepted, rfl⟩))

theorem Service.step_accept {code : ServerCode Request Response} {index : Nat}
    (stepped : state.step code (.accept index) = some after) :
    ∃ query event, query ∈ state.taken ∧ event.query? = some query ∧ event.reply? = none ∧
      after.history = event :: state.history ∧ after.server.queryable = state.server.queryable ∧
      after.taken = state.taken.eraseIdx index ∧ ∀ id request, event = .accepted id query request →
        (code.accept state.server.pending query).2 = .ok (id, request) := by
  obtain ⟨query, looked, rfl⟩ := Option.map_eq_some_iff.mp stepped
  refine ⟨query, _, List.mem_of_getElem? looked, ?_, ?_, rfl, rfl, rfl, ?_⟩
  · split <;> rfl
  · split <;> rfl
  · intro id request same
    split at same
    · rename_i accepted
      cases same
      exact accepted
    · cases same

/-- A step sees a query only where it arrives. -/
theorem Service.seen_step (held : state.Sound ext) (stepped : state.step (.of ext read write) label = some after)
    {query : Query} (seen : query ∈ after.seen) :
    query ∈ state.seen ∨
      ∃ keyExpr payload attachment, label = .arrive keyExpr payload attachment ∧
        query = ⟨state.arrived, keyExpr, payload, attachment⟩ := by
  rw [mem_seen] at seen
  cases label with
  | arrive keyExpr payload attachment =>
    simp only [Service.step] at stepped
    split at stepped
    · cases stepped
    · cases stepped
      rcases seen with queued | rest
      · rcases List.mem_append.mp queued with old | new
        · exact .inl (mem_seen.mpr (.inl old))
        · exact .inr ⟨keyExpr, payload, attachment, rfl, List.mem_singleton.mp new⟩
      · exact .inl (mem_seen.mpr (.inr rest))
  | close =>
    cases stepped
    exact .inl (mem_seen.mpr seen)
  | receive =>
    simp only [Service.step] at stepped
    split at stepped
    · cases stepped
    · rename_i first rest queued
      cases stepped
      refine .inl (mem_seen.mpr ?_)
      rw [queued, List.mem_cons]
      rcases seen with later | taken | old
      · exact .inl (.inr later)
      · rcases List.mem_append.mp taken with old | new
        · exact .inr (.inl old)
        · exact .inl (.inl (List.mem_singleton.mp new))
      · exact .inr (.inr old)
  | accept index =>
    obtain ⟨first, event, taken, own, _, history, queryable, rest, _⟩ := Service.step_accept stepped
    rw [history, queryable, rest] at seen
    refine .inl (mem_seen.mpr ?_)
    rcases seen with queued | left | ⟨other, member, same⟩
    · exact .inl queued
    · exact .inr (.inl (List.mem_of_mem_eraseIdx left))
    · rcases List.mem_cons.mp member with rfl | old
      · rw [own] at same
        cases same
        exact .inr (.inl taken)
      · exact .inr (.inr ⟨other, old, same⟩)
  | sendResponse id response now sending =>
    obtain ⟨reply, result, rfl, sent⟩ := Service.step_sendResponse stepped
    rcases seen with queued | taken | ⟨event, member, same⟩
    · exact .inl (mem_seen.mpr (.inl queued))
    · exact .inl (mem_seen.mpr (.inr (.inl taken)))
    · rcases List.mem_cons.mp member with rfl | old
      · obtain ⟨replied, rfl, rfl⟩ := Option.map_eq_some_iff.mp same
        have found := sent replied rfl
        rw [held.pending] at found
        obtain ⟨request, accepted⟩ := latest_accepted found
        exact .inl (accepted_seen accepted)
      · exact .inl (mem_seen.mpr (.inr (.inr ⟨event, old, same⟩)))

theorem ServerCode.of_accept {pending : Pending} {query : Query} {id : RmwRequestId} {request : Request}
    (accepted : ((ServerCode.of ext read write).accept pending query).2 = .ok (id, request)) :
    ∃ a, read query = .ok (a, request) ∧ id = ⟨a.sourceGid, a.sequenceNumber⟩ := by
  simp only [ServerCode.of] at accepted
  split at accepted
  · rename_i a request' found
    cases accepted
    exact ⟨a, found, rfl⟩
  · cases accepted

theorem ServerCode.of_sendResponse {pending : Pending} {id : RmwRequestId} {response : Response} {now : Int64}
    {sending : Except String Unit} {reply : Reply}
    (sent : ((ServerCode.of ext read write).sendResponse pending id response now sending).2.1 = some reply) :
    pending.lookup id.key = some reply.query ∧ write response = .ok reply.payload := by
  simp only [ServerCode.of] at sent
  split at sent
  · cases sent
  · rename_i query found
    split at sent
    · cases sent
    · rename_i payload written
      cases sent
      exact ⟨found, written⟩

/-- What a step writes down. -/
theorem Service.history_step {code : ServerCode Request Response} (stepped : state.step code label = some after) :
    after.history = state.history ∨
    (∃ query event, after.history = event :: state.history ∧ event.reply? = none ∧ event.query? = some query ∧
      ∀ id request, event = .accepted id query request →
        (code.accept state.server.pending query).2 = .ok (id, request)) ∨
    ∃ id response now sending result, label = .sendResponse id response now sending ∧
      after.history =
        .answered id (code.sendResponse state.server.pending id response now sending).2.1 result :: state.history := by
  cases label with
  | arrive keyExpr payload attachment =>
    simp only [Service.step] at stepped
    split at stepped
    · cases stepped
    · cases stepped
      exact .inl rfl
  | close =>
    cases stepped
    exact .inl rfl
  | receive =>
    simp only [Service.step] at stepped
    split at stepped
    · cases stepped
    · cases stepped
      exact .inl rfl
  | accept index =>
    obtain ⟨query, event, _, own, silent, history, _, _, reads⟩ := Service.step_accept stepped
    exact .inr (.inl ⟨query, event, history, silent, own, reads⟩)
  | sendResponse id response now sending =>
    cases stepped
    exact .inr (.inr ⟨id, response, now, sending, _, rfl, rfl⟩)

theorem Service.replies_step {code : ServerCode Request Response} (stepped : state.step code label = some after)
    {reply : Reply} (replied : reply ∈ state.replies) : reply ∈ after.replies := by
  have longer : state.history.Sublist after.history := by
    rcases Service.history_step stepped with same | ⟨_, event, same, _⟩ | ⟨id, response, now, sending, result, _, same⟩
    · rw [same]
    · rw [same]
      exact List.sublist_cons_self ..
    · rw [same]
      exact List.sublist_cons_self ..
  exact (longer.filterMap Event.reply?).subset replied

theorem Service.arrived_step {code : ServerCode Request Response} (stepped : state.step code label = some after) :
    after.arrived = state.arrived + if label.arrives then 1 else 0 := by
  cases label with
  | arrive keyExpr payload attachment =>
    simp only [Service.step] at stepped
    split at stepped
    · cases stepped
    · cases stepped
      rfl
  | receive =>
    simp only [Service.step] at stepped
    split at stepped
    · cases stepped
    · cases stepped
      rfl
  | accept index =>
    obtain ⟨query, _, rfl⟩ := Option.map_eq_some_iff.mp stepped
    rfl
  | close | sendResponse =>
    cases stepped
    rfl

/-- What the application got of a query is what the query carries. -/
theorem accepted_read (reachable : (serving (.of ext read write)).Reachable state) {id : RmwRequestId} {query : Query}
    {request : Request} (accepted : .accepted id query request ∈ state.history) :
    ∃ a, read query = .ok (a, request) ∧ id = ⟨a.sourceGid, a.sequenceNumber⟩ := by
  refine reachable.invariant (fun state => ∀ id query request, .accepted id query request ∈ state.history →
    ∃ a, read query = .ok (a, request) ∧ id = ⟨a.sourceGid, a.sequenceNumber⟩) ?_ ?_ id query request accepted
  · intro id query request member
    cases member
  · intro before label after held stepped id query request member
    rcases Service.history_step stepped with same | ⟨first, event, same, _, own, reads⟩ |
      ⟨id', response, now, sending, result, _, same⟩
    · rw [same] at member
      exact held id query request member
    · rw [same] at member
      rcases List.mem_cons.mp member with new | old
      · subst new
        cases own
        exact ServerCode.of_accept (reads id request rfl)
      · exact held id query request old
    · rw [same] at member
      rcases List.mem_cons.mp member with new | old
      · cases new
      · exact held id query request old

/-- The application has given a response for which a server has sent this reply. -/
def ServerCode.Given (code : ServerCode Request Response) (past : ServicePast Request Response) (reply : Reply) :
    Prop :=
  ∃ before id response now sending, (before, .sendResponse id response now sending) ∈ past ∧
    (serving code).Reachable before ∧ (code.sendResponse before.server.pending id response now sending).2.1 = some reply

theorem ServerCode.Given.later {code : ServerCode Request Response} {reply : Reply} (given : code.Given past reply)
    (entry : Service Request × ServiceLabel Response) : code.Given (entry :: past) reply := by
  obtain ⟨before, id, response, now, sending, earlier, rest⟩ := given
  exact ⟨before, id, response, now, sending, List.mem_cons_of_mem _ earlier, rest⟩

theorem given_reachable {code : ServerCode Request Response}
    (reachable : (serving code).traced.Reachable (state, past)) :
    ∀ reply ∈ state.replies, code.Given past reply := by
  refine reachable.traced_invariant (fun state past => ∀ reply ∈ state.replies, code.Given past reply) ?_ ?_
  · intro reply member
    cases member
  · intro before label after past reached held moved reply member
    obtain ⟨event, recorded, replies⟩ := List.mem_filterMap.mp member
    have old : event ∈ before.history → code.Given ((before, label) :: past) reply :=
      fun earlier => (held reply (List.mem_filterMap.mpr ⟨event, earlier, replies⟩)).later _
    rcases Service.history_step moved with same | ⟨_, event', same, silent, _, _⟩ |
      ⟨id, response, now, sending, result, rfl, same⟩
    · exact old (same ▸ recorded)
    · rw [same] at recorded
      rcases List.mem_cons.mp recorded with rfl | earlier
      · rw [silent] at replies
        cases replies
      · exact old earlier
    · rw [same] at recorded
      rcases List.mem_cons.mp recorded with rfl | earlier
      · exact ⟨before, id, response, now, sending, List.mem_cons_self, reached.of_traced, replies⟩
      · exact old earlier

/-- Every reply goes back to a response that the application gave while the query was pending. -/
theorem reply_given
    (reads : ∀ query a request, read query = .ok (a, request) → query.Carries ext ⟨a.sourceGid, a.sequenceNumber⟩)
    (reachable : (serving (.of ext read write)).traced.Reachable (state, past)) {reply : Reply}
    (replied : reply ∈ state.replies) :
    ∃ before id response now sending, (before, .sendResponse id response now sending) ∈ past ∧
      (serving (.of ext read write)).Reachable before ∧ latest id before.history = some reply.query ∧
      write response = .ok reply.payload := by
  obtain ⟨before, id, response, now, sending, member, reached, given⟩ := given_reachable reachable reply replied
  obtain ⟨found, written⟩ := ServerCode.of_sendResponse given
  refine ⟨before, id, response, now, sending, member, reached, ?_, written⟩
  rw [← (Service.Sound.reachable reads reached).pending]
  exact found

end Ros2Client.Zenoh
