import Ros2Client.Zenoh.PendingQueries

open Transition

namespace Ros2Client.Zenoh

variable {Request Response Req Resp : Type}

/-- An accepted query stays pending until a response is sent for its id. -/
def KeepsAccepted (system : System (Service Request) (ServiceLabel Response)) : Prop :=
  ∀ state, system.Reachable state → ∀ later id query request earlier,
    state.history = later ++ .accepted id query request :: earlier →
    (∀ reply result, .answered id reply result ∉ later) →
    state.server.pending.lookup id.key = some query

def Service.displaces (read : Query → Except ServiceError (AttachmentData × Request)) (state : Service Request) :
    ServiceLabel Response → Bool
  | .accept index => state.taken[index]?.any fun query =>
    match read query with
    | .ok (a, _) => (state.server.pending.lookup (gidKey a.sourceGid, a.sequenceNumber)).isSome
    | .error _ => false
  | _ => false

section

variable {ext : ZenohExt} {read : Query → Except ServiceError (AttachmentData × Request)}
  {write : Response → Except CdrError (List UInt8)} {state after : Service Request}

/-- What a step that displaces nothing does to the history, and how the pending queries follow it. -/
theorem Service.step_history {label : ServiceLabel Response} (kept : state.displaces read label = false)
    (stepped : state.step (.of ext read write) label = some after) :
    (after.history = state.history ∧ after.server.pending = state.server.pending) ∨
    (∃ query error, after.history = .refused query error :: state.history ∧
      after.server.pending = state.server.pending) ∨
    (∃ id query request, after.history = .accepted id query request :: state.history ∧
      state.server.pending.lookup id.key = none ∧ after.server.pending = state.server.pending.insert id.key query) ∨
    ∃ id reply result, after.history = .answered id reply result :: state.history ∧
      ∀ other : RmwRequestId, other ≠ id →
        after.server.pending.lookup other.key = state.server.pending.lookup other.key := by
  cases label with
  | arrive keyExpr payload attachment =>
    simp only [Service.step] at stepped
    split at stepped
    · cases stepped
    · cases stepped
      exact .inl ⟨rfl, rfl⟩
  | close =>
    cases stepped
    exact .inl ⟨rfl, rfl⟩
  | receive =>
    simp only [Service.step] at stepped
    split at stepped
    · cases stepped
    · cases stepped
      exact .inl ⟨rfl, rfl⟩
  | accept index =>
    obtain ⟨query, looked, rfl⟩ := Option.map_eq_some_iff.mp stepped
    cases readResult : read query with
    | error error =>
      right; left
      exact ⟨query, error, by simp [Service.accept, ServerCode.of, readResult]⟩
    | ok found =>
      obtain ⟨a, request⟩ := found
      right; right; left
      simp only [Service.displaces, looked, Option.any_some, readResult, Option.isSome_eq_false_iff,
        Option.isNone_iff_eq_none] at kept
      exact ⟨⟨a.sourceGid, a.sequenceNumber⟩, query, request, by simp [Service.accept, ServerCode.of, readResult], kept,
        by simp [Service.accept, ServerCode.of, readResult, RmwRequestId.key]⟩
  | sendResponse id response now sending =>
    right; right; right
    obtain ⟨reply, result, rfl, _⟩ := Service.step_sendResponse stepped
    refine ⟨id, reply, result, rfl, ?_⟩
    intro other different
    exact AList.lookup_erase_ne fun same => different (RmwRequestId.key_inj.mp same)

theorem keepsAccepted_of_fresh (ext : ZenohExt) (read : Query → Except ServiceError (AttachmentData × Request))
    (write : Response → Except CdrError (List UInt8)) :
    KeepsAccepted ((serving (.of ext read write)).restrict fun state label => state.displaces read label = false) := by
  intro state reachable
  induction reachable with
  | initial =>
    intro later id query request earlier split
    simp [System.restrict, serving] at split
  | @step before after label _ stepped ih =>
    obtain ⟨kept, stepped⟩ := System.restrict_step.mp stepped
    intro later id query request earlier split unanswered
    have inherited : ∀ event, after.history = event :: before.history → event = .accepted id query request ∨
        event ∈ later ∧ before.server.pending.lookup id.key = some query := by
      intro event recorded
      rw [recorded, List.cons_eq_append_iff] at split
      rcases split with ⟨_, same⟩ | ⟨rest, same, split⟩
      · exact .inl (List.cons.inj same).1.symm
      · have member : event ∈ later := same ▸ List.mem_cons_self
        refine .inr ⟨member, ih rest id query request earlier split ?_⟩
        intro reply result answered
        exact unanswered reply result (same ▸ List.mem_cons_of_mem _ answered)
    rcases Service.step_history kept stepped with ⟨same, pending⟩ | ⟨refused, error, same, pending⟩ |
      ⟨new, newer, newRequest, same, free, pending⟩ | ⟨old, reply, result, same, pending⟩
    · rw [same] at split
      rw [pending]
      exact ih later id query request earlier split unanswered
    · rw [pending]
      rcases inherited _ same with new | ⟨_, found⟩
      · cases new
      · exact found
    · rw [pending]
      rcases inherited _ same with latest | ⟨_, found⟩
      · cases latest
        exact AList.lookup_insert _
      · have other : id.key ≠ new.key := by
          intro clash
          rw [clash, free] at found
          cases found
        rw [AList.lookup_insert_ne other, found]
    · rcases inherited _ same with new | ⟨member, found⟩
      · cases new
      · have other : id ≠ old := by
          intro clash
          subst clash
          exact unanswered reply result member
        rw [pending id other, found]

end

theorem accepted_queries_stay_pending (ext : ZenohExt) (codec : CdrEncoding Req) (respCodec : CdrEncoding Resp) :
    KeepsAccepted ((serving (Server.code ext codec respCodec)).restrict fun state label =>
      state.displaces (Server.read ext codec) label = false) ∧
    KeepsAccepted ((serving (RawServer.code ext)).restrict fun state label =>
      state.displaces (RawServer.read ext) label = false) := by
  rw [Server.code_eq, RawServer.code_eq]
  exact ⟨keepsAccepted_of_fresh ext _ _, keepsAccepted_of_fresh ext _ _⟩

def retriedGid : Gid := ⟨List.replicate 16 7, rfl⟩

/-- A client sends one request twice, and both copies reach the server before the first is answered. -/
def retriedRequest {Response : Type} : List (ServiceLabel Response) :=
  let attachment := AttachmentData.toZbytes zenohExt ⟨1, 0, retriedGid⟩
  let query := .arrive "0/add_two_ints".toList (some [0, 1, 0, 0, 5, 0, 0, 0]) (some attachment)
  [query, query, .receive, .receive, .accept 0, .accept 0]

def Service.lostFirst (state : Service Request) : Bool :=
  let id : RmwRequestId := ⟨retriedGid, 1⟩
  match state.history with
  | [.accepted second _ _, .accepted first query _] =>
    second = id && first = id && (state.server.pending.lookup id.key).any (· ≠ query)
  | _ => false

theorem Service.lostFirst_spec {state : Service Request} {system : System (Service Request) (ServiceLabel Response)}
    (reachable : system.Reachable state) (lost : state.lostFirst = true) : ¬KeepsAccepted system := by
  intro keeps
  unfold Service.lostFirst at lost
  split at lost
  · rename_i second newer request first query request' history
    simp only [Bool.and_eq_true, decide_eq_true_eq] at lost
    obtain ⟨⟨rfl, rfl⟩, lost⟩ := lost
    have found := keeps state reachable [_] _ query request' [] history (by simp)
    simp [found] at lost
  · cases lost

theorem retry_displaces_pending_query :
    ¬KeepsAccepted (serving (Server.code zenohExt cdrWord32 cdrWord32)) ∧
    ¬KeepsAccepted (serving (RawServer.code zenohExt)) := by
  constructor
  · obtain ⟨state, reachable, lost⟩ := System.reachable_of_check
      (serving (Server.code zenohExt cdrWord32 cdrWord32)) retriedRequest Service.lostFirst (by decide)
    exact Service.lostFirst_spec reachable lost
  · obtain ⟨state, reachable, lost⟩ := System.reachable_of_check
      (serving (RawServer.code zenohExt)) retriedRequest Service.lostFirst (by decide)
    exact Service.lostFirst_spec reachable lost

end Ros2Client.Zenoh
