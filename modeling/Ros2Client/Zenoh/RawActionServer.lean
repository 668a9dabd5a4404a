import Ros2Client.Zenoh.ActionMessages
import Ros2Client.Zenoh.AnswersOnce
import Ros2Client.Zenoh.ServedQueries

open Transition

namespace Ros2Client.Zenoh

variable {Result Req : Type}

def ActionServer.tryReceiveResultRequest (ext : ZenohExt) (respCodec : CdrEncoding (GetResultResponse Result))
    (getResult : QueryServer) : QueryServer × Option (RmwRequestId × GoalId) :=
  let (getResult, received) := Server.tryReceiveRequest ext GetResultRequest.codec respCodec getResult
  (getResult, match received with
    | .ok (some (id, req)) => some (id, req.goalId)
    | _ => none)

def RawActionServer.tryReceiveResultRequest (ext : ZenohExt) (getResult : QueryServer) :
    QueryServer × Option (RmwRequestId × GoalId) :=
  let (getResult, received) := RawServer.tryReceiveRequest ext getResult
  (getResult, do
    let (id, bytes) ← received.toOption.join
    let request ← (fromCdr GetResultRequest.codec bytes).toOption
    return (id, request.goalId))

def RawActionServer.receiveResultRequest (ext : ZenohExt) (getResult : QueryServer) :
    Option (QueryServer × Except ServiceError (RmwRequestId × GoalId)) :=
  (RawServer.asyncReceiveRequest ext getResult).map fun (getResult, received) =>
    (getResult, do
      let (id, bytes) ← received
      let request ← (fromCdr GetResultRequest.codec bytes).mapError .cdr
      return (id, request.goalId))

/-- A raw server accepts the query under the id, but its payload cannot be decoded. -/
def Query.Undecodable (ext : ZenohExt) (codec : CdrEncoding Req) (query : Query) (id : RmwRequestId) : Prop :=
  query.Carries ext id ∧ ∃ bytes error, query.payload = some bytes ∧ fromCdr codec bytes = .error error

/-- Whether the step is no answer, or one to a request that has been decoded: the application knows the ids of these
    only. -/
def Service.answersDecoded (codec : CdrEncoding Req) (state : Service (List UInt8)) : ServiceLabel (List UInt8) → Bool
  | .sendResponse id _ _ _ => state.history.any fun event =>
    match event with
    | .accepted other _ bytes => other = id ∧ (fromCdr codec bytes).isOk
    | _ => false
  | _ => true

def servingDecoded (ext : ZenohExt) (codec : CdrEncoding Req) :
    System (Service (List UInt8)) (ServiceLabel (List UInt8)) :=
  (serving (RawServer.code ext)).restrict fun state label => state.answersDecoded codec label = true

section Reading

variable {ext : ZenohExt} {codec : CdrEncoding Req} {query : Query} {id : RmwRequestId}

theorem Query.Undecodable.read (undecodable : query.Undecodable ext codec id) :
    ∃ a bytes error, id = ⟨a.sourceGid, a.sequenceNumber⟩ ∧ RawServer.read ext query = .ok (a, bytes) ∧
      fromCdr codec bytes = .error error ∧ Server.read ext codec query = .error (.cdr error) := by
  obtain ⟨⟨attachment, a, attached, read, named⟩, bytes, error, paid, refused⟩ := undecodable
  refine ⟨a, bytes, error, named, RawServer.read_eq_ok.mpr ⟨paid, attachment, attached, read⟩, refused, ?_⟩
  simp [Server.read, paid, okOr, refused, Except.mapError, bind, Except.bind]

/-- A query that is not of this kind is either read by both servers or by none. -/
theorem read_of_not_undecodable (decodable : ∀ id, ¬query.Undecodable ext codec id) :
    (∃ a req bytes, Server.read ext codec query = .ok (a, req) ∧ RawServer.read ext query = .ok (a, bytes) ∧
      fromCdr codec bytes = .ok req) ∨
    ∃ error error', Server.read ext codec query = .error error ∧ RawServer.read ext query = .error error' := by
  by_cases decodes : query.Decodes codec
  · rcases decodes.read ext with both | ⟨error, typed, raw⟩
    · exact .inl both
    · exact .inr ⟨error, error, typed, raw⟩
  · right
    simp only [Query.Decodes, not_forall, not_exists] at decodes
    obtain ⟨bytes, paid, undecoded⟩ := decodes
    cases refused : fromCdr codec bytes with
    | ok req => exact absurd refused (undecoded req)
    | error error =>
      have typed : Server.read ext codec query = .error (.cdr error) := by
        simp [Server.read, paid, okOr, refused, Except.mapError, bind, Except.bind]
      cases raw : RawServer.read ext query with
      | error error' => exact ⟨_, error', typed, rfl⟩
      | ok found =>
        have carries := (RawServer.reads ext).carries query found.1 found.2 raw
        exact absurd ⟨carries, bytes, error, paid, refused⟩ (decodable _)

end Reading

section Receiving

variable {ext : ZenohExt} {getResult : QueryServer} {query : Query} {rest : List Query} {id : RmwRequestId}

theorem tryReceiveResultRequest_same (respCodec : CdrEncoding (GetResultResponse Result))
    (decodable : ∀ query id, getResult.queryable.queue.head? = some query →
      ¬query.Undecodable ext GetResultRequest.codec id) :
    RawActionServer.tryReceiveResultRequest ext getResult =
      ActionServer.tryReceiveResultRequest ext respCodec getResult := by
  simp only [RawActionServer.tryReceiveResultRequest, ActionServer.tryReceiveResultRequest,
    RawServer.tryReceiveRequest, Server.tryReceiveRequest, ServerCode.tryReceiveRequest]
  cases queued : getResult.queryable.queue with
  | nil => rfl
  | cons query rest =>
    rw [queued] at decodable
    rcases read_of_not_undecodable (fun id => decodable query id rfl) with
      ⟨a, req, bytes, typed, raw, decoded⟩ | ⟨error, error', typed, raw⟩
    · simp only [Server.code, Server.accept, typed, RawServer.code, RawServer.accept, raw, Except.map, Except.toOption]
      simp only [Option.join_some, bind, Option.bind, decoded]
      rfl
    · simp only [Server.code, Server.accept, typed, RawServer.code, RawServer.accept, raw, Except.map, Except.toOption]
      rfl

/-- The typed server lets go of the query, the raw one keeps it, and neither tells the application of it. -/
theorem tryReceiveResultRequest_undecodable (respCodec : CdrEncoding (GetResultResponse Result))
    (queued : getResult.queryable.queue = query :: rest)
    (undecodable : query.Undecodable ext GetResultRequest.codec id) :
    ActionServer.tryReceiveResultRequest ext respCodec getResult =
        (⟨{ getResult.queryable with queue := rest }, getResult.pending⟩, none) ∧
      RawActionServer.tryReceiveResultRequest ext getResult =
        (⟨{ getResult.queryable with queue := rest }, getResult.pending.insert id.key query⟩, none) := by
  obtain ⟨a, bytes, error, rfl, raw, refused, typed⟩ := undecodable.read
  refine ⟨?_, ?_⟩
  · simp only [ActionServer.tryReceiveResultRequest, Server.tryReceiveRequest, ServerCode.tryReceiveRequest, queued,
      Server.code, Server.accept, typed, Except.map]
  · simp only [RawActionServer.tryReceiveResultRequest, RawServer.tryReceiveRequest, ServerCode.tryReceiveRequest,
      queued, RawServer.code, RawServer.accept, raw, Except.map, Except.toOption]
    simp only [Option.join_some, bind, Option.bind, refused]
    rfl

theorem receiveResultRequest_undecodable (queued : getResult.queryable.queue = query :: rest)
    (undecodable : query.Undecodable ext GetResultRequest.codec id) :
    ∃ error, RawActionServer.receiveResultRequest ext getResult =
      some (⟨{ getResult.queryable with queue := rest }, getResult.pending.insert id.key query⟩,
        .error (.cdr error)) := by
  obtain ⟨a, bytes, error, rfl, raw, refused, _⟩ := undecodable.read
  refine ⟨error, ?_⟩
  simp only [RawActionServer.receiveResultRequest, RawServer.asyncReceiveRequest, ServerCode.asyncReceiveRequest,
    queued, RawServer.code, RawServer.accept, raw, Option.map_some]
  simp only [bind, Except.bind, refused, Except.mapError]
  rfl

end Receiving

section Runs

variable {ext : ZenohExt} {codec : CdrEncoding Req} {state : Service (List UInt8)} {query : Query} {id : RmwRequestId}
  {bytes : List UInt8}

theorem latest_of_unanswered {Request : Type} {request : Request} {history : List (Event Request)}
    (accepted : .accepted id query request ∈ history)
    (alone : ∀ other request', .accepted id other request' ∈ history → other = query)
    (unanswered : ∀ reply result, .answered id reply result ∉ history) :
    latest id history = some query := by
  induction history with
  | nil => cases accepted
  | cons event earlier ih =>
    have inherits : .accepted id query request ∈ earlier → latest id earlier = some query := fun older =>
      ih older (fun other request' member => alone other request' (List.mem_cons_of_mem _ member))
        fun reply result member => unanswered reply result (List.mem_cons_of_mem _ member)
    cases event with
    | accepted other newer request' =>
      rw [latest]
      split
      · rename_i same
        subst same
        rw [alone newer request' List.mem_cons_self]
      · rename_i different
        rcases List.mem_cons.mp accepted with new | older
        · cases new
          exact absurd rfl different
        · exact inherits older
    | answered other reply result =>
      have different : other ≠ id := by
        intro same
        subst same
        exact unanswered reply result List.mem_cons_self
      rw [latest, if_neg different]
      exact inherits ((List.mem_cons.mp accepted).resolve_left (by intro new; cases new))
    | refused other error =>
      rw [latest]
      exact inherits ((List.mem_cons.mp accepted).resolve_left (by intro new; cases new))

/-- What has been answered has been decoded. -/
theorem answered_decoded (reachable : (servingDecoded ext codec).Reachable state) {reply : Option Reply}
    {result : Except ServiceError Unit} (answered : .answered id reply result ∈ state.history) :
    ∃ query bytes req, .accepted id query bytes ∈ state.history ∧ fromCdr codec bytes = .ok req := by
  refine reachable.invariant (fun state => ∀ id reply result, .answered id reply result ∈ state.history →
    ∃ query bytes req, .accepted id query bytes ∈ state.history ∧ fromCdr codec bytes = .ok req) ?_ ?_ id reply result
    answered
  · intro id reply result member
    cases member
  · intro before label after held stepped id reply result member
    obtain ⟨guarded, moved⟩ := System.restrict_step.mp stepped
    have older : .answered id reply result ∈ before.history → ∀ event, after.history = event :: before.history →
        ∃ query bytes req, .accepted id query bytes ∈ after.history ∧ fromCdr codec bytes = .ok req := by
      intro earlier event grown
      obtain ⟨query, bytes, req, accepted, decoded⟩ := held id reply result earlier
      exact ⟨query, bytes, req, grown ▸ List.mem_cons_of_mem _ accepted, decoded⟩
    rcases Service.history_step moved with same | ⟨first, event, grown, silent, own, _⟩ |
      ⟨id', response, now, sending, result', rfl, grown⟩
    · rw [same] at member ⊢
      exact held id reply result member
    · rw [grown] at member
      rcases List.mem_cons.mp member with new | earlier
      · -- A query that is accepted or refused is not answered in the same step.
        rw [← new] at own silent
        simp only [Event.reply?] at silent
        simp [Event.query?, silent] at own
      · exact older earlier event grown
    · rw [grown] at member
      rcases List.mem_cons.mp member with new | earlier
      · cases new
        obtain ⟨event, recorded, fits⟩ := List.any_eq_true.mp guarded
        cases event with
        | accepted other query bytes =>
          obtain ⟨rfl, decoded⟩ := of_decide_eq_true fits
          cases found : fromCdr codec bytes with
          | ok req => exact ⟨query, bytes, req, grown ▸ List.mem_cons_of_mem _ recorded, found⟩
          | error error =>
            rw [found] at decoded
            cases decoded
        | refused => cases fits
        | answered => cases fits
      · exact older earlier _ grown

/-- A query that is pending has not been replied to. -/
theorem Service.Sound.not_replied (held : state.Sound ext) {key : PendingKey}
    (found : state.server.pending.lookup key = some query) : ∀ reply ∈ state.replies, reply.query ≠ query := by
  intro reply replied same
  have kept := Pending.count_erase found query.identity
  have counted : 0 < state.replies.countP (·.query.identity = query.identity) :=
    List.countP_pos_iff.mpr ⟨reply, replied, decide_eq_true (congrArg Query.identity same)⟩
  have single := held.single query.identity
  rw [if_pos rfl] at kept
  unfold copies at single
  split at single <;> omega

/-- The query is neither answered nor let go of in any run. -/
theorem undecodable_pending (reachable : (servingDecoded ext codec).Reachable state)
    (accepted : .accepted id query bytes ∈ state.history) (undecodable : query.Undecodable ext codec id)
    (alone : ∀ other bytes', .accepted id other bytes' ∈ state.history → other = query) :
    state.server.pending.lookup id.key = some query ∧ ∀ reply ∈ state.replies, reply.query ≠ query := by
  obtain ⟨a, bytes', error, _, raw, refused, _⟩ := undecodable.read
  have serving := reachable.of_restrict
  rw [RawServer.code_eq] at serving
  have held : state.Sound ext := .reachable (RawServer.reads ext).carries serving
  have unanswered : ∀ reply result, .answered id reply result ∉ state.history := by
    intro reply result answered
    obtain ⟨other, octets, req, member, decoded⟩ := answered_decoded reachable answered
    obtain ⟨a', read, _⟩ := accepted_read serving member
    rw [alone other octets member, raw] at read
    cases read
    rw [refused] at decoded
    cases decoded
  have found := (held.pending id).trans (latest_of_unanswered accepted alone unanswered)
  exact ⟨found, held.not_replied found⟩

end Runs

/-- The typed action server drops a result request that it cannot decode. The raw one keeps it for ever: the application
    is not told its id, and an answer to another id leaves it alone. All other requests are handed over alike. -/
theorem undecodable_result_requests_kept (ext : ZenohExt) (respCodec : CdrEncoding (GetResultResponse Result)) :
    (∀ getResult : QueryServer, (∀ query id, getResult.queryable.queue.head? = some query →
        ¬query.Undecodable ext GetResultRequest.codec id) →
      RawActionServer.tryReceiveResultRequest ext getResult =
        ActionServer.tryReceiveResultRequest ext respCodec getResult) ∧
    (∀ (getResult : QueryServer) query rest id, getResult.queryable.queue = query :: rest →
      query.Undecodable ext GetResultRequest.codec id →
        ActionServer.tryReceiveResultRequest ext respCodec getResult =
          (⟨{ getResult.queryable with queue := rest }, getResult.pending⟩, none) ∧
        RawActionServer.tryReceiveResultRequest ext getResult =
          (⟨{ getResult.queryable with queue := rest }, getResult.pending.insert id.key query⟩, none) ∧
        ∃ error, RawActionServer.receiveResultRequest ext getResult =
          some (⟨{ getResult.queryable with queue := rest }, getResult.pending.insert id.key query⟩,
            .error (.cdr error))) ∧
    ∀ state id query bytes, (servingDecoded ext GetResultRequest.codec).Reachable state →
      .accepted id query bytes ∈ state.history → query.Undecodable ext GetResultRequest.codec id →
      (∀ other bytes', .accepted id other bytes' ∈ state.history → other = query) →
        state.server.pending.lookup id.key = some query ∧ ∀ reply ∈ state.replies, reply.query ≠ query := by
  refine ⟨fun _ => tryReceiveResultRequest_same respCodec, ?_, ?_⟩
  · intro getResult query rest id queued undecodable
    obtain ⟨typed, raw⟩ := tryReceiveResultRequest_undecodable respCodec queued undecodable
    exact ⟨typed, raw, receiveResultRequest_undecodable queued undecodable⟩
  · intro state id query bytes reachable accepted undecodable alone
    exact undecodable_pending reachable accepted undecodable alone

def lostQuery : Query := ⟨0, [], some [], some (AttachmentData.toZbytes zenohExt ⟨1, 0, octetGid 1⟩)⟩

def lostRequest : List (ServiceLabel (List UInt8)) :=
  [.arrive lostQuery.keyExpr lostQuery.payload lostQuery.attachment, .receive, .accept 0]

def tookLostQuery (state : Service (List UInt8)) : Bool :=
  match state.history with
  | [.accepted id query _] => id = ⟨octetGid 1, 1⟩ ∧ query = lostQuery
  | _ => false

theorem lost_result_request : ∃ state, (servingDecoded zenohExt GetResultRequest.codec).Reachable state ∧
    state.server.pending.lookup (RmwRequestId.key ⟨octetGid 1, 1⟩) = some lostQuery ∧
    ∀ reply ∈ state.replies, reply.query ≠ lostQuery := by
  obtain ⟨state, reachable, checked⟩ := System.reachable_of_check (servingDecoded zenohExt GetResultRequest.codec)
    lostRequest tookLostQuery (by decide +kernel)
  unfold tookLostQuery at checked
  split at checked
  · rename_i id query bytes history
    obtain ⟨rfl, rfl⟩ := of_decide_eq_true checked
    have accepted : .accepted ⟨octetGid 1, 1⟩ lostQuery bytes ∈ state.history := by
      rw [history]
      exact List.mem_singleton_self _
    have undecodable : lostQuery.Undecodable zenohExt GetResultRequest.codec ⟨octetGid 1, 1⟩ :=
      ⟨⟨_, _, rfl, AttachmentData.fromZbytes_toZbytes zenohExt _, rfl⟩, [], .missingHeader, rfl, rfl⟩
    have kept := (undecodable_result_requests_kept zenohExt (GetResultResponse.codec octetPayload)).2.2
    refine ⟨state, reachable, kept state _ _ bytes reachable accepted undecodable ?_⟩
    intro other bytes' member
    rw [history] at member
    cases List.mem_singleton.mp member
    rfl
  · cases checked

end Ros2Client.Zenoh
