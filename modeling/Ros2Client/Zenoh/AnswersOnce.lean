import Ros2Client.Zenoh.PendingQueries

open Text Transition

namespace Ros2Client.Zenoh

variable {Request Response Req Resp : Type}

structure Answers (ext : ZenohExt) (code : ServerCode Request Response)
    (write : Response → Except CdrError (List UInt8)) (wellFormed : Query → Prop) (state : Service Request) : Prop where
  once : (state.replies.map (·.query.identity)).Nodup
  pending : ∀ id : RmwRequestId, state.server.pending.lookup id.key = latest id state.history
  replied : ∀ id response now sending pending reply result,
    code.sendResponse state.server.pending id response now sending = (pending, some reply, result) →
      latest id state.history = some reply.query ∧ reply.query.Carries ext id ∧
      reply.keyExpr = reply.query.keyExpr ∧ write response = .ok reply.payload ∧
      AttachmentData.fromZbytes ext reply.attachment = some ⟨id.sequenceNumber, now, id.writerGid⟩
  answered : ∀ id response now sending query payload, latest id state.history = some query →
    write response = .ok payload →
      ∃ reply, code.sendResponse state.server.pending id response now sending =
        (state.server.pending.erase id.key, some reply, sending.mapError .zenoh)
  unknown : ∀ id response now sending, latest id state.history = none →
    code.sendResponse state.server.pending id response now sending =
      (state.server.pending, none, .error .unknownRequest)
  malformed : ∀ query, ¬wellFormed query →
    ∃ error, code.accept state.server.pending query = (state.server.pending, .error error)

def AnswersInEveryRun (ext : ZenohExt) (code : ServerCode Request Response)
    (write : Response → Except CdrError (List UInt8)) (wellFormed : Query → Prop) : Prop :=
  ∀ state, (serving code).Reachable state → Answers ext code write wellFormed state

def Server.WellFormed (ext : ZenohExt) (codec : CdrEncoding Req) (query : Query) : Prop :=
  (∃ payload req, query.payload = some payload ∧ fromCdr codec payload = .ok req) ∧ ∃ id, query.Carries ext id

def RawServer.WellFormed (ext : ZenohExt) (query : Query) : Prop :=
  query.payload ≠ none ∧ ∃ id, query.Carries ext id

structure Reads (ext : ZenohExt) (read : Query → Except ServiceError (AttachmentData × Request))
    (wellFormed : Query → Prop) : Prop where
  carries : ∀ query a request, read query = .ok (a, request) → query.Carries ext ⟨a.sourceGid, a.sequenceNumber⟩
  wellFormed : ∀ query a request, read query = .ok (a, request) → wellFormed query

theorem Server.reads (ext : ZenohExt) (codec : CdrEncoding Req) :
    Reads ext (Server.read ext codec) (Server.WellFormed ext codec) := by
  have carries : ∀ query a req, Server.read ext codec query = .ok (a, req) →
      query.Carries ext ⟨a.sourceGid, a.sequenceNumber⟩ := by
    intro query a req read
    obtain ⟨_, bytes, attached, decoded⟩ := Server.read_eq_ok.mp read
    exact ⟨bytes, a, attached, decoded, rfl⟩
  refine ⟨carries, ?_⟩
  intro query a req read
  obtain ⟨⟨payload, paid, decoded⟩, _⟩ := Server.read_eq_ok.mp read
  exact ⟨⟨payload, req, paid, decoded⟩, _, carries query a req read⟩

theorem RawServer.reads (ext : ZenohExt) : Reads ext (RawServer.read ext) (RawServer.WellFormed ext) := by
  have carries : ∀ query a bytes, RawServer.read ext query = .ok (a, bytes) →
      query.Carries ext ⟨a.sourceGid, a.sequenceNumber⟩ := by
    intro query a bytes read
    obtain ⟨_, attachment, attached, decoded⟩ := RawServer.read_eq_ok.mp read
    exact ⟨attachment, a, attached, decoded, rfl⟩
  refine ⟨carries, ?_⟩
  intro query a bytes read
  have paid := (RawServer.read_eq_ok.mp read).1
  exact ⟨by simp [paid], _, carries query a bytes read⟩

theorem ServerCode.of_answers {ext : ZenohExt} {read : Query → Except ServiceError (AttachmentData × Request)}
    {wellFormed : Query → Prop} (reads : Reads ext read wellFormed) (write : Response → Except CdrError (List UInt8)) :
    AnswersInEveryRun ext (.of ext read write) write wellFormed := by
  intro state reachable
  have held : state.Sound ext := .reachable reads.carries reachable
  refine ⟨held.replies_nodup, held.pending, ?_, ?_, ?_, ?_⟩
  · intro id response now sending pending reply result sent
    simp only [ServerCode.of] at sent
    cases found : state.server.pending.lookup id.key with
    | none => simp [found] at sent
    | some query =>
      have last : latest id state.history = some query := (held.pending id).symm.trans found
      obtain ⟨request, accepted⟩ := latest_accepted last
      cases written : write response with
      | error error => simp [found, written] at sent
      | ok payload =>
        simp only [found, written, Prod.mk.injEq, Option.some_inj] at sent
        obtain ⟨_, rfl, _⟩ := sent
        exact ⟨last, held.carried _ _ _ accepted, rfl, rfl, AttachmentData.fromZbytes_toZbytes ext _⟩
  · intro id response now sending query payload last written
    have found := (held.pending id).trans last
    simp [ServerCode.of, found, written]
  · intro id response now sending last
    have found := (held.pending id).trans last
    simp [ServerCode.of, found]
  · intro query malformed
    cases readResult : read query with
    | ok found => exact absurd (reads.wellFormed query found.1 found.2 readResult) malformed
    | error error => exact ⟨error, by simp [ServerCode.of, readResult]⟩

/-- A call on the typed server and the one on the raw server it stands for, when the payloads decode. -/
inductive SameCall (codec : CdrEncoding Req) (respCodec : CdrEncoding Resp) :
    ServiceLabel Resp → ServiceLabel (List UInt8) → Prop
  | arrive {keyExpr : Str} {payload attachment : Option (List UInt8)}
      (decodes : ∀ bytes, payload = some bytes → ∃ req, fromCdr codec bytes = .ok req) :
      SameCall codec respCodec (.arrive keyExpr payload attachment) (.arrive keyExpr payload attachment)
  | close : SameCall codec respCodec .close .close
  | receive : SameCall codec respCodec .receive .receive
  | accept (index : Nat) : SameCall codec respCodec (.accept index) (.accept index)
  | sendResponse {id : RmwRequestId} {resp : Resp} {bytes : List UInt8} {now : Int64} {sending : Except String Unit}
      (encodes : toCdr respCodec resp = .ok bytes) :
      SameCall codec respCodec (.sendResponse id resp now sending) (.sendResponse id bytes now sending)

inductive SameEvent (codec : CdrEncoding Req) : Event Req → Event (List UInt8) → Prop
  | accepted {id : RmwRequestId} {query : Query} {req : Req} {bytes : List UInt8}
      (decodes : fromCdr codec bytes = .ok req) :
      SameEvent codec (.accepted id query req) (.accepted id query bytes)
  | refused (query : Query) (error : ServiceError) : SameEvent codec (.refused query error) (.refused query error)
  | answered (id : RmwRequestId) (reply : Option Reply) (result : Except ServiceError Unit) :
      SameEvent codec (.answered id reply result) (.answered id reply result)

def Query.Decodes (codec : CdrEncoding Req) (query : Query) : Prop :=
  ∀ bytes, query.payload = some bytes → ∃ req, fromCdr codec bytes = .ok req

structure SameService (codec : CdrEncoding Req) (typed : Service Req) (raw : Service (List UInt8)) : Prop where
  server : typed.server = raw.server
  arrived : typed.arrived = raw.arrived
  taken : typed.taken = raw.taken
  history : List.Forall₂ (SameEvent codec) typed.history raw.history
  decodes : ∀ query ∈ typed.server.queryable.queue ++ typed.taken, query.Decodes codec

theorem Query.Decodes.read (ext : ZenohExt) {codec : CdrEncoding Req} {query : Query} (decodes : query.Decodes codec) :
    (∃ a req bytes, Server.read ext codec query = .ok (a, req) ∧ RawServer.read ext query = .ok (a, bytes) ∧
      fromCdr codec bytes = .ok req) ∨
    ∃ error, Server.read ext codec query = .error error ∧ RawServer.read ext query = .error error := by
  cases paid : query.payload with
  | none => exact .inr ⟨.malformed, by simp [Server.read, paid, okOr, bind, Except.bind],
      by simp [RawServer.read, paid, okOr, bind, Except.bind]⟩
  | some bytes =>
    obtain ⟨req, decoded⟩ := decodes bytes paid
    cases attached : query.attachment with
    | none =>
      right
      exact ⟨.malformed, by simp [Server.read, paid, decoded, attached, okOr, Except.mapError, bind, Except.bind],
        by simp [RawServer.read, paid, attached, okOr, bind, Except.bind]⟩
    | some attachment =>
      cases readAttachment : AttachmentData.fromZbytes ext attachment with
      | none =>
        right
        exact ⟨.malformed, by
          simp [Server.read, paid, decoded, attached, readAttachment, okOr, Except.mapError, bind, Except.bind],
          by simp [RawServer.read, paid, attached, readAttachment, okOr, bind, Except.bind]⟩
      | some a =>
        left
        exact ⟨a, req, bytes, Server.read_eq_ok.mpr ⟨⟨bytes, paid, decoded⟩, attachment, attached, readAttachment⟩,
          RawServer.read_eq_ok.mpr ⟨paid, attachment, attached, readAttachment⟩, decoded⟩

section

variable {ext : ZenohExt} {codec : CdrEncoding Req} {respCodec : CdrEncoding Resp} {typed : Service Req}
  {raw : Service (List UInt8)}

theorem SameService.accept (same : SameService codec typed raw) {index : Nat} {query : Query}
    (looked : typed.taken[index]? = some query) :
    SameService codec (typed.accept (Server.code ext codec respCodec) index query)
      (raw.accept (RawServer.code ext) index query) := by
  have decodes := same.decodes query (List.mem_append_right _ (List.mem_of_getElem? looked))
  have fewer : ∀ other ∈ typed.server.queryable.queue ++ typed.taken.eraseIdx index, other.Decodes codec := by
    intro other member
    apply same.decodes
    rcases List.mem_append.mp member with queued | kept
    · exact List.mem_append_left _ queued
    · exact List.mem_append_right _ (List.mem_of_mem_eraseIdx kept)
  rcases decodes.read ext with ⟨a, req, bytes, readTyped, readRaw, decoded⟩ | ⟨error, readTyped, readRaw⟩
  · simp only [Service.accept, Server.code_eq, RawServer.code_eq, ServerCode.of, readTyped, readRaw]
    exact ⟨by rw [same.server], same.arrived, by rw [same.taken], .cons (.accepted decoded) same.history, fewer⟩
  · simp only [Service.accept, Server.code_eq, RawServer.code_eq, ServerCode.of, readTyped, readRaw]
    exact ⟨by rw [same.server], same.arrived, by rw [same.taken], .cons (.refused query error) same.history, fewer⟩

theorem SameService.step {label : ServiceLabel Resp} {label' : ServiceLabel (List UInt8)}
    (same : SameService codec typed raw) (call : SameCall codec respCodec label label') :
    Option.Rel (SameService codec) (typed.step (Server.code ext codec respCodec) label)
      (raw.step (RawServer.code ext) label') := by
  cases call with
  | @arrive keyExpr payload attachment decodes =>
    simp only [Service.step, ← same.server, ← same.arrived]
    split
    · exact .none
    · refine .some ⟨rfl, rfl, same.taken, same.history, ?_⟩
      intro query member
      have places : query ∈ typed.server.queryable.queue ++ typed.taken ∨
          query = ⟨typed.arrived, keyExpr, payload, attachment⟩ := by
        simp only [List.mem_append, List.mem_singleton] at member ⊢
        tauto
      rcases places with old | new
      · exact same.decodes query old
      · rw [new]
        exact decodes
  | close =>
    simp only [Service.step, ← same.server]
    exact .some ⟨rfl, same.arrived, same.taken, same.history, same.decodes⟩
  | receive =>
    simp only [Service.step, ← same.server, ← same.taken]
    have decodes := same.decodes
    cases queued : typed.server.queryable.queue with
    | nil => exact .none
    | cons query rest =>
      refine .some ⟨rfl, same.arrived, rfl, same.history, ?_⟩
      intro other member
      apply decodes
      simp only [queued, List.mem_append, List.mem_cons, List.not_mem_nil, or_false] at member ⊢
      tauto
  | accept index =>
    simp only [Service.step, ← same.taken]
    cases looked : typed.taken[index]? with
    | none => exact .none
    | some query => exact .some (same.accept looked)
  | @sendResponse id resp bytes now sending encodes =>
    simp only [Service.step, Server.code_eq, RawServer.code_eq, ServerCode.of, ← same.server, encodes]
    cases found : typed.server.pending.lookup id.key with
    | none => exact .some ⟨rfl, same.arrived, same.taken, .cons (.answered ..) same.history, same.decodes⟩
    | some query => exact .some ⟨rfl, same.arrived, same.taken, .cons (.answered ..) same.history, same.decodes⟩

end

/-- On every run whose payloads decode the raw server does what the typed one does. -/
def SameTransitions (ext : ZenohExt) (codec : CdrEncoding Req) (respCodec : CdrEncoding Resp) : Prop :=
  ∀ labels labels', List.Forall₂ (SameCall codec respCodec) labels labels' →
    Option.Rel (SameService codec)
      ((serving (Server.code ext codec respCodec)).run (serving (Server.code ext codec respCodec)).initial labels)
      ((serving (RawServer.code ext)).run (serving (RawServer.code ext)).initial labels')

theorem servers_same_transitions (ext : ZenohExt) (codec : CdrEncoding Req) (respCodec : CdrEncoding Resp) :
    SameTransitions ext codec respCodec := by
  intro labels labels' calls
  apply System.run_simulates (fun _ _ _ _ same call => SameService.step same call) _ calls
  exact ⟨rfl, rfl, rfl, .nil, nofun⟩

theorem queries_answered_once (ext : ZenohExt) (codec : CdrEncoding Req) (respCodec : CdrEncoding Resp) :
    AnswersInEveryRun ext (Server.code ext codec respCodec) (toCdr respCodec) (Server.WellFormed ext codec) ∧
    AnswersInEveryRun ext (RawServer.code ext) .ok (RawServer.WellFormed ext) ∧
    SameTransitions ext codec respCodec := by
  have typed := ServerCode.of_answers (Server.reads ext codec) (toCdr respCodec)
  have raw : AnswersInEveryRun ext (.of ext (RawServer.read ext) .ok) .ok (RawServer.WellFormed ext) :=
    ServerCode.of_answers (RawServer.reads ext) .ok
  rw [Server.code_eq, RawServer.code_eq]
  exact ⟨typed, raw, servers_same_transitions ext codec respCodec⟩

end Ros2Client.Zenoh
