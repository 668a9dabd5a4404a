import Ros2Client.Zenoh.PendingQueries

open Text Transition

namespace Ros2Client.Zenoh

variable {Request Response Req Resp : Type}

/-- If the call fails, the pending queries are as before it, and a later call for the same request
finds its query. -/
def ServerCode.Retryable (code : ServerCode Request Response) (pending : Pending) (id : RmwRequestId)
    (response : Response) (now : Int64) (sending : Except String Unit) : Prop :=
  ∀ error, (code.sendResponse pending id response now sending).2.2 = .error error →
    (code.sendResponse pending id response now sending).1 = pending ∧
    ∀ query, pending.lookup id.key = some query →
      (code.sendResponse pending id response now sending).1.lookup id.key = some query

theorem erase_ne {pending : Pending} {key : PendingKey} {query : Query} (found : pending.lookup key = some query) :
    pending.erase key ≠ pending := by
  intro same
  have gone := AList.lookup_erase (β := fun _ => Query) key pending
  rw [same, found] at gone
  cases gone

theorem ServerCode.of_retryable {ext : ZenohExt} {read : Query → Except ServiceError (AttachmentData × Request)}
    {write : Response → Except CdrError (List UInt8)} {pending : Pending} {id : RmwRequestId} {response : Response}
    {now : Int64} {sending : Except String Unit} :
    (ServerCode.of ext read write).Retryable pending id response now sending ↔
      pending.lookup id.key = none ∨ (∃ payload, write response = .ok payload) ∧ sending = .ok () := by
  unfold Retryable
  cases found : pending.lookup id.key with
  | none => simp [ServerCode.of, found]
  | some query =>
    have dropped := erase_ne found
    cases written : write response with
    | error error => simp [ServerCode.of, found, written, dropped]
    | ok payload =>
      cases sending with
      | error reason => simp [ServerCode.of, found, written, dropped, Except.mapError]
      | ok sent => simp [ServerCode.of, found, written, Except.mapError]

/-- A call that fails leaves the pending queries as they were if and only if none is pending for the
request, or nothing can fail after the query is taken out. -/
theorem failed_response_retryable_iff (ext : ZenohExt) (codec : CdrEncoding Req) (respCodec : CdrEncoding Resp)
    (pending : Pending) (id : RmwRequestId) (resp : Resp) (bytes : List UInt8) (now : Int64)
    (sending : Except String Unit) :
    ((Server.code ext codec respCodec).Retryable pending id resp now sending ↔
      pending.lookup id.key = none ∨ (∃ payload, toCdr respCodec resp = .ok payload) ∧ sending = .ok ()) ∧
    ((RawServer.code ext).Retryable pending id bytes now sending ↔
      pending.lookup id.key = none ∨ sending = .ok ()) := by
  rw [Server.code_eq, RawServer.code_eq]
  refine ⟨ServerCode.of_retryable, ServerCode.of_retryable.trans ?_⟩
  simp

def waitingClient : RmwRequestId := ⟨octetGid 7, 1⟩

def waitingQuery : Query where
  identity := 0
  keyExpr := "0/add_two_ints".toList
  payload := some [0, 1, 0, 0, 5, 0, 0, 0]
  attachment := some (AttachmentData.toZbytes zenohExt ⟨1, 0, waitingClient.writerGid⟩)

theorem failed_reply_drops_query :
    (¬ ∀ (pending : Pending) (id : RmwRequestId) (resp : UInt32) (now : Int64) (sending : Except String Unit),
      (Server.code zenohExt cdrWord32 cdrWord32).Retryable pending id resp now sending) ∧
    ¬ ∀ (pending : Pending) (id : RmwRequestId) (bytes : List UInt8) (now : Int64) (sending : Except String Unit),
      (RawServer.code zenohExt).Retryable pending id bytes now sending := by
  let pending : Pending := AList.insert waitingClient.key waitingQuery ∅
  have found : pending.lookup waitingClient.key = some waitingQuery := AList.lookup_insert _
  rw [Server.code_eq, RawServer.code_eq]
  constructor
  · intro retryable
    have kept := ServerCode.of_retryable.mp (retryable pending waitingClient 5 0 (.error "session closed"))
    simp [found] at kept
  · intro retryable
    have kept := ServerCode.of_retryable.mp (retryable pending waitingClient [] 0 (.error "session closed"))
    simp [found] at kept

end Ros2Client.Zenoh
