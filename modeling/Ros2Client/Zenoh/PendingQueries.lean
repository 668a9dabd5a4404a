import Ros2Client.Zenoh.Answering
import Mathlib.Data.List.Perm.Basic

open Text Transition

namespace Ros2Client.Zenoh

variable {Request Response Req Resp : Type}

def RmwRequestId.key (id : RmwRequestId) : PendingKey := (gidKey id.writerGid, id.sequenceNumber)

theorem RmwRequestId.key_inj {first second : RmwRequestId} : first.key = second.key ↔ first = second := by
  constructor
  · intro same
    have gid := gidKey_inj.mp (congrArg Prod.fst same)
    have number := congrArg Prod.snd same
    cases first
    cases second
    simp_all [key]
  · exact congrArg key

/-- The two servers, up to how they read a request and write a response. -/
def ServerCode.of (ext : ZenohExt) (read : Query → Except ServiceError (AttachmentData × Request))
    (write : Response → Except CdrError (List UInt8)) : ServerCode Request Response where
  accept pending query :=
    match read query with
    | .ok (a, request) =>
      (pending.insert (gidKey a.sourceGid, a.sequenceNumber) query, .ok (⟨a.sourceGid, a.sequenceNumber⟩, request))
    | .error error => (pending, .error error)
  sendResponse pending id response now sending :=
    match pending.lookup id.key with
    | none => (pending, none, .error .unknownRequest)
    | some query =>
      match write response with
      | .error error => (pending.erase id.key, none, .error (.cdr error))
      | .ok payload =>
        (pending.erase id.key,
          some ⟨query, query.keyExpr, payload, AttachmentData.toZbytes ext ⟨id.sequenceNumber, now, id.writerGid⟩⟩,
          sending.mapError .zenoh)

theorem Server.code_eq (ext : ZenohExt) (codec : CdrEncoding Req) (respCodec : CdrEncoding Resp) :
    Server.code ext codec respCodec = .of ext (Server.read ext codec) (toCdr respCodec) := rfl

theorem RawServer.code_eq (ext : ZenohExt) : RawServer.code ext = .of ext (RawServer.read ext) .ok := by
  have sends : RawServer.sendResponse ext = (ServerCode.of ext (RawServer.read ext) .ok).sendResponse := by
    funext pending id response now sending
    cases found : pending.lookup id.key <;> simp_all [RawServer.sendResponse, ServerCode.of, RmwRequestId.key]
  have accepts : RawServer.accept ext =
      (ServerCode.of ext (RawServer.read ext) .ok : ServerCode _ (List UInt8)).accept := by
    funext pending query
    cases read : RawServer.read ext query <;> simp_all [RawServer.accept, ServerCode.of]
  rw [RawServer.code, sends, accepts]

theorem okOr_eq_ok {α : Type} {value : Option α} {error : ServiceError} {result : α} :
    okOr value error = .ok result ↔ value = some result := by
  cases value <;> simp [okOr]

theorem mapError_eq_ok {Error Other α : Type} {result : Except Error α} {convert : Error → Other} {value : α} :
    result.mapError convert = .ok value ↔ result = .ok value := by
  cases result <;> simp [Except.mapError]

theorem Server.read_eq_ok {ext : ZenohExt} {codec : CdrEncoding Req} {query : Query} {a : AttachmentData} {req : Req} :
    Server.read ext codec query = .ok (a, req) ↔
      (∃ payload, query.payload = some payload ∧ fromCdr codec payload = .ok req) ∧
      ∃ attachment, query.attachment = some attachment ∧ AttachmentData.fromZbytes ext attachment = some a := by
  simp only [Server.read, Wire.bind_eq_ok, okOr_eq_ok, mapError_eq_ok, pure, Except.pure, Except.ok.injEq,
    Prod.mk.injEq]
  constructor
  · intro held
    obtain ⟨payload, paid, _, read, attachment, attached, _, decoded, rfl, rfl⟩ := held
    exact ⟨⟨payload, paid, read⟩, attachment, attached, decoded⟩
  · intro held
    obtain ⟨⟨payload, paid, read⟩, attachment, attached, decoded⟩ := held
    exact ⟨payload, paid, req, read, attachment, attached, a, decoded, rfl, rfl⟩

theorem RawServer.read_eq_ok {ext : ZenohExt} {query : Query} {a : AttachmentData} {bytes : List UInt8} :
    RawServer.read ext query = .ok (a, bytes) ↔ query.payload = some bytes ∧
      ∃ attachment, query.attachment = some attachment ∧ AttachmentData.fromZbytes ext attachment = some a := by
  simp only [RawServer.read, Wire.bind_eq_ok, okOr_eq_ok, pure, Except.pure, Except.ok.injEq, Prod.mk.injEq]
  constructor
  · intro held
    obtain ⟨_, paid, attachment, attached, _, decoded, rfl, rfl⟩ := held
    exact ⟨paid, attachment, attached, decoded⟩
  · intro held
    obtain ⟨paid, attachment, attached, decoded⟩ := held
    exact ⟨bytes, paid, attachment, attached, a, decoded, rfl, rfl⟩

def Pending.count (pending : Pending) (identity : Nat) : Nat :=
  pending.entries.countP fun entry => entry.2.identity = identity

theorem countP_kerase {entries : List (Sigma fun _ : PendingKey => Query)} {key : PendingKey} {query : Query}
    (counts : Query → Bool) (found : entries.dlookup key = some query) :
    (if counts query then 1 else 0) + (entries.kerase key).countP (fun entry => counts entry.2) =
      entries.countP fun entry => counts entry.2 := by
  induction entries with
  | nil => cases found
  | cons entry entries ih =>
    by_cases same : key = entry.1
    · subst same
      rw [List.dlookup_cons_eq, Option.some_inj] at found
      subst found
      rw [List.kerase_cons_eq rfl, List.countP_cons, Nat.add_comm]
    · rw [List.dlookup_cons_ne _ _ same] at found
      have rest := ih found
      rw [List.kerase_cons_ne same, List.countP_cons, List.countP_cons]
      omega

theorem Pending.entries_erase (pending : Pending) (key : PendingKey) :
    (pending.erase key).entries = pending.entries.kerase key := rfl

theorem Pending.count_erase {pending : Pending} {key : PendingKey} {query : Query}
    (found : pending.lookup key = some query) (identity : Nat) :
    (if query.identity = identity then 1 else 0) + Pending.count (pending.erase key) identity =
      pending.count identity := by
  have counted := countP_kerase (fun query => query.identity = identity) found
  simpa [count, entries_erase] using counted

theorem Pending.count_erase_le (pending : Pending) (key : PendingKey) (identity : Nat) :
    Pending.count (pending.erase key) identity ≤ pending.count identity :=
  (List.kerase_sublist key pending.entries).countP_le

theorem Pending.count_insert (pending : Pending) (key : PendingKey) (query : Query) (identity : Nat) :
    Pending.count (pending.insert key query) identity ≤
      (if query.identity = identity then 1 else 0) + pending.count identity := by
  have fewer := pending.count_erase_le key identity
  simp only [count, entries_erase] at fewer
  simp only [count, AList.entries_insert, List.countP_cons, decide_eq_true_eq]
  omega

/-- How many copies of a query there are: waiting, taken, pending or answered. -/
def Service.copies (state : Service Request) (identity : Nat) : Nat :=
  state.server.queryable.queue.countP (·.identity = identity) + state.taken.countP (·.identity = identity) +
    state.server.pending.count identity + state.replies.countP (·.query.identity = identity)

structure Service.Sound (ext : ZenohExt) (state : Service Request) : Prop where
  pending : ∀ id : RmwRequestId, state.server.pending.lookup id.key = latest id state.history
  carried : ∀ id query request, .accepted id query request ∈ state.history → query.Carries ext id
  single : ∀ identity, state.copies identity ≤ if identity < state.arrived then 1 else 0

theorem latest_accepted {id : RmwRequestId} {query : Query} {history : List (Event Request)}
    (found : latest id history = some query) : ∃ request, .accepted id query request ∈ history := by
  induction history with
  | nil => cases found
  | cons event earlier ih =>
    have inherits : latest id earlier = some query → ∃ request, .accepted id query request ∈ event :: earlier := by
      intro found
      obtain ⟨request, member⟩ := ih found
      exact ⟨request, List.mem_cons_of_mem _ member⟩
    cases event with
    | accepted other newer request =>
      simp only [latest] at found
      split at found
      · rename_i same
        cases same
        cases found
        exact ⟨request, List.mem_cons_self⟩
      · exact inherits found
    | answered other reply result =>
      simp only [latest] at found
      split at found
      · cases found
      · exact inherits found
    | refused other error => exact inherits found

variable {ext : ZenohExt} {read : Query → Except ServiceError (AttachmentData × Request)}
  {write : Response → Except CdrError (List UInt8)} {state after : Service Request}

theorem Service.Sound.initial : Service.Sound ext (serving (.of ext read write)).initial where
  pending _ := rfl
  carried _ _ _ member := nomatch member
  single _ := Nat.zero_le _

theorem Service.Sound.arrive (held : state.Sound ext) {keyExpr : Str} {payload attachment : Option (List UInt8)}
    (stepped : state.step (.of ext read write) (.arrive keyExpr payload attachment) = some after) :
    after.Sound ext := by
  simp only [Service.step] at stepped
  split at stepped
  · cases stepped
  · cases stepped
    refine ⟨held.pending, held.carried, ?_⟩
    intro identity
    have single := held.single identity
    simp only [copies, replies, List.countP_append, List.countP_singleton, decide_eq_true_eq] at single ⊢
    split at single <;> split <;> split <;> omega

theorem Service.Sound.receive (held : state.Sound ext)
    (stepped : state.step (.of ext read write) .receive = some after) : after.Sound ext := by
  simp only [Service.step] at stepped
  split at stepped
  · cases stepped
  · rename_i query rest queued
    cases stepped
    refine ⟨held.pending, held.carried, ?_⟩
    intro identity
    have single := held.single identity
    simp only [copies, replies, queued, List.countP_append, List.countP_cons, List.countP_nil] at single ⊢
    omega

theorem countP_eraseIdx {queries : List Query} {index : Nat} {query : Query} (looked : queries[index]? = some query)
    (counts : Query → Bool) :
    (if counts query then 1 else 0) + (queries.eraseIdx index).countP counts = queries.countP counts := by
  obtain ⟨inside, rfl⟩ := List.getElem?_eq_some_iff.mp looked
  have moved := (List.getElem_cons_eraseIdx_perm inside).countP_eq counts
  rw [← moved, List.countP_cons, Nat.add_comm]

theorem latest_insert {pending : Pending} {history : List (Event Request)} {query : Query} {request : Request}
    (held : ∀ id : RmwRequestId, pending.lookup id.key = latest id history) (new id : RmwRequestId) :
    AList.lookup id.key (pending.insert new.key query) = latest id (.accepted new query request :: history) := by
  by_cases same : new = id
  · subst same
    rw [AList.lookup_insert, latest, if_pos rfl]
  · have other : id.key ≠ new.key := fun same' => same (RmwRequestId.key_inj.mp same').symm
    rw [AList.lookup_insert_ne other, latest, if_neg same, held]

theorem latest_erase {pending : Pending} {history : List (Event Request)} {reply : Option Reply}
    {result : Except ServiceError Unit} (held : ∀ id : RmwRequestId, pending.lookup id.key = latest id history)
    (old id : RmwRequestId) :
    AList.lookup id.key (pending.erase old.key) = latest id (.answered old reply result :: history) := by
  by_cases same : old = id
  · subst same
    rw [AList.lookup_erase, latest, if_pos rfl]
  · have other : id.key ≠ old.key := fun same' => same (RmwRequestId.key_inj.mp same').symm
    rw [AList.lookup_erase_ne other, latest, if_neg same, held]

theorem Service.Sound.accept (held : state.Sound ext)
    (reads : ∀ query a request, read query = .ok (a, request) → query.Carries ext ⟨a.sourceGid, a.sequenceNumber⟩)
    {index : Nat} {query : Query} (looked : state.taken[index]? = some query) :
    (state.accept (.of ext read write) index query).Sound ext := by
  have taken := fun identity => countP_eraseIdx looked fun query => query.identity = identity
  unfold Service.accept
  cases readResult : read query with
  | error error =>
    simp only [ServerCode.of, readResult]
    refine ⟨held.pending, ?_, ?_⟩
    · intro id other request member
      exact held.carried id other request (by simpa using member)
    · intro identity
      have single := held.single identity
      have fewer := taken identity
      simp only [copies, replies, List.filterMap_cons, Event.reply?] at single ⊢
      omega
  | ok found =>
    obtain ⟨a, request⟩ := found
    simp only [ServerCode.of, readResult]
    refine ⟨latest_insert held.pending ⟨a.sourceGid, a.sequenceNumber⟩, ?_, ?_⟩
    · intro id other request' member
      rcases List.mem_cons.mp member with same | member
      · cases same
        exact reads _ _ _ readResult
      · exact held.carried id other request' member
    · intro identity
      have single := held.single identity
      have fewer := taken identity
      have kept := Pending.count_insert state.server.pending (gidKey a.sourceGid, a.sequenceNumber) query identity
      simp only [copies, replies, List.filterMap_cons, Event.reply?, decide_eq_true_eq] at single fewer ⊢
      omega

theorem Pending.erase_of_absent {pending : Pending} {key : PendingKey} (absent : pending.lookup key = none) :
    pending.erase key = pending := by
  apply AList.ext
  exact List.kerase_of_notMem_keys (AList.lookup_eq_none.mp absent)

/-- A response takes the query of its id out of the pending ones, and a reply is one to that query. -/
theorem Service.step_sendResponse {id : RmwRequestId} {response : Response} {now : Int64}
    {sending : Except String Unit}
    (stepped : state.step (.of ext read write) (.sendResponse id response now sending) = some after) :
    ∃ reply result, after = { state with
        server := { state.server with pending := state.server.pending.erase id.key }
        history := .answered id reply result :: state.history } ∧
      ∀ sent, reply = some sent → state.server.pending.lookup id.key = some sent.query := by
  simp only [Service.step, ServerCode.of] at stepped
  cases found : state.server.pending.lookup id.key with
  | none =>
    simp only [found] at stepped
    cases stepped
    exact ⟨none, .error .unknownRequest, by rw [Pending.erase_of_absent found], by simp⟩
  | some query =>
    cases written : write response with
    | error error =>
      simp only [found, written] at stepped
      cases stepped
      exact ⟨none, .error (.cdr error), rfl, by simp⟩
    | ok payload =>
      simp only [found, written] at stepped
      cases stepped
      refine ⟨_, _, rfl, ?_⟩
      intro reply sent
      cases sent
      rfl

theorem Service.Sound.sendResponse (held : state.Sound ext) {id : RmwRequestId} {response : Response} {now : Int64}
    {sending : Except String Unit}
    (stepped : state.step (.of ext read write) (.sendResponse id response now sending) = some after) :
    after.Sound ext := by
  obtain ⟨reply, result, rfl, sent⟩ := Service.step_sendResponse stepped
  refine ⟨latest_erase held.pending id, ?_, ?_⟩
  · intro other query request member
    exact held.carried other query request (by simpa using member)
  · intro identity
    have single := held.single identity
    cases reply with
    | none =>
      have fewer := Pending.count_erase_le state.server.pending id.key identity
      simp only [copies, replies, List.filterMap_cons, Event.reply?] at single ⊢
      omega
    | some reply =>
      have fewer := Pending.count_erase (sent reply rfl) identity
      simp only [copies, replies, List.filterMap_cons, Event.reply?, List.countP_cons, decide_eq_true_eq] at single ⊢
      omega

theorem Service.Sound.step (held : state.Sound ext)
    (reads : ∀ query a request, read query = .ok (a, request) → query.Carries ext ⟨a.sourceGid, a.sequenceNumber⟩)
    {label : ServiceLabel Response} (stepped : state.step (.of ext read write) label = some after) :
    after.Sound ext := by
  cases label with
  | arrive keyExpr payload attachment => exact held.arrive stepped
  | close =>
    cases stepped
    exact ⟨held.pending, held.carried, held.single⟩
  | receive => exact held.receive stepped
  | accept index =>
    obtain ⟨query, looked, rfl⟩ := Option.map_eq_some_iff.mp stepped
    exact held.accept reads looked
  | sendResponse id response now sending => exact held.sendResponse stepped

theorem Service.Sound.reachable
    (reads : ∀ query a request, read query = .ok (a, request) → query.Carries ext ⟨a.sourceGid, a.sequenceNumber⟩)
    (reachable : (serving (.of ext read write)).Reachable state) : state.Sound ext :=
  reachable.invariant _ .initial fun _ _ _ held stepped => held.step reads stepped

theorem Service.Sound.replies_nodup (held : state.Sound ext) :
    (state.replies.map (·.query.identity)).Nodup := by
  apply List.nodup_iff_count_le_one.mpr
  intro identity
  have single := held.single identity
  have counted : (state.replies.map (·.query.identity)).count identity =
      state.replies.countP (·.query.identity = identity) := by
    rw [List.count, List.countP_map]
    rfl
  unfold copies at single
  split at single <;> omega

end Ros2Client.Zenoh
