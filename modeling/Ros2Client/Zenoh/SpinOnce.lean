import Ros2Client.Transition.Runs
import Ros2Client.Zenoh.Parameters
import Ros2Client.Zenoh.Service

open Text Transition

namespace Ros2Client.Zenoh

/-- The messages of one service on the wire. Requests may be unreadable, responses can be written. -/
structure ServiceMessages (Req Resp : Type) where
  request : CdrEncoding Req
  response : CdrEncoding Resp
  writes : ∀ resp, ∃ bytes, response.serialize .littleEndian resp = .ok bytes

structure ParameterMessages where
  getParameters : ServiceMessages GetParametersRequest GetParametersResponse
  getParameterTypes : ServiceMessages GetParameterTypesRequest GetParameterTypesResponse
  setParameters : ServiceMessages SetParametersRequest SetParametersResponse
  setParametersAtomically : ServiceMessages SetParametersRequest SetParametersResponse
  listParameters : ServiceMessages ListParametersRequest ListParametersResponse
  describeParameters : ServiceMessages DescribeParametersRequest DescribeParametersResponse

inductive ParameterService
  | getParameters
  | getParameterTypes
  | setParameters
  | setParametersAtomically
  | listParameters
  | describeParameters
deriving DecidableEq

/-- In the order in which `spin_once` calls their handlers. -/
def ParameterService.all : List ParameterService :=
  [.getParameters, .getParameterTypes, .setParameters, .setParametersAtomically, .listParameters, .describeParameters]

structure Handler where
  Req : Type
  Resp : Type
  messages : ServiceMessages Req Resp
  handle : ParameterServer → (Nat → Time) → Req → Resp × ParameterServer

def ParameterMessages.handler (messages : ParameterMessages) : ParameterService → Handler
  | .getParameters =>
    ⟨_, _, messages.getParameters, fun server _ req => (server.handleGetParameters req, server)⟩
  | .getParameterTypes =>
    ⟨_, _, messages.getParameterTypes, fun server _ req => (server.handleGetParameterTypes req, server)⟩
  | .setParameters =>
    ⟨_, _, messages.setParameters, fun server clock req =>
      let (results, server) := server.handleSetParameters
        (req.parameter.zipIdx.map fun (parameter, index) => (parameter, clock index))
      (⟨results⟩, server)⟩
  | .setParametersAtomically =>
    ⟨_, _, messages.setParametersAtomically, fun server _ req =>
      (ParameterServer.handleSetParametersAtomically req, server)⟩
  | .listParameters =>
    ⟨_, _, messages.listParameters, fun server _ req => (server.handleListParameters req, server)⟩
  | .describeParameters =>
    ⟨_, _, messages.describeParameters, fun server _ req => (server.handleDescribeParameters req, server)⟩

structure Turn where
  server : ParameterServer
  endpoint : QueryServer
  reply : Option Reply
  /-- Whether the `while let` goes on. -/
  again : Bool

/-- One turn of `while let Ok(Some(..)) = try_receive_request()`. A failed response is logged. -/
def Handler.turn (ext : ZenohExt) (handler : Handler) (server : ParameterServer) (endpoint : QueryServer)
    (clock : Nat → Time) (now : Int64) (sending : Except String Unit) : Turn :=
  match Server.tryReceiveRequest ext handler.messages.request handler.messages.response endpoint with
  | (endpoint, .ok (some (id, req))) =>
    let (resp, server) := handler.handle server clock req
    let (pending, reply, _) :=
      Server.sendResponse ext handler.messages.response endpoint.pending id resp now sending
    ⟨server, { endpoint with pending }, reply, true⟩
  | (endpoint, _) => ⟨server, endpoint, none, false⟩

structure Spin where
  server : ParameterServer
  endpoints : ParameterService → QueryServer
  /-- The handlers that have not returned, the running one first. -/
  remaining : List ParameterService
  replies : ParameterService → List Reply

inductive SpinLabel
  | turn (clock : Nat → Time) (now : Int64) (sending : Except String Unit)
  | arrive (service : ParameterService) (query : Query)
  | setParameter (now : Time) (name : Str) (value : ParameterValue)

def Spin.start (server : ParameterServer) (endpoints : ParameterService → QueryServer) : Spin :=
  ⟨server, endpoints, ParameterService.all, fun _ => []⟩

def Spin.arrive (state : Spin) (service : ParameterService) (query : Query) : Spin :=
  let endpoint := state.endpoints service
  let queryable := { endpoint.queryable with queue := endpoint.queryable.queue ++ [query] }
  { state with endpoints := Function.update state.endpoints service { endpoint with queryable } }

def Spin.step (ext : ZenohExt) (messages : ParameterMessages) (state : Spin) : SpinLabel → Option Spin
  | .turn clock now sending =>
    match state.remaining with
    | [] => none
    | service :: rest =>
      let turn := (messages.handler service).turn ext state.server (state.endpoints service) clock now sending
      some
        { server := turn.server
          endpoints := Function.update state.endpoints service turn.endpoint
          remaining := if turn.again then service :: rest else rest
          replies := Function.update state.replies service (state.replies service ++ turn.reply.toList) }
  | .arrive service query => some (state.arrive service query)
  | .setParameter now name value => some { state with server := state.server.setParameter now name value }

def spinOnce (ext : ZenohExt) (messages : ParameterMessages) (server : ParameterServer)
    (endpoints : ParameterService → QueryServer) : System Spin SpinLabel where
  initial := Spin.start server endpoints
  step := Spin.step ext messages

def wellFormed (ext : ZenohExt) (handler : Handler) (query : Query) : Bool :=
  (Server.read ext handler.messages.request query).toOption.isSome

theorem ServiceMessages.toCdr_ok {Req Resp : Type} (messages : ServiceMessages Req Resp) (resp : Resp) :
    ∃ payload, toCdr messages.response resp = .ok payload := by
  obtain ⟨bytes, written⟩ := messages.writes resp
  exact ⟨cdrLeHeader ++ bytes, by rw [toCdr, written]; rfl⟩

/-- A request that was just accepted is answered: its query is the one found under its id. -/
theorem sendResponse_accepted {Req Resp : Type} (ext : ZenohExt) (messages : ServiceMessages Req Resp)
    (pending : Pending) (query : Query) (id : RmwRequestId) (resp : Resp) (now : Int64)
    (sending : Except String Unit) :
    ∃ reply, (Server.sendResponse ext messages.response
        (pending.insert (gidKey id.writerGid, id.sequenceNumber) query) id resp now sending).2.1 = some reply ∧
      reply.query = query := by
  obtain ⟨payload, written⟩ := messages.toCdr_ok resp
  simp [Server.sendResponse, written]

theorem Handler.turn_cases (ext : ZenohExt) (handler : Handler) (server : ParameterServer) (endpoint : QueryServer)
    (clock : Nat → Time) (now : Int64) (sending : Except String Unit) {turn : Turn}
    (taken : handler.turn ext server endpoint clock now sending = turn) :
    (endpoint.queryable.queue = [] ∧ turn.endpoint.queryable.queue = [] ∧ turn.reply = none ∧ turn.again = false) ∨
    ∃ query rest, endpoint.queryable.queue = query :: rest ∧ turn.endpoint.queryable.queue = rest ∧
      ((wellFormed ext handler query = true ∧ turn.again = true ∧
          ∃ reply, turn.reply = some reply ∧ reply.query = query) ∨
        (wellFormed ext handler query = false ∧ turn.again = false ∧ turn.reply = none)) := by
  subst taken
  cases queued : endpoint.queryable.queue with
  | nil =>
    left
    simp [turn, Server.tryReceiveRequest, ServerCode.tryReceiveRequest, queued]
  | cons query rest =>
    refine .inr ⟨query, rest, rfl, ?_⟩
    cases read : Server.read ext handler.messages.request query with
    | error error =>
      simp [turn, Server.tryReceiveRequest, ServerCode.tryReceiveRequest, queued, Server.code, Server.accept, read,
        wellFormed, Except.map, Except.toOption]
    | ok pair =>
      obtain ⟨a, req⟩ := pair
      have answered := sendResponse_accepted ext handler.messages endpoint.pending query
        ⟨a.sourceGid, a.sequenceNumber⟩ (handler.handle server clock req).1 now sending
      simpa [turn, Server.tryReceiveRequest, ServerCode.tryReceiveRequest, queued, Server.code, Server.accept, read,
        wellFormed, Except.map, Except.toOption] using answered

def SpinLabel.arrivesAt (service : ParameterService) : SpinLabel → Bool
  | .arrive other _ => other = service
  | _ => false

def quietSpin (ext : ZenohExt) (messages : ParameterMessages) (server : ParameterServer)
    (endpoints : ParameterService → QueryServer) (service : ParameterService) : System Spin SpinLabel :=
  (spinOnce ext messages server endpoints).restrict fun _ label => label.arrivesAt service = false

/-- `spin_once` returns, and when it does the queue of the service is empty and the well-formed
    requests that were in it have been answered, each once and in order. -/
def AnswersPending (ext : ZenohExt) (messages : ParameterMessages) (server : ParameterServer)
    (endpoints : ParameterService → QueryServer) (service : ParameterService) : Prop :=
  let quiet := quietSpin ext messages server endpoints service
  (∃ state, quiet.Reachable state ∧ state.remaining = []) ∧
  ∀ state, quiet.Reachable state → state.remaining = [] →
    (state.endpoints service).queryable.queue = [] ∧
    (state.replies service).map (·.query) =
      (endpoints service).queryable.queue.filter (wellFormed ext (messages.handler service))

/-- Until its handler has returned, a service answers the requests at the front of its queue. The
    handler returns at the first malformed query, which it has taken. -/
structure Serving (formed : Query → Bool) (service : ParameterService) (queue : List Query) (state : Spin) : Prop where
  distinct : state.remaining.Nodup
  running : service ∈ state.remaining →
    (state.replies service).map (·.query) ++ (state.endpoints service).queryable.queue.takeWhile formed =
        queue.takeWhile formed ∧
      (state.endpoints service).queryable.queue.dropWhile formed = queue.dropWhile formed
  returned : service ∉ state.remaining →
    (state.replies service).map (·.query) = queue.takeWhile formed ∧
      (state.endpoints service).queryable.queue = (queue.dropWhile formed).tail

section Steps

variable {ext : ZenohExt} {messages : ParameterMessages} {service : ParameterService} {queue : List Query}
  {state after : Spin}

theorem Serving.turn {clock : Nat → Time} {now : Int64} {sending : Except String Unit}
    (serving : Serving (wellFormed ext (messages.handler service)) service queue state)
    (stepped : state.step ext messages (.turn clock now sending) = some after) :
    Serving (wellFormed ext (messages.handler service)) service queue after := by
  obtain ⟨distinct, running, returned⟩ := serving
  cases listed : state.remaining with
  | nil => simp [Spin.step, listed] at stepped
  | cons current rest =>
    simp only [Spin.step, listed, Option.some.injEq] at stepped
    generalize taken : (messages.handler current).turn ext state.server (state.endpoints current) clock now sending =
      turn at stepped
    rw [listed] at distinct running returned
    obtain ⟨fresh, others⟩ := List.nodup_cons.mp distinct
    subst stepped
    by_cases same : current = service
    · subst same
      obtain ⟨answered, left⟩ := running List.mem_cons_self
      rcases Handler.turn_cases ext _ _ _ clock now sending taken with
        ⟨empty, emptied, silent, stop⟩ | ⟨query, rest', queued, left', formed | malformed⟩
      · refine ⟨by simpa [stop] using others, fun member => absurd member (by simpa [stop] using fresh), ?_⟩
        intro _
        rw [empty, List.takeWhile_nil, List.append_nil] at answered
        rw [empty, List.dropWhile_nil] at left
        exact ⟨by simpa [silent] using answered, by simp [emptied, ← left]⟩
      · obtain ⟨well, again, reply, replied, replying⟩ := formed
        refine ⟨by simpa [again] using distinct, ?_, fun absent => absurd absent (by simp [again])⟩
        intro _
        rw [queued, List.takeWhile_cons_of_pos well] at answered
        rw [queued, List.dropWhile_cons_of_pos well] at left
        exact ⟨by simpa [left', replied, replying] using answered, by simpa [left'] using left⟩
      · obtain ⟨ill, stop, silent⟩ := malformed
        refine ⟨by simpa [stop] using others, fun member => absurd member (by simpa [stop] using fresh), ?_⟩
        intro _
        have refused : ¬ wellFormed ext (messages.handler current) query = true := by simp [ill]
        rw [queued, List.takeWhile_cons_of_neg refused, List.append_nil] at answered
        rw [queued, List.dropWhile_cons_of_neg refused] at left
        exact ⟨by simpa [silent] using answered, by simp [left', ← left]⟩
    · have apart : service ≠ current := Ne.symm same
      have kept : service ∈ (if turn.again then current :: rest else rest) ↔ service ∈ current :: rest := by
        split <;> simp [apart]
      refine ⟨by split <;> assumption, ?_, ?_⟩
      · intro member
        simpa [apart] using running (kept.mp member)
      · intro absent
        simpa [apart] using returned (fun member => absent (kept.mpr member))

theorem Serving.step {label : SpinLabel}
    (serving : Serving (wellFormed ext (messages.handler service)) service queue state)
    (quiet : label.arrivesAt service = false) (stepped : state.step ext messages label = some after) :
    Serving (wellFormed ext (messages.handler service)) service queue after := by
  cases label with
  | turn clock now sending => exact serving.turn stepped
  | arrive other query =>
    have apart : service ≠ other := by
      intro same
      simp [SpinLabel.arrivesAt, same] at quiet
    cases stepped
    obtain ⟨distinct, running, returned⟩ := serving
    exact ⟨distinct, by simpa [Spin.arrive, apart] using running, by simpa [Spin.arrive, apart] using returned⟩
  | setParameter now name value =>
    cases stepped
    exact ⟨serving.distinct, serving.running, serving.returned⟩

end Steps

section Returning

variable {ext : ZenohExt} {messages : ParameterMessages} {server : ParameterServer}
  {endpoints : ParameterService → QueryServer} {service : ParameterService}

theorem serving_reachable {state : Spin}
    (reachable : (quietSpin ext messages server endpoints service).Reachable state) :
    Serving (wellFormed ext (messages.handler service)) service (endpoints service).queryable.queue state := by
  refine reachable.invariant _ ?_ ?_
  · refine ⟨show ParameterService.all.Nodup by decide, fun _ => ⟨rfl, rfl⟩, fun absent => absurd ?_ absent⟩
    cases service <;> simp [quietSpin, System.restrict, spinOnce, Spin.start, ParameterService.all]
  · intro before label after holds stepped
    obtain ⟨quiet, moved⟩ := System.restrict_step.mp stepped
    exact holds.step quiet moved

/-- A turn of the handler that runs is always possible. -/
theorem quiet_turn {current : ParameterService} {rest : List ParameterService} {state : Spin}
    (listed : state.remaining = current :: rest) :
    ∃ turn after, (messages.handler current).turn ext state.server (state.endpoints current)
        (fun _ => Time.zero) 0 (.ok ()) = turn ∧
      (quietSpin ext messages server endpoints service).step state (.turn (fun _ => Time.zero) 0 (.ok ())) =
        some after ∧
      after.remaining = (if turn.again then current :: rest else rest) ∧
      after.endpoints current = turn.endpoint := by
  generalize taken : (messages.handler current).turn ext state.server (state.endpoints current)
    (fun _ => Time.zero) 0 (.ok ()) = turn
  let after : Spin :=
    ⟨turn.server, Function.update state.endpoints current turn.endpoint, if turn.again then current :: rest else rest,
      Function.update state.replies current (state.replies current ++ turn.reply.toList)⟩
  have stepped : state.step ext messages (.turn (fun _ => Time.zero) 0 (.ok ())) = some after := by
    simp [Spin.step, listed, taken, after]
  exact ⟨turn, after, rfl, System.restrict_step.mpr ⟨rfl, stepped⟩, rfl, by simp [after]⟩

theorem handler_returns {current : ParameterService} {rest : List ParameterService} {state : Spin}
    (reachable : (quietSpin ext messages server endpoints service).Reachable state)
    (listed : state.remaining = current :: rest) :
    ∃ later, (quietSpin ext messages server endpoints service).Reachable later ∧ later.remaining = rest := by
  induction queued : (state.endpoints current).queryable.queue generalizing state with
  | nil =>
    obtain ⟨turn, after, taken, stepped, remaining, _⟩ := quiet_turn listed
    rcases Handler.turn_cases ext _ _ _ _ _ _ taken with ⟨_, _, _, stop⟩ | ⟨query, rest', some, _⟩
    · exact ⟨after, reachable.step stepped, by simpa [stop] using remaining⟩
    · rw [queued] at some
      cases some
  | cons query queue ih =>
    obtain ⟨turn, after, taken, stepped, remaining, endpoint⟩ := quiet_turn listed
    rcases Handler.turn_cases ext _ _ _ _ _ _ taken with
      ⟨empty, _⟩ | ⟨first, queue', some, left, ⟨_, again, _⟩ | ⟨_, stop, _⟩⟩
    · rw [queued] at empty
      cases empty
    · rw [queued] at some
      cases some
      exact ih (reachable.step stepped) (by simpa [again] using remaining) (by rw [endpoint, left])
    · exact ⟨after, reachable.step stepped, by simpa [stop] using remaining⟩

theorem spin_returns {state : Spin} (reachable : (quietSpin ext messages server endpoints service).Reachable state) :
    ∃ later, (quietSpin ext messages server endpoints service).Reachable later ∧ later.remaining = [] := by
  induction listed : state.remaining generalizing state with
  | nil => exact ⟨state, reachable, listed⟩
  | cons current rest ih =>
    obtain ⟨later, reached, returned⟩ := handler_returns reachable listed
    exact ih reached returned

end Returning

theorem tail_dropWhile_eq_nil_iff {α : Type} (formed : α → Bool) (queue : List α) :
    (queue.dropWhile formed).tail = [] ↔ ∀ item ∈ queue.dropLast, formed item = true := by
  induction queue with
  | nil => simp
  | cons first rest ih =>
    by_cases well : formed first = true
    · rw [List.dropWhile_cons_of_pos well, ih]
      cases rest with
      | nil => simp
      | cons second rest => simp [well]
    · rw [List.dropWhile_cons_of_neg well]
      cases rest with
      | nil => simp
      | cons second rest => simp [well]

theorem takeWhile_eq_filter {α : Type} {formed : α → Bool} {queue : List α}
    (last : (queue.dropWhile formed).tail = []) : queue.takeWhile formed = queue.filter formed := by
  induction queue with
  | nil => rfl
  | cons first rest ih =>
    by_cases well : formed first = true
    · rw [List.dropWhile_cons_of_pos well] at last
      rw [List.takeWhile_cons_of_pos well, List.filter_cons_of_pos well, ih last]
    · rw [List.dropWhile_cons_of_neg well, List.tail_cons] at last
      rw [List.takeWhile_cons_of_neg well, List.filter_cons_of_neg well, last, List.filter_nil]

theorem spin_finished {ext : ZenohExt} {messages : ParameterMessages} {server : ParameterServer}
    {endpoints : ParameterService → QueryServer} {service : ParameterService} {state : Spin}
    (reachable : (quietSpin ext messages server endpoints service).Reachable state) (listed : state.remaining = []) :
    (state.replies service).map (·.query) =
        (endpoints service).queryable.queue.takeWhile (wellFormed ext (messages.handler service)) ∧
      (state.endpoints service).queryable.queue =
        ((endpoints service).queryable.queue.dropWhile (wellFormed ext (messages.handler service))).tail :=
  (serving_reachable reachable).returned (by simp [listed])

theorem AnswersPending.wellFormed {ext : ZenohExt} {messages : ParameterMessages} {server : ParameterServer}
    {endpoints : ParameterService → QueryServer} {service : ParameterService}
    (answers : AnswersPending ext messages server endpoints service) :
    ∀ query ∈ (endpoints service).queryable.queue.dropLast, wellFormed ext (messages.handler service) query = true := by
  obtain ⟨⟨state, reachable, listed⟩, drained⟩ := answers
  rw [← tail_dropWhile_eq_nil_iff, ← (spin_finished reachable listed).2]
  exact (drained state reachable listed).1

/-- For every service, every content of its queue, every store and whatever arrives elsewhere. -/
theorem spin_once_answers_pending_iff (ext : ZenohExt) (messages : ParameterMessages) (server : ParameterServer)
    (endpoints : ParameterService → QueryServer) (service : ParameterService) :
    AnswersPending ext messages server endpoints service ↔
      ∀ query ∈ (endpoints service).queryable.queue.dropLast,
        wellFormed ext (messages.handler service) query = true := by
  constructor
  · exact AnswersPending.wellFormed
  · intro formed
    have last := (tail_dropWhile_eq_nil_iff _ _).mpr formed
    refine ⟨spin_returns .initial, ?_⟩
    intro state reachable listed
    obtain ⟨answered, left⟩ := spin_finished reachable listed
    exact ⟨left.trans last, answered.trans (takeWhile_eq_filter last)⟩

/-- The messages whose lists are empty: a count of zero is all there is of them. -/
def emptyLists {Req Resp : Type} (empty : Req) : ServiceMessages Req Resp where
  request := cdrWord32.via (fun count => if count = 0 then .ok empty else .error endOfBuffer) (fun _ => 0)
  response := cdrWord32.via (fun _ => .error endOfBuffer) (fun _ => 0)
  writes := fun _ => ⟨_, rfl⟩

def emptyMessages : ParameterMessages :=
  ⟨emptyLists ⟨[]⟩, emptyLists ⟨[]⟩, emptyLists ⟨[]⟩, emptyLists ⟨[]⟩, emptyLists ⟨[], 0⟩, emptyLists ⟨[]⟩⟩

def emptyQuery : Query :=
  ⟨1, "key".toList, some (cdrLeHeader ++ [0, 0, 0, 0]),
    some (AttachmentData.toZbytes zenohExt ⟨1, 0, octetGid 1⟩)⟩

/-- A query without a payload stands before one that is well-formed. -/
def malformedFirst : ParameterService → QueryServer
  | .getParameters => ⟨⟨none, [⟨0, "key".toList, none, none⟩, emptyQuery], false⟩, ∅⟩
  | _ => ⟨Channel.new none, ∅⟩

theorem malformed_query_stops_spin_once :
    wellFormed zenohExt (emptyMessages.handler .getParameters) emptyQuery = true ∧
      ¬ AnswersPending zenohExt emptyMessages ⟨"/node".toList, ∅, []⟩ malformedFirst .getParameters := by
  constructor
  · decide
  · intro answers
    have formed := answers.wellFormed ⟨0, "key".toList, none, none⟩ List.mem_cons_self
    cases formed

end Ros2Client.Zenoh
