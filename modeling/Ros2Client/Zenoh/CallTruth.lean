import Ros2Client.Transition.Threads
import Ros2Client.Zenoh.AnswersOnce
import Ros2Client.Zenoh.ServiceCalls

open Transition

namespace Ros2Client.Zenoh

variable {Caller Place Req Resp : Type}

/-- The attachment of a call carries its id, which is its client's own, and the payload is its request. -/
structure ClientCall.Sent (setting : ServiceSetting Caller Place Req Resp) (call : ClientCall Caller Req) : Prop where
  written : toCdr setting.codec call.req = .ok call.payload
  attached : ∃ a, AttachmentData.fromZbytes setting.ext call.attachment = some a ∧
    call.id = ⟨a.sourceGid, a.sequenceNumber⟩
  owned : call.id.writerGid = setting.callers.name call.caller

/-- A query is what a call has sent, or does not carry the identity of any of the clients. -/
def Query.ComesFrom (setting : ServiceSetting Caller Place Req Resp) (requests : List (ClientCall Caller Req))
    (query : Query) : Option Nat → Prop
  | some index => ∃ call, requests[index]? = some call ∧ query.payload = some call.payload ∧
      query.attachment = some call.attachment
  | none => attachmentOwner setting.ext setting.callers query.attachment = none

abbrev PlaceState (setting : ServiceSetting Caller Place Req Resp) (place : Place) : Type :=
  Service ((setting.kinds place).Request Req) ×
    ServicePast ((setting.kinds place).Request Req) ((setting.kinds place).Response Resp)

abbrev placeSystem (setting : ServiceSetting Caller Place Req Resp) (place : Place) :=
  serving ((setting.kinds place).code setting.ext setting.codec setting.respCodec)

structure PlaceSound (setting : ServiceSetting Caller Place Req Resp) (requests : List (ClientCall Caller Req))
    (place : Place) (server : PlaceState setting place) (routes : List (Option Nat)) : Prop where
  served : (placeSystem setting place).traced.Reachable server
  arrived : routes.length = server.1.arrived
  routed : ∀ query ∈ server.1.seen, ∃ origin, routes[query.identity]? = some origin ∧
    query.ComesFrom setting requests origin

def HeardAt (setting : ServiceSetting Caller Place Req Resp) {place : Place} (server : PlaceState setting place)
    (routes : List (Option Nat)) (index : Nat) (payload : List UInt8) : Prop :=
  ∃ reply ∈ server.1.replies, reply.payload = payload ∧ routes[reply.query.identity]? = some (some index)

def CallProgress.Hears (codec : CdrEncoding Resp) (heard : List UInt8 → Prop) : CallProgress Resp → Prop
  | .prepared => True
  | .waiting replies => ∀ payload, .sample payload ∈ replies.queue → heard payload
  | .returned result => ∀ resp, result = .ok resp → ∃ payload, fromCdr codec payload = .ok resp ∧ heard payload

theorem CallProgress.Hears.mono {codec : CdrEncoding Resp} {heard later : List UInt8 → Prop}
    {progress : CallProgress Resp} (hears : progress.Hears codec heard)
    (grown : ∀ payload, heard payload → later payload) :
    progress.Hears codec later := by
  cases progress with
  | prepared => trivial
  | waiting replies => exact fun payload queued => grown payload (hears payload queued)
  | returned result =>
    intro resp same
    obtain ⟨payload, decoded, held⟩ := hears resp same
    exact ⟨payload, decoded, grown payload held⟩

section Places

variable {setting : ServiceSetting Caller Place Req Resp} {place : Place} {requests more : List (ClientCall Caller Req)}
  {server after : PlaceState setting place} {routes : List (Option Nat)}

theorem lookup_prefix {α : Type} {items more : List α} {index : Nat} {item : α} (grown : items <+: more)
    (looked : items[index]? = some item) : more[index]? = some item := by
  obtain ⟨rest, rfl⟩ := grown
  rw [List.getElem?_append_left (List.getElem?_eq_some_iff.mp looked).1]
  exact looked

theorem Query.ComesFrom.mono {query : Query} {origin : Option Nat} (comes : query.ComesFrom setting requests origin)
    (grown : requests <+: more) : query.ComesFrom setting more origin := by
  cases origin with
  | none => exact comes
  | some index =>
    obtain ⟨call, looked, rest⟩ := comes
    exact ⟨call, lookup_prefix grown looked, rest⟩

theorem ServerKind.reads (ext : ZenohExt) (codec : CdrEncoding Req) (kind : ServerKind) :
    ∀ query a request, kind.read ext codec query = .ok (a, request) →
      query.Carries ext ⟨a.sourceGid, a.sequenceNumber⟩ := by
  cases kind with
  | typed => exact (Server.reads ext codec).carries
  | raw => exact (RawServer.reads ext).carries

theorem PlaceSound.mono (sound : PlaceSound setting requests place server routes) (grown : requests <+: more) :
    PlaceSound setting more place server routes := by
  refine ⟨sound.served, sound.arrived, ?_⟩
  intro query seen
  obtain ⟨origin, looked, comes⟩ := sound.routed query seen
  exact ⟨origin, looked, comes.mono grown⟩

theorem PlaceSound.sees (sound : PlaceSound setting requests place server routes)
    {label : ServiceLabel ((setting.kinds place).Response Resp)}
    (moved : (placeSystem setting place).step server.1 label = some after.1) {query : Query}
    (seen : query ∈ after.1.seen) :
    query ∈ server.1.seen ∨ ∃ keyExpr payload attachment, label = .arrive keyExpr payload attachment ∧
      query = ⟨routes.length, keyExpr, payload, attachment⟩ := by
  have served := sound.served.of_traced
  rw [sound.arrived]
  rw [placeSystem, ServerKind.code_eq] at served moved
  exact Service.seen_step (.reachable (ServerKind.reads setting.ext setting.codec _) served) moved seen

theorem PlaceSound.serve (sound : PlaceSound setting requests place server routes)
    {label : ServiceLabel ((setting.kinds place).Response Resp)} (inner : label.arrives = false)
    (stepped : (placeSystem setting place).traced.step server label = some after) :
    PlaceSound setting requests place after routes := by
  obtain ⟨moved, _⟩ := System.traced_step.mp stepped
  refine ⟨sound.served.step stepped, ?_, ?_⟩
  · have counted : after.1.arrived = server.1.arrived + if label.arrives then 1 else 0 := Service.arrived_step moved
    rw [counted, inner]
    exact sound.arrived
  · intro query seen
    rcases sound.sees moved seen with old | ⟨_, _, _, rfl, _⟩
    · exact sound.routed query old
    · cases inner

theorem PlaceSound.arrive (sound : PlaceSound setting requests place server routes) {keyExpr : Str}
    {payload attachment : Option (List UInt8)} {origin : Option Nat}
    (comes : ∀ identity, Query.ComesFrom setting requests ⟨identity, keyExpr, payload, attachment⟩ origin)
    (stepped : (placeSystem setting place).traced.step server (.arrive keyExpr payload attachment) = some after) :
    PlaceSound setting requests place after (routes ++ [origin]) := by
  obtain ⟨moved, _⟩ := System.traced_step.mp stepped
  refine ⟨sound.served.step stepped, ?_, ?_⟩
  · have moved : Service.step ((setting.kinds place).code setting.ext setting.codec setting.respCodec) server.1
        (.arrive keyExpr payload attachment) = some after.1 := moved
    rw [Service.arrived_step moved, List.length_append, sound.arrived]
    rfl
  · intro query seen
    rcases sound.sees moved seen with old | ⟨_, _, _, same, rfl⟩
    · obtain ⟨origin', looked, rest⟩ := sound.routed query old
      exact ⟨origin', lookup_prefix (List.prefix_append ..) looked, rest⟩
    · cases same
      exact ⟨origin, List.getElem?_concat_length, comes _⟩

/-- What has been heard stays heard. -/
theorem HeardAt.later {index : Nat} {payload : List UInt8} {label : ServiceLabel ((setting.kinds place).Response Resp)}
    {routes' : List (Option Nat)} (heard : HeardAt setting server routes index payload) (grown : routes <+: routes')
    (stepped : (placeSystem setting place).traced.step server label = some after) :
    HeardAt setting after routes' index payload := by
  obtain ⟨reply, replied, same, looked⟩ := heard
  obtain ⟨moved, _⟩ := System.traced_step.mp stepped
  exact ⟨reply, Service.replies_step moved replied, same, lookup_prefix grown looked⟩

end Places

def ServiceNetwork.requests {kinds : Place → ServerKind} (network : ServiceNetwork Caller Place Req Resp kinds) :
    List (ClientCall Caller Req) :=
  network.calls.map Prod.fst

def ServiceNetwork.Heard {setting : ServiceSetting Caller Place Req Resp}
    (network : ServiceNetwork Caller Place Req Resp setting.kinds) (index : Nat) (payload : List UInt8) : Prop :=
  ∃ place, HeardAt setting (network.servers place) (network.routes place) index payload

structure Sender.Numbers (sender : Sender) (gid : Gid) (requests : List (ClientCall Caller Req)) : Prop where
  own : sender.sourceGid = gid
  started : 0 ≤ sender.seq.toInt
  drawn : ∀ call ∈ requests, call.id.writerGid = gid → call.id.sequenceNumber.toInt ≤ sender.seq.toInt

structure ServiceNetwork.Sound (setting : ServiceSetting Caller Place Req Resp)
    (network : ServiceNetwork Caller Place Req Resp setting.kinds) : Prop where
  sent : ∀ call ∈ network.requests, call.Sent setting
  distinct : (network.requests.map (·.id)).Nodup
  numbers : ∀ caller, (network.senders caller).Numbers (setting.callers.name caller) network.requests
  places : ∀ place, PlaceSound setting network.requests place (network.servers place) (network.routes place)
  hears : ∀ (index : Nat) (call : ClientCall Caller Req) (progress : CallProgress Resp),
    network.calls[index]? = some (call, progress) → progress.Hears setting.respCodec (network.Heard index)

theorem Client.turn_hears {codec : CdrEncoding Resp} {replies rest : Channel GetReply}
    {result : Option (Except ServiceError Resp)} {heard : List UInt8 → Prop}
    (turned : Client.turn codec replies = some (rest, result))
    (hears : ∀ payload, .sample payload ∈ replies.queue → heard payload) :
    (result.elim (.waiting rest) .returned : CallProgress Resp).Hears codec heard := by
  unfold Client.turn at turned
  split at turned
  · rename_i reply later queued
    cases turned
    rw [queued] at hears
    cases reply with
    | error => exact fun payload held => hears payload (List.mem_cons_of_mem _ held)
    | sample payload => exact fun resp same => ⟨payload, mapError_eq_ok.mp same, hears payload List.mem_cons_self⟩
  · split at turned
    · cases turned
      intro resp same
      cases same
    · cases turned

section Steps

variable {setting : ServiceSetting Caller Place Req Resp}
  {network after : ServiceNetwork Caller Place Req Resp setting.kinds} {index : Nat} {call : ClientCall Caller Req}
  {progress progress' : CallProgress Resp}

theorem ServiceNetwork.Sound.sets (sound : network.Sound setting)
    (looked : network.calls[index]? = some (call, progress))
    (hears : progress'.Hears setting.respCodec (network.Heard index)) :
    (network.setProgress index call progress').Sound setting := by
  have same : (network.setProgress index call progress').requests = network.requests := map_set_same looked rfl
  refine ⟨?_, ?_, ?_, ?_, ?_⟩
  · rw [same]
    exact sound.sent
  · rw [same]
    exact sound.distinct
  · rw [same]
    exact sound.numbers
  · rw [same]
    exact sound.places
  · intro other call' progress'' looked'
    rcases lookup_set looked' with ⟨rfl, new⟩ | ⟨_, old⟩
    · cases new
      exact hears
    · exact sound.hears other call' progress'' old

theorem ServiceNetwork.Sound.onReplies (sound : network.Sound setting)
    {change : Channel GetReply → Option (CallProgress Resp)}
    (hears : ∀ replies progress', change replies = some progress' →
      (∀ payload, .sample payload ∈ replies.queue → network.Heard index payload) →
      progress'.Hears setting.respCodec (network.Heard index))
    (stepped : network.onReplies index change = some after) : after.Sound setting := by
  obtain ⟨⟨call, progress⟩, looked, changed⟩ := Option.bind_eq_some_iff.mp stepped
  cases progress with
  | prepared | returned => cases changed
  | waiting replies =>
    obtain ⟨progress', given, rfl⟩ := Option.map_eq_some_iff.mp changed
    exact sound.sets looked (hears replies progress' given (sound.hears index call _ looked))

theorem ServiceNetwork.Sound.drawsNext [DecidableEq Caller] (sound : network.Sound setting)
    (new : ClientCall Caller Req) {sender : Sender}
    (own : sender.sourceGid = setting.callers.name new.caller)
    (next : sender.seq.toInt = (network.senders new.caller).seq.toInt + 1)
    (id : new.id = ⟨sender.sourceGid, sender.seq⟩)
    (other : Caller) :
    (Function.update network.senders new.caller sender other).Numbers (setting.callers.name other)
      (network.requests ++ [new]) := by
  obtain ⟨_, started, drawn⟩ := sound.numbers other
  by_cases same : other = new.caller
  · subst same
    rw [Function.update_self]
    refine ⟨own, by omega, ?_⟩
    intro call' member gid
    rcases List.mem_append.mp member with old | last
    · have bound := drawn call' old gid
      omega
    · rw [List.mem_singleton.mp last, id]
  · rw [Function.update_of_ne same]
    refine ⟨(sound.numbers other).own, started, ?_⟩
    intro call' member gid
    rcases List.mem_append.mp member with old | last
    · exact drawn call' old gid
    · rw [List.mem_singleton.mp last, id] at gid
      exact absurd (setting.callers.name_inj (gid.symm.trans own)) same

variable [DecidableEq Place]

/-- One server has moved, and what was heard is still heard. -/
theorem ServiceNetwork.Sound.place (sound : network.Sound setting) {place : Place}
    {server : PlaceState setting place} {routes : List (Option Nat)}
    (held : PlaceSound setting network.requests place server routes)
    (grown : ∀ index payload, HeardAt setting (network.servers place) (network.routes place) index payload →
      HeardAt setting server routes index payload) :
    ServiceNetwork.Sound setting { network with
      servers := Function.update network.servers place server
      routes := Function.update network.routes place routes } := by
  refine ⟨sound.sent, sound.distinct, sound.numbers, ?_, ?_⟩
  · intro other
    by_cases same : other = place
    · subst same
      simp only [Function.update_self]
      exact held
    · simp only [Function.update_of_ne same]
      exact sound.places other
  · intro index call progress looked
    refine (sound.hears index call progress looked).mono ?_
    intro payload ⟨other, heard⟩
    refine ⟨other, ?_⟩
    by_cases same : other = place
    · subst same
      simp only [Function.update_self]
      exact grown index payload heard
    · simp only [Function.update_of_ne same]
      exact heard

theorem ServiceNetwork.Sound.arrive (sound : network.Sound setting) {place : Place} {keyExpr : Str}
    {payload attachment : Option (List UInt8)} {origin : Option Nat}
    (comes : ∀ identity, Query.ComesFrom setting network.requests ⟨identity, keyExpr, payload, attachment⟩ origin)
    (stepped : network.arrive setting place keyExpr payload attachment origin = some after) : after.Sound setting := by
  obtain ⟨server, moved, rfl⟩ := Option.map_eq_some_iff.mp stepped
  exact sound.place ((sound.places place).arrive comes moved)
    fun index payload heard => heard.later (List.prefix_append ..) moved

theorem toInt_succ {number : Int64} (started : 0 ≤ number.toInt) (room : number.toInt + 1 < 2 ^ 63) :
    (number + 1).toInt = number.toInt + 1 := by
  rw [Int64.toInt_add]
  exact Int.bmod_eq_of_le (by simp; omega) (by simp; omega)

variable [DecidableEq Caller]

theorem ServiceNetwork.Sound.sends (sound : network.Sound setting) {caller : Caller} {req : Req} {now : Int64}
    (room : (network.senders caller).seq.toInt + 1 < 2 ^ 63)
    (stepped : ServiceNetwork.step setting network (.call caller req now) = some after) : after.Sound setting := by
  obtain ⟨own, started, drawn⟩ := sound.numbers caller
  have next := toInt_succ started room
  simp only [ServiceNetwork.step, Client.requestBytes, Sender.attachment] at stepped
  cases written : toCdr setting.codec req with
  | error error =>
    simp only [written] at stepped
    cases stepped
    exact sound
  | ok payload =>
    simp only [written] at stepped
    cases stepped
    have requests : ∀ extra : ClientCall Caller Req × CallProgress Resp,
        (network.calls ++ [extra]).map Prod.fst = network.requests ++ [extra.1] := by
      intro extra
      rw [List.map_append]
      rfl
    refine ⟨?_, ?_, ?_, ?_, ?_⟩
    · intro call member
      rw [ServiceNetwork.requests, requests] at member
      rcases List.mem_append.mp member with old | new
      · exact sound.sent call old
      · rw [List.mem_singleton.mp new]
        exact ⟨written, ⟨_, AttachmentData.fromZbytes_toZbytes .., rfl⟩, own⟩
    · rw [ServiceNetwork.requests, requests, List.map_append]
      refine List.Nodup.append sound.distinct (List.nodup_singleton _) ?_
      intro id old new
      obtain ⟨call, member, rfl⟩ := List.mem_map.mp old
      have same : call.id = ⟨(network.senders caller).sourceGid, (network.senders caller).seq + 1⟩ :=
        List.mem_singleton.mp new
      have bound := drawn call member (by rw [same]; exact own)
      rw [same] at bound
      simp only [next] at bound
      omega
    · rw [ServiceNetwork.requests, requests]
      exact sound.drawsNext ⟨caller, req, ⟨_, _⟩, payload, _⟩ own next rfl
    · intro place
      rw [ServiceNetwork.requests, requests]
      exact (sound.places place).mono (List.prefix_append ..)
    · intro index call progress looked
      rcases lookup_concat looked with old | ⟨_, new⟩
      · exact sound.hears index call progress old
      · cases new
        trivial

theorem ServiceNetwork.Sound.step (sound : network.Sound setting)
    {label : ServiceNetworkLabel Caller Place Req Resp setting.kinds} (roomy : network.roomy label = true)
    (stepped : ServiceNetwork.step setting network label = some after) : after.Sound setting := by
  cases label with
  | call caller req now => exact sound.sends (of_decide_eq_true roomy) stepped
  | get index refused =>
    obtain ⟨⟨call, progress⟩, looked, moved⟩ := Option.bind_eq_some_iff.mp stepped
    cases progress with
    | waiting | returned => cases moved
    | prepared =>
      cases moved
      refine sound.sets looked ?_
      cases refused with
      | none =>
        intro payload queued
        cases queued
      | some reason =>
        intro resp same
        cases same
  | deliver index place keyExpr =>
    obtain ⟨⟨call, progress⟩, looked, moved⟩ := Option.bind_eq_some_iff.mp stepped
    have known : network.requests[index]? = some call := by
      rw [ServiceNetwork.requests, List.getElem?_map, looked]
      rfl
    have comes : ∀ identity, Query.ComesFrom setting network.requests
        ⟨identity, keyExpr, some call.payload, some call.attachment⟩ (some index) :=
      fun _ => ⟨call, known, rfl, rfl⟩
    cases progress with
    | prepared => cases moved
    | waiting | returned => exact sound.arrive comes moved
  | stranger place keyExpr payload attachment =>
    simp only [ServiceNetwork.step, Option.ite_none_left_eq_some] at stepped
    have comes : ∀ identity, Query.ComesFrom setting network.requests ⟨identity, keyExpr, payload, attachment⟩ none :=
      fun _ => Option.not_isSome_iff_eq_none.mp stepped.1
    exact sound.arrive comes stepped.2
  | serve place label =>
    simp only [ServiceNetwork.step, Option.ite_none_left_eq_some] at stepped
    obtain ⟨inner, stepped⟩ := stepped
    obtain ⟨server, moved, rfl⟩ := Option.map_eq_some_iff.mp stepped
    have same : network.routes = Function.update network.routes place (network.routes place) :=
      (Function.update_eq_self place network.routes).symm
    rw [same]
    exact sound.place ((sound.places place).serve (Bool.eq_false_iff.mpr inner) moved)
      fun index payload heard => heard.later List.prefix_rfl moved
  | reply place number =>
    obtain ⟨reply, replied, stepped⟩ := Option.bind_eq_some_iff.mp stepped
    obtain ⟨index, routed, stepped⟩ := Option.bind_eq_some_iff.mp stepped
    refine sound.onReplies ?_ stepped
    intro replies progress given heard
    cases given
    intro payload queued
    rcases Channel.mem_of_mem_offer queued with old | new
    · exact heard payload old
    · cases new
      exact ⟨place, reply, List.mem_of_getElem? replied, rfl, Option.join_eq_some_iff.mp routed⟩
  | errorReply index =>
    refine sound.onReplies ?_ stepped
    intro replies progress given heard
    cases given
    intro payload queued
    rcases Channel.mem_of_mem_offer queued with old | new
    · exact heard payload old
    · cases new
  | endReplies index =>
    refine sound.onReplies ?_ stepped
    intro replies progress given heard
    cases given
    exact heard
  | take index =>
    refine sound.onReplies ?_ stepped
    intro replies progress given heard
    obtain ⟨⟨rest, result⟩, turned, rfl⟩ := Option.map_eq_some_iff.mp given
    exact Client.turn_hears turned heard

theorem sound_calls {network : ServiceNetwork Caller Place Req Resp setting.kinds}
    (reachable :
      ((serviceNetwork setting).restrict fun network label => network.roomy label = true).Reachable network) :
    network.Sound setting := by
  refine reachable.invariant (·.Sound setting) ?_ ?_
  · refine ⟨?_, List.nodup_nil, ?_, ?_, ?_⟩
    · intro call member
      cases member
    · intro caller
      refine ⟨rfl, Int.le_refl _, ?_⟩
      intro call member
      cases member
    · intro place
      refine ⟨.initial, rfl, ?_⟩
      intro query seen
      cases seen
    · intro index call progress looked
      cases looked
  · intro before label after sound stepped
    obtain ⟨roomy, moved⟩ := System.restrict_step.mp stepped
    exact sound.step roomy moved

end Steps

section Truth

variable {setting : ServiceSetting Caller Place Req Resp}
  {network : ServiceNetwork Caller Place Req Resp setting.kinds} {index : Nat} {call : ClientCall Caller Req}

/-- The application gets exactly the request of a query that it gets, and the id that the call has. -/
theorem ServerKind.reads_call (law : setting.codec.RoundTrips) (sent : call.Sent setting) (kind : ServerKind)
    {query : Query} {a : AttachmentData} {request : kind.Request Req} (paid : query.payload = some call.payload)
    (attached : query.attachment = some call.attachment)
    (read : kind.read setting.ext setting.codec query = .ok (a, request)) :
    call.id = ⟨a.sourceGid, a.sequenceNumber⟩ ∧ kind.Receives setting.codec request call.req := by
  obtain ⟨bytes, b, carried, decoded, same⟩ := ServerKind.reads setting.ext setting.codec kind query a request read
  rw [attached] at carried
  cases carried
  obtain ⟨c, decoded', id⟩ := sent.attached
  rw [decoded] at decoded'
  cases decoded'
  refine ⟨id.trans same.symm, ?_⟩
  cases kind with
  | typed =>
    obtain ⟨⟨payload, paid', readPayload⟩, _⟩ := Server.read_eq_ok.mp read
    rw [paid] at paid'
    cases paid'
    exact (Except.ok.inj ((fromCdr_toCdr law sent.written).symm.trans readPayload)).symm
  | raw =>
    obtain ⟨paid', _⟩ := RawServer.read_eq_ok.mp read
    rw [paid] at paid'
    cases paid'
    exact sent.written

theorem ServerKind.write_answers (law : setting.respCodec.RoundTrips) (kind : ServerKind)
    {response : kind.Response Resp}
    {payload : List UInt8} {resp : Resp} (written : kind.write setting.respCodec response = .ok payload)
    (decoded : fromCdr setting.respCodec payload = .ok resp) : kind.Answers setting.respCodec response resp := by
  cases kind with
  | typed =>
    exact Except.ok.inj ((fromCdr_toCdr law written).symm.trans decoded)
  | raw =>
    cases written
    exact decoded

/-- The application of the server got the request, and nothing else under the id of the call, and gave this response
    for that id after it had got it. -/
def ServiceNetwork.AnsweredBy (setting : ServiceSetting Caller Place Req Resp)
    (network : ServiceNetwork Caller Place Req Resp setting.kinds) (call : ClientCall Caller Req) (resp : Resp)
    (place : Place) : Prop :=
  (∀ query request, .accepted call.id query request ∈ (network.servers place).1.history →
    (setting.kinds place).Receives setting.codec request call.req) ∧
  ∃ before response now sending, (before, .sendResponse call.id response now sending) ∈ (network.servers place).2 ∧
    (∃ query request, .accepted call.id query request ∈ before.history) ∧
    (setting.kinds place).Answers setting.respCodec response resp

theorem ServiceNetwork.Sound.same_call (sound : network.Sound setting) {other : Nat} {call' : ClientCall Caller Req}
    (looked : network.requests[index]? = some call) (looked' : network.requests[other]? = some call')
    (same : call'.id = call.id) : call = call' := by
  have inside : index < (network.requests.map (·.id)).length := by
    rw [List.length_map]
    exact (List.getElem?_eq_some_iff.mp looked).1
  have ids : (network.requests.map (·.id))[index]? = (network.requests.map (·.id))[other]? := by
    rw [List.getElem?_map, List.getElem?_map, looked, looked', Option.map_some, Option.map_some, same]
  have place : index = other := (List.getElem?_inj inside sound.distinct).mp ids
  rw [place, looked'] at looked
  exact (Option.some.inj looked).symm

/-- Whatever a server has accepted under the id of a call is the request of that call. -/
theorem ServiceNetwork.Sound.receives (sound : network.Sound setting) (law : setting.codec.RoundTrips)
    (looked : network.requests[index]? = some call) {place : Place} {query : Query}
    {request : (setting.kinds place).Request Req}
    (accepted : .accepted call.id query request ∈ (network.servers place).1.history) :
    (setting.kinds place).Receives setting.codec request call.req := by
  have held := sound.places place
  have served := held.served.of_traced
  rw [placeSystem, ServerKind.code_eq] at served
  obtain ⟨a, read, id⟩ := accepted_read served accepted
  obtain ⟨origin, _, comes⟩ := held.routed query (accepted_seen accepted)
  cases origin with
  | none =>
    obtain ⟨bytes, b, carried, decoded, same⟩ := ServerKind.reads setting.ext setting.codec _ query a request read
    have own := (sound.sent call (List.mem_of_getElem? looked)).owned
    have owner := (setting.callers.owner_eq _ _).mpr own.symm
    rw [id, same] at owner
    have comes : attachmentOwner setting.ext setting.callers query.attachment = none := comes
    simp [attachmentOwner, carried, decoded, owner] at comes
  | some other =>
    obtain ⟨call', looked', paid, attached⟩ := comes
    obtain ⟨id', receives⟩ :=
      ServerKind.reads_call law (sound.sent call' (List.mem_of_getElem? looked')) _ paid attached read
    have same : call'.id = call.id := id'.trans id.symm
    rw [sound.same_call looked looked' same]
    exact receives

end Truth

/-- What a call returns was given for its request, and for no other one, by the application of a server. -/
theorem service_calls_truthful [DecidableEq Caller] [DecidableEq Place] (setting : ServiceSetting Caller Place Req Resp)
    (law : setting.codec.RoundTrips) (respLaw : setting.respCodec.RoundTrips)
    (network : ServiceNetwork Caller Place Req Resp setting.kinds)
    (reachable : ((serviceNetwork setting).restrict fun network label => network.roomy label = true).Reachable network)
    (index : Nat) (call : ClientCall Caller Req) (resp : Resp)
    (returned : network.calls[index]? = some (call, .returned (.ok resp))) :
    ∃ place, network.AnsweredBy setting call resp place := by
  have sound := sound_calls reachable
  have looked : network.requests[index]? = some call := by
    rw [ServiceNetwork.requests, List.getElem?_map, returned]
    rfl
  obtain ⟨payload, decoded, place, reply, replied, rfl, routed⟩ := sound.hears index call _ returned resp rfl
  refine ⟨place, fun query request accepted => sound.receives law looked accepted, ?_⟩
  have held := sound.places place
  have served := held.served
  rw [placeSystem, ServerKind.code_eq] at served
  have reads := ServerKind.reads setting.ext setting.codec (setting.kinds place)
  obtain ⟨before, id, response, now, sending, member, reached, found, written⟩ := reply_given reads served replied
  obtain ⟨request, accepted⟩ := latest_accepted found
  obtain ⟨a, read, same⟩ := accepted_read reached accepted
  obtain ⟨event, recorded, replies⟩ := List.mem_filterMap.mp replied
  have seen : reply.query ∈ (network.servers place).1.seen := by
    refine mem_seen.mpr (.inr (.inr ⟨event, recorded, ?_⟩))
    cases event with
    | answered =>
      cases replies
      rfl
    | accepted | refused => cases replies
  obtain ⟨origin, routed', comes⟩ := held.routed reply.query seen
  rw [routed] at routed'
  cases routed'
  obtain ⟨call', looked', paid, attached⟩ := comes
  rw [looked] at looked'
  cases looked'
  obtain ⟨own, _⟩ := ServerKind.reads_call law (sound.sent call (List.mem_of_getElem? looked)) _ paid attached read
  have id_eq : id = call.id := same.trans own.symm
  subst id_eq
  exact ⟨before, response, now, sending, member, ⟨reply.query, request, accepted⟩,
    ServerKind.write_answers respLaw _ written decoded⟩

def twoServers : ServiceSetting Unit Bool UInt32 UInt32 where
  ext := zenohExt
  codec := cdrWord32
  respCodec := cdrWord32
  callers := {
    name := fun _ => octetGid 7
    owner := fun gid => if octetGid 7 = gid then some () else none
    owner_eq := by simp }
  kinds place := if place then .raw else .typed

/-- Both servers get the request, and the raw one is the first to answer it, after an error. -/
def answeredCall : List (ServiceNetworkLabel Unit Bool UInt32 UInt32 twoServers.kinds) :=
  [.call () 5 0, .get 0 none, .deliver 0 false [], .deliver 0 true [], .stranger true [] (some [1]) (some [2, 3]),
    .serve true .receive, .serve true (.accept 0), .serve true .receive, .serve true (.accept 0), .errorReply 0,
    .serve true (.sendResponse ⟨octetGid 7, 1⟩ [0, 1, 0, 0, 6, 0, 0, 0] 0 (.ok ())), .reply true 0, .take 0, .take 0]

theorem answered_call_truthful : ∃ (network : ServiceNetwork Unit Bool UInt32 UInt32 twoServers.kinds)
    (call : ClientCall Unit UInt32), network.calls[0]? = some (call, .returned (.ok 6)) ∧
      ∃ place, network.AnsweredBy twoServers call 6 place := by
  obtain ⟨network, reachable, checked⟩ := System.reachable_of_check
    ((serviceNetwork twoServers).restrict fun network label => network.roomy label = true) answeredCall
    (fun network => network.calls[0]?.any fun call => call.2.result? = some (.ok 6)) (by decide)
  obtain ⟨⟨call, progress⟩, looked, given⟩ := (Option.any_eq_true _ _).mp checked
  have law : cdrWord32.RoundTrips := Wire.Codec.word_roundTrips _ _
  cases progress with
  | prepared | waiting => cases given
  | returned result =>
    cases Option.some.inj (of_decide_eq_true given)
    exact ⟨network, call, looked, service_calls_truthful twoServers law law network reachable 0 call 6 looked⟩

end Ros2Client.Zenoh
