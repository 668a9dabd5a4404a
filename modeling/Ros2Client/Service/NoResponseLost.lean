import Ros2Client.Service.Cdr
import Ros2Client.Service.Framing
import Ros2Client.Service.Receivers
import Ros2Client.Transition.Threads

open Transition

namespace Ros2Client

variable {Request Response : Type}

def ReceiverState.answered (state : ReceiverState Response) (requestId : RmwRequestId) : Bool :=
  state.calls.any fun call => call.requestId = requestId ∧ call.progress matches .returned _

def ReceiverState.outstanding (state : ReceiverState Response) (requestId : RmwRequestId) : Bool :=
  state.sent.any (·.1 = requestId) && !state.answered requestId

/-- The next sample is no response to another outstanding request than the one the call is for. -/
def ReceiverState.spares (dds : Rustdds) (codec : CdrCodec Response) (state : ReceiverState Response) :
    ReceiverLabel Request → Bool
  | .take index =>
    match state.calls[index]?, state.arrived[state.taken]? with
    | some call, some sample =>
      match state.client.unwrapResponse dds codec sample with
      | .ok (incoming, _) => incoming = call.requestId || !state.outstanding incoming
      | .error _ => true
    | _, _ => true
  | _ => true

def ReceiverState.Reply (dds : Rustdds) (codec : CdrCodec Response) (state : ReceiverState Response)
    (requestId : RmwRequestId) (place : Nat) (response : Response) : Prop :=
  (∃ since ≤ place, (requestId, since) ∈ state.sent) ∧
    ∃ sample, state.arrived[place]? = some sample ∧
      state.client.unwrapResponse dds codec sample = .ok (requestId, response)

structure ReceiverInvariant (dds : Rustdds) (codec : CdrCodec Response) (state : ReceiverState Response) : Prop where
  bounded : state.taken ≤ state.arrived.length
  /-- The responses to a request stay in the reader until a call for it returns one of them. -/
  kept : ∀ requestId place response, state.Reply dds codec requestId place response →
    state.answered requestId = false → state.taken ≤ place
  returned : ∀ call ∈ state.calls, ∀ response, call.progress = .returned response →
    ∃ place < state.taken, ∃ sample, state.arrived[place]? = some sample ∧
      state.client.unwrapResponse dds codec sample = .ok (call.requestId, response)
  /-- A call that came back with nothing has not missed a response. -/
  notYet : ∀ call ∈ state.calls, ∀ arrived, call.progress = .notYet arrived → arrived ≤ state.arrived.length ∧
    (state.answered call.requestId = false →
      ∀ place response, state.Reply dds codec call.requestId place response → arrived ≤ place)

structure NoResponseLost (dds : Rustdds) (codec : CdrCodec Response) (state : ReceiverState Response) : Prop
    extends ReceiverInvariant dds codec state where
  /-- A call for a request with a response in the reader does not come back without one. -/
  found : ∀ requestId place response, state.Reply dds codec requestId place response →
    state.answered requestId = false →
    (state.client.receiveFor dds codec requestId (state.arrived.drop state.taken)).1 ≠ .ok none

theorem Client.receiveFor_ne_none {dds : Rustdds} {codec : CdrCodec Response} {client : Client}
    {requestId : RmwRequestId} {samples : List Sample} {sample : Sample} {response : Response}
    (member : sample ∈ samples) (responds : client.unwrapResponse dds codec sample = .ok (requestId, response)) :
    (client.receiveFor dds codec requestId samples).1 ≠ .ok none := by
  induction samples with
  | nil => cases member
  | cons next samples ih =>
    unfold Client.receiveFor
    split
    · simp
    · rename_i incoming _ unwrapped
      split
      · simp
      · rename_i foreign
        rcases List.mem_cons.mp member with rfl | later
        · rw [responds] at unwrapped
          cases unwrapped
          exact absurd rfl foreign
        · exact ih later

variable {dds : Rustdds} {requestCodec : CdrCodec Request} {codec : CdrCodec Response}
  {state after : ReceiverState Response}

theorem ReceiverInvariant.noResponseLost (held : ReceiverInvariant dds codec state) :
    NoResponseLost dds codec state where
  toReceiverInvariant := held
  found requestId place response reply unanswered := by
    have stays := held.kept _ _ _ reply unanswered
    obtain ⟨-, sample, arrived, responds⟩ := reply
    refine Client.receiveFor_ne_none ?_ responds
    apply List.mem_of_getElem? (i := place - state.taken)
    rw [List.getElem?_drop, Nat.add_sub_cancel' stays]
    exact arrived

theorem ReceiverInvariant.initial (client : Client) :
    ReceiverInvariant dds codec (⟨client, [], 0, [], []⟩ : ReceiverState Response) := by
  constructor <;> simp

theorem ReceiverInvariant.arrive (held : ReceiverInvariant dds codec state) (sample : Sample) :
    ReceiverInvariant dds codec { state with arrived := state.arrived ++ [sample] } := by
  have earlier : ∀ {requestId place response},
      ({ state with arrived := state.arrived ++ [sample] } : ReceiverState Response).Reply dds codec
        requestId place response →
      state.Reply dds codec requestId place response ∨ place = state.arrived.length := by
    intro requestId place response reply
    obtain ⟨sent, found, looked, responds⟩ := reply
    rcases lookup_concat looked with old | ⟨last, -⟩
    · exact .inl ⟨sent, found, old, responds⟩
    · exact .inr last
  constructor
  · rw [List.length_append]
    exact Nat.le_add_right_of_le held.bounded
  · intro requestId place response reply unanswered
    rcases earlier reply with old | rfl
    · exact held.kept requestId place response old unanswered
    · exact held.bounded
  · intro call member response progress
    obtain ⟨place, taken, found, looked, responds⟩ := held.returned call member response progress
    exact ⟨place, taken, found, (List.getElem?_append_left (List.getElem?_eq_some_iff.mp looked).1).trans looked,
      responds⟩
  · intro call member arrived progress
    obtain ⟨bounded, missed⟩ := held.notYet call member arrived progress
    refine ⟨?_, ?_⟩
    · rw [List.length_append]
      exact Nat.le_add_right_of_le bounded
    · intro unanswered place response reply
      rcases earlier reply with old | rfl
      · exact missed unanswered place response old
      · exact bounded

theorem ReceiverInvariant.send (held : ReceiverInvariant dds codec state) (requestId : RmwRequestId) :
    ReceiverInvariant dds codec { state with sent := state.sent ++ [(requestId, state.arrived.length)] } := by
  have earlier : ∀ {other place response},
      ({ state with sent := state.sent ++ [(requestId, state.arrived.length)] } : ReceiverState Response).Reply
        dds codec other place response →
      state.Reply dds codec other place response := by
    intro other place response reply
    obtain ⟨⟨since, before, member⟩, found, looked, responds⟩ := reply
    have inside := (List.getElem?_eq_some_iff.mp looked).1
    rcases List.mem_append.mp member with old | new
    · exact ⟨⟨since, before, old⟩, found, looked, responds⟩
    · cases List.mem_singleton.mp new
      exact absurd inside (Nat.not_lt.mpr before)
  constructor
  · exact held.bounded
  · intro other place response reply unanswered
    exact held.kept other place response (earlier reply) unanswered
  · exact held.returned
  · intro call member arrived progress
    obtain ⟨bounded, missed⟩ := held.notYet call member arrived progress
    exact ⟨bounded, fun unanswered place response reply => missed unanswered place response (earlier reply)⟩

theorem ReceiverInvariant.startCall (held : ReceiverInvariant dds codec state) (requestId : RmwRequestId)
    (whenEmpty : WhenEmpty) :
    ReceiverInvariant dds codec { state with calls := state.calls ++ [⟨requestId, whenEmpty, .running⟩] } := by
  have same : ∀ other, ({ state with calls := state.calls ++ [⟨requestId, whenEmpty, .running⟩] } :
      ReceiverState Response).answered other = state.answered other := by
    intro other
    simp [ReceiverState.answered]
  constructor
  · exact held.bounded
  · intro other place response reply unanswered
    exact held.kept other place response reply (same other ▸ unanswered)
  · intro call member response progress
    rcases List.mem_append.mp member with old | new
    · exact held.returned call old response progress
    · cases List.mem_singleton.mp new
      cases progress
  · intro call member arrived progress
    rcases List.mem_append.mp member with old | new
    · obtain ⟨bounded, missed⟩ := held.notYet call old arrived progress
      exact ⟨bounded, fun unanswered => missed (same _ ▸ unanswered)⟩
    · cases List.mem_singleton.mp new
      cases progress

theorem ReceiverState.unanswered_before {index : Nat} {call : ReceiveCall Response}
    {progress : ReceiveProgress Response} {requestId : RmwRequestId} (looked : state.calls[index]? = some call)
    (running : call.progress = .running)
    (unanswered : (state.setProgress index call progress).answered requestId = false) :
    state.answered requestId = false := by
  apply Bool.eq_false_iff.mpr
  intro answered
  obtain ⟨other, member, ended⟩ := List.any_eq_true.mp answered
  obtain ⟨place, found⟩ := List.mem_iff_getElem?.mp member
  have apart : index ≠ place := by
    intro same
    subst same
    cases looked.symm.trans found
    simp [running] at ended
  have still : other ∈ state.calls.set index { call with progress := progress } :=
    List.mem_iff_getElem?.mpr ⟨place, (List.getElem?_set_ne apart).trans found⟩
  exact List.any_eq_false.mp unanswered other still ended

theorem ReceiverInvariant.settle (held : ReceiverInvariant dds codec state) {index taken : Nat}
    {call : ReceiveCall Response} {progress : ReceiveProgress Response} (looked : state.calls[index]? = some call)
    (running : call.progress = .running) (forward : state.taken ≤ taken) (bounded : taken ≤ state.arrived.length)
    (kept : ∀ requestId place response, state.Reply dds codec requestId place response →
      (state.setProgress index call progress).answered requestId = false → taken ≤ place)
    (returned : ∀ response, progress = .returned response → ∃ place < taken, ∃ sample,
      state.arrived[place]? = some sample ∧
        state.client.unwrapResponse dds codec sample = .ok (call.requestId, response))
    (notYet : ∀ arrived, progress = .notYet arrived → arrived = taken) :
    ReceiverInvariant dds codec ({ state with taken := taken }.setProgress index call progress) := by
  constructor
  · exact bounded
  · exact kept
  · intro other member response ended
    rcases List.mem_or_eq_of_mem_set member with old | rfl
    · obtain ⟨place, before, rest⟩ := held.returned other old response ended
      exact ⟨place, Nat.lt_of_lt_of_le before forward, rest⟩
    · exact returned response ended
  · intro other member arrived ended
    rcases List.mem_or_eq_of_mem_set member with old | rfl
    · obtain ⟨limit, missed⟩ := held.notYet other old arrived ended
      exact ⟨limit, fun unanswered => missed (ReceiverState.unanswered_before looked running unanswered)⟩
    · cases notYet arrived ended
      exact ⟨bounded, fun unanswered place response reply => kept _ place response reply unanswered⟩

theorem ReceiverInvariant.kept_next (held : ReceiverInvariant dds codec state) {sample : Sample}
    {requestId : RmwRequestId} {place : Nat} {response : Response}
    (looked : state.arrived[state.taken]? = some sample)
    (differs : ∀ other, state.client.unwrapResponse dds codec sample ≠ .ok (requestId, other))
    (reply : state.Reply dds codec requestId place response) (unanswered : state.answered requestId = false) :
    state.taken + 1 ≤ place := by
  have stays := held.kept _ _ _ reply unanswered
  rcases Nat.lt_or_eq_of_le stays with later | rfl
  · exact later
  · obtain ⟨-, found, same, responds⟩ := reply
    cases looked.symm.trans same
    exact absurd responds (differs response)

theorem ReceiverInvariant.advance (held : ReceiverInvariant dds codec state) {sample : Sample}
    {incoming : RmwRequestId} {response : Response} (looked : state.arrived[state.taken]? = some sample)
    (unwrapped : state.client.unwrapResponse dds codec sample = .ok (incoming, response))
    (spared : state.outstanding incoming = false) : ReceiverInvariant dds codec state.advance := by
  constructor
  · exact (List.getElem?_eq_some_iff.mp looked).1
  · intro requestId place other reply unanswered
    refine held.kept_next looked ?_ reply unanswered
    intro another same
    cases unwrapped.symm.trans same
    obtain ⟨⟨since, -, listed⟩, -⟩ := reply
    have outstanding : state.outstanding incoming = true := by
      simp only [ReceiverState.outstanding, Bool.and_eq_true, Bool.not_eq_true']
      exact ⟨List.any_eq_true.mpr ⟨_, listed, by simp⟩, unanswered⟩
    rw [spared] at outstanding
    cases outstanding
  · intro call member other ended
    obtain ⟨place, before, rest⟩ := held.returned call member other ended
    exact ⟨place, Nat.lt_succ_of_lt before, rest⟩
  · exact held.notYet

theorem ReceiverInvariant.take (held : ReceiverInvariant dds codec state) {index : Nat}
    {call : ReceiveCall Response} (looked : state.calls[index]? = some call) (running : call.progress = .running)
    (spared : state.spares dds codec (.take index : ReceiverLabel Request) = true)
    (stepped : state.take dds codec index call = some after) : ReceiverInvariant dds codec after := by
  unfold ReceiverState.take at stepped
  split at stepped
  · rename_i empty
    have drained : state.arrived.length = state.taken :=
      Nat.le_antisymm (List.getElem?_eq_none_iff.mp empty) held.bounded
    split at stepped
    · cases stepped
      refine held.settle looked running (Nat.le_refl _) held.bounded ?_ (by simp) (by simp [drained])
      intro requestId place response reply unanswered
      exact held.kept _ _ _ reply (ReceiverState.unanswered_before looked running unanswered)
    · cases stepped
  · rename_i sample next
    have room : state.taken + 1 ≤ state.arrived.length := (List.getElem?_eq_some_iff.mp next).1
    split at stepped
    · rename_i error unwrapped
      cases stepped
      refine held.settle looked running (Nat.le_succ _) room ?_ (by simp) (by simp)
      intro requestId place response reply unanswered
      refine held.kept_next next ?_ reply (ReceiverState.unanswered_before looked running unanswered)
      simp [unwrapped]
    · rename_i incoming response unwrapped
      split at stepped
      · rename_i own
        cases stepped
        refine held.settle looked running (Nat.le_succ _) room ?_ ?_ (by simp)
        · intro requestId place other reply unanswered
          refine held.kept_next next ?_ reply (ReceiverState.unanswered_before looked running unanswered)
          intro another same
          cases unwrapped.symm.trans same
          -- the call that has just returned is for this very request
          have ended : ({ call with progress := .returned response } : ReceiveCall Response) ∈
              state.calls.set index { call with progress := .returned response } :=
            List.mem_set (List.getElem?_eq_some_iff.mp looked).1 _
          exact List.any_eq_false.mp unanswered _ ended (by simp [own])
        · rintro other ⟨⟩
          exact ⟨state.taken, Nat.lt_succ_self _, sample, next, own ▸ unwrapped⟩
      · rename_i foreign
        cases stepped
        apply held.advance next unwrapped
        simpa [ReceiverState.spares, looked, next, unwrapped, foreign] using spared

theorem ReceiverInvariant.sendRequest (held : ReceiverInvariant dds codec state) (request : Request)
    (write : Except WriteError SequenceNumber) :
    ReceiverInvariant dds codec (state.sendRequest dds requestCodec request write) := by
  unfold ReceiverState.sendRequest
  split
  · rename_i called
    cases (Prod.mk.inj called).1
    exact { held with }
  · rename_i requestId _ called
    cases (Prod.mk.inj called).1
    exact { held.send requestId with }

theorem ReceiverInvariant.step (held : ReceiverInvariant dds codec state) {label : ReceiverLabel Request}
    (spared : state.spares dds codec label = true)
    (stepped : state.step dds requestCodec codec label = some after) : ReceiverInvariant dds codec after := by
  cases label with
  | arrive sample =>
    cases stepped
    exact held.arrive sample
  | sendRequest request write =>
    cases stepped
    exact held.sendRequest request write
  | startCall requestId whenEmpty =>
    cases stepped
    exact held.startCall requestId whenEmpty
  | take index =>
    simp only [ReceiverState.step] at stepped
    split at stepped
    · rename_i call looked
      split at stepped
      · rename_i running
        exact held.take looked (by simpa using running) spared stepped
      · cases stepped
    · cases stepped
  | readFails index error =>
    simp only [ReceiverState.step] at stepped
    split at stepped
    · rename_i call looked
      split at stepped
      · rename_i running
        cases stepped
        have running : call.progress = .running := by simpa using running
        refine held.settle looked running (Nat.le_refl _) held.bounded ?_ (by simp) (by simp)
        intro requestId place response reply unanswered
        exact held.kept _ _ _ reply (ReceiverState.unanswered_before looked running unanswered)
      · cases stepped
    · cases stepped

def LosesNoResponse (dds : Rustdds) (codec : CdrCodec Response)
    (system : System (ReceiverState Response) (ReceiverLabel Request)) : Prop :=
  ∀ state, system.Reachable state → NoResponseLost dds codec state

theorem responses_reach_their_calls (dds : Rustdds) (requestCodec : CdrCodec Request) (codec : CdrCodec Response)
    (client : Client) :
    LosesNoResponse dds codec ((receiverSystem dds requestCodec codec client).restrict fun state label =>
      state.spares dds codec label = true) := by
  intro state reachable
  have invariant : ReceiverInvariant dds codec state := by
    apply reachable.invariant _ (.initial client)
    intro before label after held stepped
    obtain ⟨spared, stepped⟩ := System.restrict_step.mp stepped
    exact held.step spared stepped
  exact invariant.noResponseLost

/-- Two requests are sent, the response to the second arrives, and the call for the first takes it. -/
def foreignTake : List (ReceiverLabel UInt32) :=
  [.sendRequest 7 (.ok ⟨1⟩), .sendRequest 8 (.ok ⟨2⟩),
    .arrive ⟨[9, 0, 0, 0], .cdrLe, ⟨zeroGuid, ⟨1⟩⟩, some ⟨countingGuid, ⟨2⟩⟩⟩,
    .startCall ⟨countingGuid, ⟨1⟩⟩ .waits, .take 0]

theorem foreign_take_loses_a_response :
    ¬ LosesNoResponse plainCdr cdrWord (receiverSystem plainCdr cdrWord cdrWord enhancedClient) := by
  intro lossless
  obtain ⟨state, reachable, checked⟩ := (receiverSystem plainCdr cdrWord cdrWord enhancedClient).reachable_of_check
    foreignTake
    (fun state => state.taken = 1 ∧ state.client.serviceMapping = .enhanced ∧
      state.answered ⟨countingGuid, ⟨2⟩⟩ = false ∧ (⟨countingGuid, ⟨2⟩⟩, 0) ∈ state.sent ∧
      state.arrived[0]? =
        some ⟨[9, 0, 0, 0], .cdrLe, ⟨⟨.replicate 16 0, rfl⟩, ⟨1⟩⟩, some ⟨countingGuid, ⟨2⟩⟩⟩) (by decide)
  obtain ⟨taken, mapped, unanswered, sent, arrived⟩ := of_decide_eq_true checked
  have reply : state.Reply plainCdr cdrWord ⟨countingGuid, ⟨2⟩⟩ 0 9 := by
    refine ⟨⟨0, Nat.le_refl _, sent⟩, _, arrived, ?_⟩
    rw [Client.unwrapResponse, mapped]
    rfl
  have stays := (lossless state reachable).kept _ _ _ reply unanswered
  rw [taken] at stays
  cases stays

end Ros2Client
