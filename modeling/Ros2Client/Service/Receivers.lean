import Ros2Client.Service.Endpoints
import Ros2Client.Transition.Channel
import Ros2Client.Transition.Runs

open Transition

namespace Ros2Client

variable {Request Response : Type}

/-- What a receiving call does when the reader is empty: the calls of `ActionClient` return, and
    `async_receive_response` waits. -/
inductive WhenEmpty
  | returns
  | waits
deriving DecidableEq

inductive ReceiveProgress (Response : Type)
  | running
  | failed (error : ReadError)
  | notYet (arrived : Nat)
  | returned (response : Response)
deriving DecidableEq

structure ReceiveCall (Response : Type) where
  requestId : RmwRequestId
  whenEmpty : WhenEmpty
  progress : ReceiveProgress Response
deriving DecidableEq

/-- One client and the samples that have reached its response reader, of which the calls have taken the
    first `taken`. Each request stands with the number of samples that had arrived when it was sent. -/
structure ReceiverState (Response : Type) where
  client : Client
  arrived : List Sample
  taken : Nat
  sent : List (RmwRequestId × Nat)
  calls : List (ReceiveCall Response)

inductive ReceiverLabel (Request : Type)
  | arrive (sample : Sample)
  | sendRequest (request : Request) (write : Except WriteError SequenceNumber)
  | startCall (requestId : RmwRequestId) (whenEmpty : WhenEmpty)
  | take (call : Nat)
  | readFails (call : Nat) (error : ReadError)

def ReceiverState.setProgress (state : ReceiverState Response) (index : Nat) (call : ReceiveCall Response)
    (progress : ReceiveProgress Response) : ReceiverState Response :=
  { state with calls := state.calls.set index { call with progress := progress } }

def ReceiverState.advance (state : ReceiverState Response) : ReceiverState Response :=
  { state with taken := state.taken + 1 }

def ReceiverState.take (dds : Rustdds) (codec : CdrCodec Response) (state : ReceiverState Response) (index : Nat)
    (call : ReceiveCall Response) : Option (ReceiverState Response) :=
  match state.arrived[state.taken]? with
  | none =>
    match call.whenEmpty with
    | .returns => some (state.setProgress index call (.notYet state.arrived.length))
    | .waits => none
  | some sample =>
    match state.client.unwrapResponse dds codec sample with
    | .error error => some (state.advance.setProgress index call (.failed error))
    | .ok (incoming, response) =>
      if incoming = call.requestId then some (state.advance.setProgress index call (.returned response))
      else some state.advance

def ReceiverState.sendRequest (dds : Rustdds) (codec : CdrCodec Request) (state : ReceiverState Response)
    (request : Request) (write : Except WriteError SequenceNumber) : ReceiverState Response :=
  match state.client.sendRequest dds codec request (write.map (⟨state.client.clientGuid, ·⟩)) with
  | (client, .error _) => { state with client := client }
  | (client, .ok (requestId, _)) =>
    { state with client := client, sent := state.sent ++ [(requestId, state.arrived.length)] }

def ReceiverState.step (dds : Rustdds) (requestCodec : CdrCodec Request) (responseCodec : CdrCodec Response)
    (state : ReceiverState Response) : ReceiverLabel Request → Option (ReceiverState Response)
  | .arrive sample => some { state with arrived := state.arrived ++ [sample] }
  | .sendRequest request write => some (state.sendRequest dds requestCodec request write)
  | .startCall requestId whenEmpty => some { state with calls := state.calls ++ [⟨requestId, whenEmpty, .running⟩] }
  | .take index =>
    match state.calls[index]? with
    | some call => if call.progress matches .running then state.take dds responseCodec index call else none
    | none => none
  | .readFails index error =>
    match state.calls[index]? with
    | some call => if call.progress matches .running then some (state.setProgress index call (.failed error)) else none
    | none => none

def receiverSystem (dds : Rustdds) (requestCodec : CdrCodec Request) (responseCodec : CdrCodec Response)
    (client : Client) : System (ReceiverState Response) (ReceiverLabel Request) where
  initial := ⟨client, [], 0, [], []⟩
  step := ReceiverState.step dds requestCodec responseCodec

/-- `receive_goal_response`, `receive_cancel_response` and `receive_result`: what the call returns, and
    the samples it leaves in the reader. -/
def Client.receiveFor (dds : Rustdds) (codec : CdrCodec Response) (client : Client) (requestId : RmwRequestId) :
    List Sample → Except ReadError (Option Response) × List Sample
  | [] => (.ok none, [])
  | sample :: samples =>
    match client.unwrapResponse dds codec sample with
    | .error error => (.error error, samples)
    | .ok (incoming, response) =>
      if incoming = requestId then (.ok (some response), samples)
      else client.receiveFor dds codec requestId samples

def ReceiveProgress.ofResult (arrived : Nat) : Except ReadError (Option Response) → ReceiveProgress Response
  | .error error => .failed error
  | .ok none => .notYet arrived
  | .ok (some response) => .returned response

theorem ReceiverState.step_take (dds : Rustdds) (requestCodec : CdrCodec Request) (codec : CdrCodec Response)
    {state : ReceiverState Response} {index : Nat} {call : ReceiveCall Response}
    (looked : state.calls[index]? = some call) (running : call.progress = .running) :
    state.step dds requestCodec codec (.take index) = state.take dds codec index call := by
  simp [ReceiverState.step, looked, running]

/-- The sample at the front of what is left of the reader, and what is left after it. -/
theorem drop_eq_cons {arrived samples : List Sample} {taken : Nat} {sample : Sample}
    (queued : arrived.drop taken = sample :: samples) :
    arrived[taken]? = some sample ∧ arrived.drop (taken + 1) = samples ∧
      arrived.length - samples.length = taken + 1 := by
  refine ⟨?_, ?_, ?_⟩
  · rw [← Nat.add_zero taken, ← List.getElem?_drop, queued]
    rfl
  · rw [← List.drop_drop, queued]
    rfl
  · have length := congrArg List.length queued
    rw [List.length_drop, List.length_cons] at length
    omega

theorem receiveFor_run (dds : Rustdds) (requestCodec : CdrCodec Request) (codec : CdrCodec Response)
    (client : Client) {state : ReceiverState Response} {index : Nat} {call : ReceiveCall Response}
    (looked : state.calls[index]? = some call) (running : call.progress = .running)
    (returns : call.whenEmpty = .returns) (bounded : state.taken ≤ state.arrived.length)
    {result : Except ReadError (Option Response)} {rest : List Sample}
    (received : state.client.receiveFor dds codec call.requestId (state.arrived.drop state.taken) = (result, rest)) :
    ∃ turns, (receiverSystem dds requestCodec codec client).run state (List.replicate turns (.take index)) =
      some ({ state with taken := state.arrived.length - rest.length }.setProgress index call
        (.ofResult state.arrived.length result)) := by
  generalize queued : state.arrived.drop state.taken = samples at received
  have turn : (receiverSystem dds requestCodec codec client).step state (.take index) =
      state.take dds codec index call := ReceiverState.step_take dds requestCodec codec looked running
  induction samples generalizing state with
  | nil =>
    cases received
    have drained : state.arrived.length ≤ state.taken := List.drop_eq_nil_iff.mp queued
    refine ⟨1, ?_⟩
    rw [List.replicate_one, System.run, turn]
    simp [System.run, ReceiverState.take, returns, ReceiveProgress.ofResult, ReceiverState.setProgress,
      Nat.le_antisymm drained bounded]
  | cons sample samples ih =>
    obtain ⟨next, tail, count⟩ := drop_eq_cons queued
    unfold Client.receiveFor at received
    split at received
    · rename_i error unwrapped
      cases received
      refine ⟨1, ?_⟩
      rw [List.replicate_one, System.run, turn]
      simp [System.run, ReceiverState.take, next, unwrapped, ReceiveProgress.ofResult, ReceiverState.setProgress,
        ReceiverState.advance, count]
    · rename_i incoming response unwrapped
      split at received
      · rename_i own
        cases received
        refine ⟨1, ?_⟩
        rw [List.replicate_one, System.run, turn]
        simp [System.run, ReceiverState.take, next, unwrapped, own, ReceiveProgress.ofResult,
          ReceiverState.setProgress, ReceiverState.advance, count]
      · -- The response belongs to another request, and the call goes on with the next sample.
        rename_i foreign
        have inside : state.taken < state.arrived.length := (List.getElem?_eq_some_iff.mp next).1
        have moved : state.take dds codec index call = some state.advance := by
          simp [ReceiverState.take, next, unwrapped, foreign]
        obtain ⟨turns, ran⟩ := @ih state.advance looked inside tail received
          (ReceiverState.step_take dds requestCodec codec looked running)
        refine ⟨turns + 1, ?_⟩
        rw [List.replicate_succ, System.run, turn, moved]
        exact ran

end Ros2Client
