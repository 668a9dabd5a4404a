import Ros2Client.Service.Framing
import Ros2Client.Transition.Runs
import Ros2Client.Transition.Threads

open Transition Wire

namespace Ros2Client

variable {Request : Type}

/-- What a call still does once it has read the counter. `view` is the client as the call saw it then. -/
def Client.finishRequest (dds : Rustdds) (codec : CdrCodec Request) (view : Client) (request : Request)
    (write : Except WriteError SampleIdentity) : Except WriteError (RmwRequestId × Sample) := do
  let wrapper ← RequestWrapper.new dds codec view.serviceMapping view.genRequestId .cdrLe request
  let written ← write
  return (view.sentRequestId written, ⟨wrapper.serializedMessage, outputEncoding, written, view.relatedSampleIdentity⟩)

theorem Client.sendRequest_eq (dds : Rustdds) (codec : CdrCodec Request) (client : Client) (request : Request)
    (write : Except WriteError SampleIdentity) :
    client.sendRequest dds codec request write =
      (client.incrementSequenceNumber, client.incrementSequenceNumber.finishRequest dds codec request write) := rfl

inductive SendPhase
  | started
  | incremented (own : Int64)
  | loaded (own : Int64) (view : Client)
  | finished (own : Int64) (result : Except WriteError (RmwRequestId × Sample))

def SendPhase.own? : SendPhase → Option Int64
  | .started => none
  | .incremented own => some own
  | .loaded own _ => some own
  | .finished own _ => some own

structure SendRequest (Request : Type) where
  request : Request
  phase : SendPhase

structure SharedClient (Request : Type) where
  client : Client
  calls : List (SendRequest Request)
  /-- How often the counter has been incremented. -/
  increments : Nat

inductive SharedLabel (Request : Type)
  | call (request : Request)
  | increment (index : Nat)
  | load (index : Nat)
  | write (index : Nat) (outcome : Except WriteError SampleIdentity)

def SharedClient.step (dds : Rustdds) (codec : CdrCodec Request) (state : SharedClient Request) :
    SharedLabel Request → Option (SharedClient Request)
  | .call request => some { state with calls := state.calls ++ [⟨request, .started⟩] }
  | .increment index =>
    match state.calls[index]? with
    | some ⟨request, .started⟩ =>
      let client := state.client.incrementSequenceNumber
      some ⟨client, state.calls.set index ⟨request, .incremented client.sequenceNumberGen⟩, state.increments + 1⟩
    | _ => none
  | .load index =>
    match state.calls[index]? with
    | some ⟨request, .incremented own⟩ =>
      some { state with calls := state.calls.set index ⟨request, .loaded own state.client⟩ }
    | _ => none
  | .write index outcome =>
    match state.calls[index]? with
    | some ⟨request, .loaded own view⟩ =>
      some { state with
        calls := state.calls.set index ⟨request, .finished own (view.finishRequest dds codec request outcome)⟩ }
    | _ => none

def sharedClient (dds : Rustdds) (codec : CdrCodec Request) (client : Client) :
    System (SharedClient Request) (SharedLabel Request) where
  initial := ⟨client, [], 0⟩
  step := SharedClient.step dds codec

/-- A call on its own does what `sendRequest` does. -/
theorem sendRequest_run (dds : Rustdds) (codec : CdrCodec Request) (client : Client) (request : Request)
    (outcome : Except WriteError SampleIdentity) :
    (sharedClient dds codec client).run ⟨client, [], 0⟩ [.call request, .increment 0, .load 0, .write 0 outcome] =
      some ⟨(client.sendRequest dds codec request outcome).1,
        [⟨request, .finished (client.sequenceNumberGen + 1)
          (client.sendRequest dds codec request outcome).2⟩], 1⟩ := rfl

def Sample.HeadedBy (dds : Rustdds) (mapping : ServiceMapping) (requestId : RmwRequestId) (sample : Sample) : Prop :=
  ∃ header body, RequestWrapper.header dds mapping requestId sample.encoding = .ok header ∧
    sample.payload = header ++ body

def SharedClient.returned (state : SharedClient Request) (index : Nat) : Option (RmwRequestId × Sample) :=
  match state.calls[index]? with
  | some ⟨_, .finished _ (.ok result)⟩ => some result
  | _ => none

/-- Under the mappings that number requests by the counter, the calls return distinct ids, each as in its header. -/
def DistinctIds (dds : Rustdds) (system : System (SharedClient Request) (SharedLabel Request)) : Prop :=
  ∀ state, system.Reachable state → state.client.serviceMapping ≠ .enhanced →
    (∀ first second result result', first ≠ second → state.returned first = some result →
      state.returned second = some result' → result.1 ≠ result'.1) ∧
    ∀ index result, state.returned index = some result → result.2.HeadedBy dds state.client.serviceMapping result.1

/-- A call loads the counter while it still holds what the call's own increment left there, and the
    counter has not come round to a value it had before. -/
def SharedClient.undisturbed (state : SharedClient Request) : SharedLabel Request → Bool
  | .increment _ => state.increments < 2 ^ 64
  | .load index =>
    match state.calls[index]? with
    | some ⟨_, .incremented own⟩ => state.client.sequenceNumberGen = own
    | _ => true
  | _ => true

theorem Client.finishRequest_ok {dds : Rustdds} {codec : CdrCodec Request} {view : Client} {request : Request}
    {write : Except WriteError SampleIdentity} {requestId : RmwRequestId} {sample : Sample}
    (finished : view.finishRequest dds codec request write = .ok (requestId, sample))
    (numbered : view.serviceMapping ≠ .enhanced) :
    requestId = view.genRequestId ∧ sample.HeadedBy dds view.serviceMapping view.genRequestId := by
  obtain ⟨wrapper, built, rest⟩ := bind_eq_ok.mp finished
  obtain ⟨written, _, joined⟩ := bind_eq_ok.mp rest
  cases joined
  obtain ⟨header, body, wrote, _, rfl⟩ := RequestWrapper.new_ok built
  refine ⟨?_, header, body, wrote, rfl⟩
  unfold Client.sentRequestId
  split
  · contradiction
  · rfl
  · rfl

def SendPhase.Fits (dds : Rustdds) (client : Client) : SendPhase → Prop
  | .loaded own view => view = { client with sequenceNumberGen := own }
  | .finished own (.ok (requestId, sample)) => client.serviceMapping ≠ .enhanced →
    requestId.sequenceNumber.value = own ∧ sample.HeadedBy dds client.serviceMapping requestId
  | _ => True

structure SharedClient.Sound (dds : Rustdds) (first : Int64) (state : SharedClient Request) : Prop where
  counter : state.client.sequenceNumberGen = first + .ofNat state.increments
  bound : state.increments ≤ 2 ^ 64
  owned : ∀ (index : Nat) (call : SendRequest Request) own, state.calls[index]? = some call →
    call.phase.own? = some own → ∃ turn, 1 ≤ turn ∧ turn ≤ state.increments ∧ own = first + .ofNat turn
  distinct : ∀ (index place : Nat) (call other : SendRequest Request) own, state.calls[index]? = some call →
    state.calls[place]? = some other → call.phase.own? = some own → other.phase.own? = some own → index = place
  fits : ∀ (index : Nat) (call : SendRequest Request), state.calls[index]? = some call →
    call.phase.Fits dds state.client

theorem SendPhase.Fits.counter {dds : Rustdds} {client : Client} {phase : SendPhase} (fits : phase.Fits dds client)
    (number : Int64) : phase.Fits dds { client with sequenceNumberGen := number } := by
  cases phase with
  | started => trivial
  | incremented own => trivial
  | loaded own view => exact fits
  | finished own result =>
    cases result with
    | error error => trivial
    | ok result => exact fits

theorem ofNat_add_inj {first : Int64} {turn other : Nat} (before : turn < other) (near : other ≤ turn + (2 ^ 64 - 1)) :
    first + .ofNat turn ≠ first + .ofNat other := by
  intro same
  have numbers := congrArg (fun number => number.toBitVec.toNat) same
  simp only [Int64.toBitVec_add, BitVec.toNat_add, Int64.toBitVec_ofNat', BitVec.toNat_ofNat] at numbers
  omega

section

variable {dds : Rustdds} {codec : CdrCodec Request} {first : Int64} {state : SharedClient Request}

theorem SharedClient.Sound.call (held : state.Sound dds first) (request : Request) :
    SharedClient.Sound dds first { state with calls := state.calls ++ [⟨request, .started⟩] } := by
  have once : ClaimedOnce (fun call : SendRequest Request => call.phase.own?) state.calls := held.distinct
  have idle : (fun call : SendRequest Request => call.phase.own?) ⟨request, .started⟩ = none := rfl
  refine ⟨held.counter, held.bound, ?_, once.concat idle, ?_⟩
  · intro index call own looked owns
    exact held.owned index call own (claim_concat (fun call => call.phase.own?) idle looked owns) owns
  · intro index call looked
    rcases lookup_concat looked with old | ⟨_, new⟩
    · exact held.fits index call old
    · rw [new]
      trivial

theorem SharedClient.Sound.increment (held : state.Sound dds first) {index : Nat} {request : Request}
    (room : state.increments < 2 ^ 64) :
    SharedClient.Sound dds first ⟨state.client.incrementSequenceNumber,
      state.calls.set index ⟨request, .incremented state.client.incrementSequenceNumber.sequenceNumberGen⟩,
      state.increments + 1⟩ := by
  have counter : state.client.incrementSequenceNumber.sequenceNumberGen = first + .ofNat (state.increments + 1) := by
    rw [Client.incrementSequenceNumber, held.counter, Int64.ofNat_add, Int64.add_assoc]
    rfl
  have once : ClaimedOnce (fun call : SendRequest Request => call.phase.own?) state.calls := held.distinct
  have fresh : ∀ call ∈ state.calls,
      call.phase.own? ≠ some state.client.incrementSequenceNumber.sequenceNumberGen := by
    intro call member owns
    obtain ⟨place, looked⟩ := List.getElem?_of_mem member
    obtain ⟨turn, low, high, own⟩ := held.owned place call _ looked owns
    rw [counter] at own
    exact ofNat_add_inj (by omega) (by omega) own.symm
  refine ⟨counter, room, ?_, once.claim rfl fresh, ?_⟩
  · intro place call own looked owns
    rcases lookup_set looked with ⟨_, rfl⟩ | ⟨_, old⟩
    · cases owns
      exact ⟨state.increments + 1, by omega, by simp, counter⟩
    · obtain ⟨turn, low, high, same⟩ := held.owned place call own old owns
      exact ⟨turn, low, by simp only; omega, same⟩
  · intro place call looked
    rcases lookup_set looked with ⟨_, rfl⟩ | ⟨_, old⟩
    · trivial
    · exact (held.fits place call old).counter _

/-- A step of a call that leaves the counter alone. -/
theorem SharedClient.Sound.advance (held : state.Sound dds first) {index : Nat} {request : Request}
    {before after : SendPhase} (looked : state.calls[index]? = some ⟨request, before⟩) (same : after.own? = before.own?)
    (fits : after.Fits dds state.client) :
    SharedClient.Sound dds first { state with calls := state.calls.set index ⟨request, after⟩ } := by
  have once : ClaimedOnce (fun call : SendRequest Request => call.phase.own?) state.calls := held.distinct
  have kept : after.own? = none ∨ after.own? = before.own? := .inr same
  refine ⟨held.counter, held.bound, ?_, once.move looked kept, ?_⟩
  · intro place call own found owns
    obtain ⟨old, foundOld, ownsOld⟩ := claim_before (fun call => call.phase.own?) looked kept found owns
    exact held.owned place old own foundOld ownsOld
  · intro place call found
    rcases lookup_set found with ⟨_, rfl⟩ | ⟨_, old⟩
    · exact fits
    · exact held.fits place call old

theorem SharedClient.Sound.step (held : state.Sound dds first) {label : SharedLabel Request}
    {after : SharedClient Request} (guarded : state.undisturbed label = true)
    (stepped : state.step dds codec label = some after) : after.Sound dds first := by
  cases label with
  | call request =>
    cases stepped
    exact held.call request
  | increment index =>
    simp only [SharedClient.step] at stepped
    split at stepped
    · cases stepped
      exact held.increment (of_decide_eq_true guarded)
    · cases stepped
  | load index =>
    simp only [SharedClient.step] at stepped
    split at stepped
    · rename_i request own looked
      cases stepped
      have current : state.client.sequenceNumberGen = own := by
        simpa [SharedClient.undisturbed, looked] using guarded
      have fits : (SendPhase.loaded own state.client).Fits dds state.client := by
        simp only [SendPhase.Fits, ← current]
      exact held.advance looked rfl fits
    · cases stepped
  | write index outcome =>
    simp only [SharedClient.step] at stepped
    split at stepped
    · rename_i request own view looked
      cases stepped
      have seen : view = { state.client with sequenceNumberGen := own } := held.fits index _ looked
      have fits : (SendPhase.finished own (view.finishRequest dds codec request outcome)).Fits dds state.client := by
        cases finished : view.finishRequest dds codec request outcome with
        | error error => trivial
        | ok result =>
          intro numbered
          obtain ⟨id, headed⟩ := Client.finishRequest_ok finished (by rw [seen]; exact numbered)
          rw [id]
          rw [seen] at headed ⊢
          exact ⟨rfl, headed⟩
      exact held.advance looked rfl fits
    · cases stepped

theorem SharedClient.returned_eq {index : Nat} {result : RmwRequestId × Sample}
    (returned : state.returned index = some result) :
    ∃ request own, state.calls[index]? = some ⟨request, .finished own (.ok result)⟩ := by
  unfold SharedClient.returned at returned
  split at returned
  · rename_i request own found looked
    cases returned
    exact ⟨request, own, looked⟩
  · cases returned

end

theorem initial_sound (dds : Rustdds) (codec : CdrCodec Request) (client : Client) :
    (sharedClient dds codec client).initial.Sound dds client.sequenceNumberGen where
  counter := (Int64.add_zero _).symm
  bound := Nat.zero_le _
  owned := by
    intro index call own looked
    cases looked
  distinct := by
    intro index place call other own looked
    cases looked
  fits := by
    intro index call looked
    cases looked

theorem undisturbed_ids_distinct (dds : Rustdds) (codec : CdrCodec Request) (client : Client) :
    DistinctIds dds ((sharedClient dds codec client).restrict fun state label => state.undisturbed label = true) := by
  intro state reachable numbered
  have held : state.Sound dds client.sequenceNumberGen := by
    apply reachable.invariant (SharedClient.Sound dds client.sequenceNumberGen)
    · exact initial_sound dds codec client
    · intro before label after held stepped
      obtain ⟨guarded, stepped⟩ := System.restrict_step.mp stepped
      exact held.step guarded stepped
  refine ⟨?_, ?_⟩
  · intro first second result result' different returned returned' same
    obtain ⟨request, own, looked⟩ := SharedClient.returned_eq returned
    obtain ⟨request', own', looked'⟩ := SharedClient.returned_eq returned'
    have number : result.1.sequenceNumber.value = own := (held.fits _ _ looked numbered).1
    have number' : result'.1.sequenceNumber.value = own' := (held.fits _ _ looked' numbered).1
    have owns : own = own' := by rw [← number, ← number', same]
    exact different (held.distinct first second _ _ own looked looked' rfl (by rw [owns]; rfl))
  · intro index result returned
    obtain ⟨request, own, looked⟩ := SharedClient.returned_eq returned
    exact (held.fits _ _ looked numbered).2

def crossedCalls : List (SharedLabel UInt32) :=
  [.call 7, .call 8, .increment 0, .increment 1, .load 0, .load 1, .write 0 (.ok ⟨countingGuid, ⟨1⟩⟩),
   .write 1 (.ok ⟨countingGuid, ⟨2⟩⟩)]

def SharedClient.sameIds (state : SharedClient Request) : Bool :=
  match state.returned 0, state.returned 1 with
  | some result, some result' => state.client.serviceMapping ≠ .enhanced && result.1 = result'.1
  | _, _ => false

theorem crossed_calls_share_an_id : ¬DistinctIds plainCdr (sharedClient plainCdr cdrWord basicClient) := by
  intro distinct
  obtain ⟨state, reachable, same⟩ := System.reachable_of_check (sharedClient plainCdr cdrWord basicClient)
    crossedCalls SharedClient.sameIds (by decide)
  unfold SharedClient.sameIds at same
  split at same
  · rename_i result result' returned returned'
    simp only [Bool.and_eq_true, decide_eq_true_eq] at same
    exact (distinct state reachable same.1).1 0 1 result result' (by decide) returned returned' same.2
  · cases same

end Ros2Client
