import Ros2Client.Node.Spinner
import Ros2Client.Transition.Runs

open Transition

namespace Ros2Client

inductive MatchSide
  | readerWaitsForWriter
  | writerWaitsForReader
deriving DecidableEq

def MatchTables.table (tables : MatchTables) : MatchSide → MatchTable
  | .readerWaitsForWriter => tables.readersToRemoteWriters
  | .writerWaitsForReader => tables.writersToRemoteReaders

inductive WaitPhase
  | created
  | draining
  | drained
  | pending
  | ready
deriving DecidableEq

structure MatchWait where
  side : MatchSide
  localEndpoint : GUID
  streaming : Bool
  phase : WaitPhase

def MatchWait.matched (wait : MatchWait) (tables : MatchTables) : Bool :=
  (tables.table wait.side)[wait.localEndpoint]?.any fun remotes => !remotes.isEmpty

inductive Holder
  | matchWait (wait : MatchWait)
  | listener
  | dropped

structure StatusReceiver (Info : Type) where
  channel : Channel (NodeEvent Info)
  holder : Holder

inductive ReceiverAction
  | startPoll
  | pollNext
  | check
  | drop

variable {Info : Type}

def StatusReceiver.setWait (receiver : StatusReceiver Info) (wait : MatchWait) : StatusReceiver Info :=
  { receiver with holder := .matchWait wait }

def StatusReceiver.setQueue (receiver : StatusReceiver Info) (queue : List (NodeEvent Info)) :
    StatusReceiver Info :=
  { receiver with channel := { receiver.channel with queue := queue } }

/-- The steps of the task behind a receiver. A poll takes one event after another until there is
    none, and only then looks into the table. -/
def StatusReceiver.step (receiver : StatusReceiver Info) (tables : MatchTables) :
    ReceiverAction → Option (StatusReceiver Info)
  | .startPoll =>
    match receiver.holder with
    | .matchWait wait =>
      if wait.phase = .created || wait.phase = .pending then
        some (receiver.setWait { wait with phase := if wait.streaming then .draining else .drained })
      else none
    | _ => none
  | .pollNext =>
    match receiver.holder, receiver.channel.queue with
    | .matchWait wait, [] =>
      if wait.phase = .draining then
        some (receiver.setWait { wait with phase := .drained, streaming := !receiver.channel.closed })
      else none
    | .matchWait wait, _ :: rest => if wait.phase = .draining then some (receiver.setQueue rest) else none
    | .listener, _ :: rest => some (receiver.setQueue rest)
    | _, _ => none
  | .check =>
    match receiver.holder with
    | .matchWait wait =>
      if wait.phase = .drained then
        some (receiver.setWait { wait with phase := if wait.matched tables then .ready else .pending })
      else none
    | _ => none
  | .drop => some ⟨receiver.channel.close, .dropped⟩

/-- Where the spinner stands. While it announces it holds the lock on the senders. -/
inductive SpinnerPhase (Info : Type)
  | idle
  | recorded (event : NodeEvent Info)
  | announcing (event : NodeEvent Info) (index : Nat) (closed : List Nat)
  | gone

structure MatchState (Info : Type) where
  tables : MatchTables
  receivers : List (StatusReceiver Info)
  /-- The receivers whose senders are in `status_event_senders`, in the order of that array. -/
  senders : List Nat
  spinner : SpinnerPhase Info

inductive MatchLabel (Info : Type)
  | record (event : NodeEvent Info)
  | announce
  | trySend
  | removeClosed
  | register (holder : Holder)
  | receiver (index : Nat) (action : ReceiverAction)
  | shutdown

def Holder.isNew : Holder → Bool
  | .matchWait wait => wait.phase = .created && wait.streaming
  | .listener => true
  | .dropped => false

def MatchState.step (state : MatchState Info) : MatchLabel Info → Option (MatchState Info)
  | .record event =>
    match state.spinner with
    | .idle => some { state with tables := state.tables.record event, spinner := .recorded event }
    | _ => none
  | .announce =>
    match state.spinner with
    | .recorded event => some { state with spinner := .announcing event 0 [] }
    | _ => none
  | .trySend =>
    match state.spinner with
    | .announcing event index closed =>
      state.senders[index]?.bind fun sender =>
        state.receivers[sender]?.map fun receiver =>
          { state with
            receivers := state.receivers.set sender { receiver with channel := receiver.channel.offer event }
            spinner := .announcing event (index + 1) (match receiver.channel.trySend event with
              | .error .closed => closed ++ [index]
              | _ => closed) }
    | _ => none
  | .removeClosed =>
    match state.spinner with
    | .announcing _ index closed =>
      if index = state.senders.length then
        some { state with senders := removeClosed state.senders closed, spinner := .idle }
      else none
    | _ => none
  | .register holder =>
    match state.spinner with
    | .idle | .recorded _ =>
      if holder.isNew then
        some { state with
          receivers := state.receivers ++ [⟨Channel.new (some 8), holder⟩]
          senders := state.senders ++ [state.receivers.length] }
      else none
    | _ => none
  | .receiver index action =>
    state.receivers[index]?.bind fun receiver =>
      (receiver.step state.tables action).map fun after =>
        { state with receivers := state.receivers.set index after }
  -- Node and Spinner are dropped, and with them every sender.
  | .shutdown =>
    match state.spinner with
    | .idle =>
      some { state with
        receivers := state.receivers.mapIdx fun index receiver =>
          if index ∈ state.senders then { receiver with channel := receiver.channel.close } else receiver
        senders := []
        spinner := .gone }
    | _ => none

def matchWaiting (Info : Type) : System (MatchState Info) (MatchLabel Info) where
  initial := ⟨⟨∅, ∅⟩, [], [], .idle⟩
  step := MatchState.step

end Ros2Client
