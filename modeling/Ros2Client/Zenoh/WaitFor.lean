import Ros2Client.Transition.Channel
import Ros2Client.Transition.Runs
import Ros2Client.Zenoh.GraphCache

open Transition
open Std (TreeMap)

namespace Ros2Client

inductive WaitForPhase
  | subscribed
  | receiving
  | returned
deriving DecidableEq

structure WaitFor where
  kind : EntityKind
  name : Str
  phase : WaitForPhase

def WaitFor.wants (wait : WaitFor) : GraphEvent → Bool
  | .entityDeclared entity => entity.kind = wait.kind && entity.name = some wait.name
  | .entityUndeclared _ => false

inductive GraphHolder
  | waitFor (wait : WaitFor)
  | stream
  | dropped

structure GraphSubscriber where
  channel : Channel GraphEvent
  holder : GraphHolder

inductive SubscriberAction
  | check
  | recv
  | drop

def GraphSubscriber.step (subscriber : GraphSubscriber) (entities : Entities) :
    SubscriberAction → Option GraphSubscriber
  | .check =>
    match subscriber.holder with
    | .waitFor wait =>
      if wait.phase = .subscribed then
        some { subscriber with holder := .waitFor { wait with
          phase := if 0 < entities.countKindOnTopic wait.kind wait.name then .returned else .receiving } }
      else none
    | _ => none
  | .recv =>
    match subscriber.holder, subscriber.channel.queue with
    | .waitFor wait, event :: rest =>
      if wait.phase = .receiving then
        some ⟨{ subscriber.channel with queue := rest },
          .waitFor { wait with phase := if wait.wants event then .returned else .receiving }⟩
      else none
    | .stream, _ :: rest => some { subscriber with channel := { subscriber.channel with queue := rest } }
    | _, _ => none
  | .drop => some ⟨subscriber.channel.close, .dropped⟩

/-- A broadcast that holds the lock on the subscribers, and those it is still to send to. -/
structure Broadcast where
  event : GraphEvent
  remaining : List Nat

structure GraphState where
  entities : Entities
  subscriptions : List GraphSubscriber
  /-- The subscribers of the cache, by their place in `subscriptions`. -/
  subscribers : List Nat
  /-- The events of puts and deletes that have changed the map and not begun their broadcast. -/
  inFlight : List GraphEvent
  broadcast : Option Broadcast

inductive GraphLabel
  | applyPut (key : Str)
  | applyDelete (key : Str)
  | subscribe (holder : GraphHolder)
  | startBroadcast (index : Nat)
  | send
  | finishBroadcast
  | subscriber (index : Nat) (action : SubscriberAction)

def GraphHolder.isNew : GraphHolder → Bool
  | .waitFor wait => wait.phase = .subscribed
  | .stream => true
  | .dropped => false

def GraphState.isClosed (state : GraphState) (subscriber : Nat) : Bool :=
  state.subscriptions[subscriber]?.any (·.channel.closed)

def GraphState.step (state : GraphState) : GraphLabel → Option GraphState
  | .applyPut key =>
    match parseLivelinessKey key with
    | some entity =>
      some { state with
        entities := state.entities.insert key entity
        inFlight := state.inFlight ++ [.entityDeclared (.ofParsed entity)] }
    | none => some state
  | .applyDelete key =>
    match state.entities[key]? with
    | some entity =>
      some { state with
        entities := state.entities.erase key
        inFlight := state.inFlight ++ [.entityUndeclared (.ofParsed entity)] }
    | none => some state
  | .subscribe holder =>
    if state.broadcast.isNone && holder.isNew then
      some { state with
        subscriptions := state.subscriptions ++ [⟨Channel.new none, holder⟩]
        subscribers := state.subscribers ++ [state.subscriptions.length] }
    else none
  | .startBroadcast index =>
    if state.broadcast.isNone then
      state.inFlight[index]?.map fun event =>
        let kept := state.subscribers.filter fun subscriber => !state.isClosed subscriber
        { state with
          subscribers := kept
          inFlight := state.inFlight.eraseIdx index
          broadcast := some ⟨event, kept⟩ }
    else none
  | .send =>
    match state.broadcast with
    | some ⟨event, subscriber :: remaining⟩ =>
      state.subscriptions[subscriber]?.map fun subscription =>
        { state with
          subscriptions := state.subscriptions.set subscriber
            { subscription with channel := subscription.channel.offer event }
          broadcast := some ⟨event, remaining⟩ }
    | _ => none
  | .finishBroadcast =>
    match state.broadcast with
    | some ⟨_, []⟩ => some { state with broadcast := none }
    | _ => none
  | .subscriber index action =>
    state.subscriptions[index]?.bind fun subscription =>
      (subscription.step state.entities action).map fun after =>
        { state with subscriptions := state.subscriptions.set index after }

def graphWaiting : System GraphState GraphLabel where
  initial := ⟨∅, [], [], [], none⟩
  step := GraphState.step

end Ros2Client
