import Fpd.Service.Status
import Fpd.WebSocket.Reconnecting

namespace Fpd
namespace Service

open Async WebSocket

/-!
# `ProxyService::connect`

The daemon while `connect` runs: the websocket, the function itself up to and
in its main loop, the status task, the task for outgoing messages, the health
check endpoint and the handlers of the relay's messages.

Whatever a task does to the websocket is a list of actions of the websocket's
own machine, so a run of the daemon is a run of that machine.  A `select!` of
the service takes any branch that is ready.  Ctrl-C arrives on another thread,
so the shutdown signal may be sent between any two steps; its handler keeps a
sender, so the broadcast is never closed.
-/

/-- Why `connect` returns before its main loop. -/
inductive ConnectFailure
  | webSocket (error : WebSocket.Error)
  | noConnectionId
  | bind (description : String)
  deriving DecidableEq, Repr

/-- Where `connect` rests.  In `selecting` it waits for the next message or
for the shutdown signal, to which this round of the loop has subscribed. -/
inductive Main
  | called
  | connecting
  | binding
  | spawningStatus
  | spawningOutgoing
  | subscribing
  | selecting (receiver : Nat)
  | failed (failure : ConnectFailure)
  | returned (result : Except WebSocket.Error Unit)
  deriving DecidableEq

namespace Main

/-- The main loop has been entered. -/
def entered : Main -> Bool
  | .subscribing => true
  | .selecting _ => true
  | .returned _ => true
  | _ => false

def subscribed : Main -> Bool
  | .selecting _ => true
  | _ => false

end Main

/-- The task that sends what is in the outgoing channel. -/
inductive OutgoingTask
  | unspawned
  | selecting (receiver : Nat)
  | sending (receiver : Nat)
  | stopped
  deriving DecidableEq, Repr

def OutgoingTask.running : OutgoingTask -> Bool
  | .selecting _ => true
  | .sending _ => true
  | _ => false

/-- The task that accepts connections, and the connections it serves.  Each of
these holds a websocket handle. -/
structure HealthCheck where
  accepting : Bool
  connections : Nat
  deriving DecidableEq, Repr

/-- `queue` is the outgoing channel.  `passed` records what has been passed to
`send` of the websocket; no step reads it. -/
structure Daemon where
  ws : ReconnectingWebSocket
  main : Main
  shutdown : Broadcast
  status : Status
  outgoing : OutgoingTask
  queue : List Outgoing
  passed : List Outgoing
  healthCheck : HealthCheck
  handling : Handling

namespace Daemon

/-- `connect` has been called and has built the websocket. -/
def initial : Daemon where
  ws := .build
  main := .called
  shutdown := .new
  status := .empty
  outgoing := .unspawned
  queue := []
  passed := []
  healthCheck := ⟨false, 0⟩
  handling := .empty

/-- Somebody is subscribed to the shutdown. -/
def listened (daemon : Daemon) : Bool :=
  daemon.main.subscribed || daemon.status.task.running || daemon.outgoing.running

/-- The receiver of the outgoing channel goes with the task that owns it. -/
def enqueue (daemon : Daemon) (messages : List Outgoing) : Daemon :=
  { daemon with
    queue := if daemon.outgoing = .stopped then daemon.queue else daemon.queue ++ messages }

/-- What a handler has put on the reply channel. -/
def replies (before after : Handling) : List Outgoing :=
  (after.replies.drop before.replies.length).map fun reply => (.reply reply.1, reply.2)

def callWebSocket (service : ProxyService) (daemon : Daemon)
    (actions : List ReconnectingWebSocket.Action) : Option Daemon :=
  (run (ReconnectingWebSocket.step service.maxRetries) anyStep daemon.ws actions).map fun ws =>
    { daemon with ws := ws }

/-! ## Up to the main loop -/

/-- `connect` of the websocket has returned.  On success the handle for the
health check is cloned, whether there will be one or not. -/
def connected (service : ProxyService) (daemon : Daemon) (outcome : Except WebSocket.Error Unit)
    (connId : Option String) : Option Daemon :=
  match outcome, connId with
  | .error error, _ =>
      (daemon.callWebSocket service [.drop]).map fun daemon =>
        { daemon with main := .failed (.webSocket error) }
  | .ok (), none =>
      (daemon.callWebSocket service [.drop]).map fun daemon =>
        { daemon with main := .failed .noConnectionId }
  | .ok (), some _ =>
      (daemon.callWebSocket service [.clone]).map fun daemon =>
        { daemon with main := if service.listenAddress.isSome then .binding else .spawningStatus }

def attempted (service : ProxyService) (daemon : Daemon) (outcome : Except WebSocket.Error Unit)
    (connId : Option String) : Option Daemon :=
  match daemon.main with
  | .connecting =>
      match daemon.callWebSocket service [.attempted (.user 0) outcome] with
      | some daemon =>
          if daemon.ws.connects.isEmpty then daemon.connected service outcome connId
          else some daemon
      | none => none
  | _ => none

def bound (service : ProxyService) (daemon : Daemon) (result : Except String Unit) :
    Option Daemon :=
  match daemon.main with
  | .binding =>
      match result with
      | .error description =>
          (daemon.callWebSocket service [.drop, .drop]).map fun daemon =>
            { daemon with main := .failed (.bind description) }
      | .ok () => some { daemon with main := .spawningStatus, healthCheck := ⟨true, 0⟩ }
  | _ => none

/-- An interval without length makes the task panic. -/
def spawnedStatus (service : ProxyService) (daemon : Daemon) : Option Daemon :=
  match daemon.main with
  | .spawningStatus =>
      some { daemon with
        main := .spawningOutgoing
        status := { daemon.status with
          task := if service.statusCheckInterval = 0 then .panicked
            else .selecting daemon.shutdown.subscribe } }
  | _ => none

def spawnedOutgoing (service : ProxyService) (daemon : Daemon) : Option Daemon :=
  match daemon.main with
  | .spawningOutgoing =>
      (daemon.callWebSocket service [.clone]).map fun daemon =>
        { daemon with main := .subscribing, outgoing := .selecting daemon.shutdown.subscribe }
  | _ => none

/-! ## The main loop -/

/-- The handles that go when `connect` returns: its own, and the one for the
health check if no task has taken it. -/
def dropped (service : ProxyService) : List ReconnectingWebSocket.Action :=
  if service.listenAddress.isSome then [.drop] else [.drop, .drop]

def returned (service : ProxyService) (daemon : Daemon) (result : Except WebSocket.Error Unit) :
    Option Daemon :=
  (daemon.callWebSocket service (dropped service)).map fun daemon =>
    { daemon with main := .returned result }

/-- A round of the loop begins. -/
def subscribed (service : ProxyService) (daemon : Daemon) : Option Daemon :=
  match daemon.main with
  | .subscribing =>
      (daemon.callWebSocket service [.recv]).map fun daemon =>
        { daemon with main := .selecting daemon.shutdown.subscribe }
  | _ => none

/-- The branch for incoming items.  A message is handled by a task of its own. -/
def incoming (service : ProxyService) (codec : Codec) (daemon : Daemon) :
    Option Item -> Option Daemon
  | some (.ok (.binary message)) =>
      match codec.deserializeMsgpack message with
      | .ok message =>
          (daemon.handling.step service codec (.received message)).map fun handling =>
            { daemon with main := .subscribing, handling := handling }
      | .error _ => some { daemon with main := .subscribing }
  | some (.ok _) => some { daemon with main := .subscribing }
  | some (.error err) => daemon.returned service (.error err)
  | none => daemon.returned service (.ok ())

/-- The select of the loop polls `recv`. -/
def received (service : ProxyService) (codec : Codec) (daemon : Daemon) : Option Daemon :=
  match daemon.main with
  | .selecting _ =>
      match daemon.ws.pollRecv 0 with
      | some (ws, .ready item) => { daemon with ws := ws }.incoming service codec item
      | some (ws, .pending) => some { daemon with ws := ws }
      | none => none
  | _ => none

/-- The select of the loop polls its receiver. -/
def shutDown (service : ProxyService) (daemon : Daemon) : Option Daemon :=
  match daemon.main with
  | .selecting receiver =>
      if daemon.shutdown.holds receiver then
        match daemon.callWebSocket service [.cancelRecv 0] with
        | some daemon => daemon.returned service (.ok ())
        | none => none
      else none
  | _ => none

/-! ## The task for outgoing messages -/

/-- A message is taken from the channel and passed to `send`, which refuses it
at once when the websocket is closed.  Without a sender the channel answers
`None`, and the loop goes around. -/
def taken (service : ProxyService) (codec : Codec) (daemon : Daemon) : Option Daemon :=
  match daemon.outgoing, daemon.queue with
  | .selecting receiver, message :: queue =>
      (daemon.callWebSocket service [.send (.binary (codec.serializeMsgpack message.2))]).map
        fun daemon => { daemon with
          outgoing := if daemon.ws.close.value then .selecting receiver else .sending receiver
          queue := queue
          passed := daemon.passed ++ [message] }
  | _, _ => none

def sent (service : ProxyService) (daemon : Daemon) : Option Daemon :=
  match daemon.outgoing with
  | .sending receiver =>
      (daemon.callWebSocket service [.pollSend 0]).map fun daemon =>
        { daemon with outgoing := .selecting receiver }
  | _ => none

/-- The task stops, and what is left in its channel goes with it. -/
def outgoingStopped (service : ProxyService) (daemon : Daemon) : Option Daemon :=
  match daemon.outgoing with
  | .selecting receiver =>
      if daemon.shutdown.holds receiver then
        (daemon.callWebSocket service [.drop]).map fun daemon =>
          { daemon with outgoing := .stopped, queue := [] }
      else none
  | _ => none

/-! ## The machine -/

/-- The websocket does it on its own, without any call of its users. -/
def autonomous : ReconnectingWebSocket.Action -> Bool
  | .attempted (.readLoop _) _ => true
  | .woken _ => true
  | .readLoop _ => true
  | .writeLoop _ => true
  | .keepAliveRead _ _ => true
  | .keepAliveWrite _ _ _ => true
  | _ => false

inductive Action
  | signalled
  | webSocket (action : ReconnectingWebSocket.Action)
  | connecting
  | attempted (outcome : Except WebSocket.Error Unit) (connId : Option String)
  | bound (result : Except String Unit)
  | spawnedStatus
  | spawnedOutgoing
  | subscribed
  | received
  | shutDown
  | status (action : Status.Action)
  | taken
  | sent
  | outgoingStopped
  | accepted
  | acceptFailed
  | served
  | handled (index : Nat) (provider : Provider)

/-- Everything that can happen while `connect` runs and afterwards. -/
def step (service : ProxyService) (codec : Codec) (daemon : Daemon) : Action -> Option Daemon
  | .signalled =>
      (daemon.shutdown.send daemon.listened).map fun shutdown =>
        { daemon with shutdown := shutdown }
  | .webSocket action =>
      if autonomous action then daemon.callWebSocket service [action] else none
  | .connecting =>
      match daemon.main with
      | .called =>
          (daemon.callWebSocket service [.connect]).map fun daemon =>
            { daemon with main := .connecting }
      | _ => none
  | .attempted outcome connId => daemon.attempted service outcome connId
  | .bound result => daemon.bound service result
  | .spawnedStatus => daemon.spawnedStatus service
  | .spawnedOutgoing => daemon.spawnedOutgoing service
  | .subscribed => daemon.subscribed service
  | .received => daemon.received service codec
  | .shutDown => daemon.shutDown service
  | .status action =>
      (daemon.status.step service codec daemon.shutdown action).map fun answer =>
        { daemon with status := answer.1 }.enqueue answer.2
  | .taken => daemon.taken service codec
  | .sent => daemon.sent service
  | .outgoingStopped => daemon.outgoingStopped service
  | .accepted =>
      if daemon.healthCheck.accepting then
        (daemon.callWebSocket service [.clone]).map fun daemon =>
          { daemon with
            healthCheck := { daemon.healthCheck with
              connections := daemon.healthCheck.connections + 1 } }
      else none
  | .acceptFailed =>
      if daemon.healthCheck.accepting then
        (daemon.callWebSocket service [.drop]).map fun daemon =>
          { daemon with healthCheck := { daemon.healthCheck with accepting := false } }
      else none
  | .served =>
      if 0 < daemon.healthCheck.connections then
        (daemon.callWebSocket service [.drop]).map fun daemon =>
          { daemon with
            healthCheck := { daemon.healthCheck with
              connections := daemon.healthCheck.connections - 1 } }
      else none
  | .handled index provider =>
      (daemon.handling.step service codec (.handled index provider)).map fun handling =>
        { daemon with handling := handling }.enqueue (replies daemon.handling handling)

end Daemon
end Service
end Fpd
