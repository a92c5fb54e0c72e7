import Fpd.Async.Machine
import Fpd.WebSocket.KeepAlive
import Mathlib.Tactic.Simps.Basic

namespace Fpd
namespace WebSocket

open Async

/-!
# `ReconnectingWebSocket`

The state of one `ReconnectingWebSocket`: the channels and flags of its
`Inner`, the handles and calls its users hold, and every connection made so
far with its keepalive and its two loops.  A loop is again its program
counter, and one action polls one task to its next await point.

`Inner` is shared by reference counting.  It lives while a user holds a handle
or a task holds one it has upgraded; when it goes, its channel ends and its
two watch senders go with it.  The loops keep their own receivers, so what
they find then is a closed channel and not a missing one.

The log records what callers, streams and sinks see.  No step reads it.
-/

/-- A call of `connect`: awaiting `initiate_connection` or the wait after it.
The length of the wait is not part of the state: a wait may end at any moment. -/
inductive ConnectCall
  | initiating (attempt : Nat)
  | sleeping (attempt : Nat)
  deriving DecidableEq, Repr

/-- What one round of the loop in `connect` comes to. -/
inductive ConnectAnswer
  | returned (result : Except Error Unit)
  | waiting (call : ConnectCall)
  deriving DecidableEq, Repr

/-- The loop body of `connect` once `initiate_connection` has answered. -/
def ConnectCall.answered (maxRetries attempt : Nat) : Except Error Unit -> ConnectAnswer
  | .ok () => .returned (.ok ())
  | .error error =>
      if attempt = maxRetries then .returned (.error error)
      else if error.isClientError then .returned (.error error)
      else .waiting (.sleeping attempt)

/-- The task of `spawn_read_loop`.  Between `starting` and its next rest, and
from `publishing` on, it holds an upgraded handle. -/
inductive ReadLoop
  | spawned
  | starting
  | selecting (disconnectSeen closeSeen : Nat)
  | forwarding (item : Item) (disconnectSeen closeSeen : Nat)
  | publishing (shouldReconnect : Bool)
  | reconnecting (call : ConnectCall)
  | finished
  deriving DecidableEq, Repr

/-- The task of `spawn_write_loop`. -/
inductive WriteLoop
  | selecting (disconnectSeen closeSeen : Nat)
  | sending (message : Message) (disconnectSeen closeSeen : Nat)
  | requeuing (message : Message)
  | publishing
  | finished
  deriving DecidableEq, Repr

namespace ReadLoop

def running : ReadLoop -> Bool
  | .finished => false
  | _ => true

/-- The loop has been spawned and has not set the disconnect flag yet. -/
def unpublished : ReadLoop -> Bool
  | .reconnecting _ => false
  | .finished => false
  | _ => true

/-- The loop has reset the disconnect flag and has not set it again. -/
def started : ReadLoop -> Bool
  | .selecting _ _ => true
  | .forwarding _ _ _ => true
  | .publishing _ => true
  | _ => false

/-- The loop is still inside its `loop`, or not there yet. -/
def looping : ReadLoop -> Bool
  | .publishing _ => false
  | .reconnecting _ => false
  | .finished => false
  | _ => true

def holdsInner : ReadLoop -> Bool
  | .starting => true
  | .publishing _ => true
  | .reconnecting _ => true
  | _ => false

end ReadLoop

namespace WriteLoop

def running : WriteLoop -> Bool
  | .finished => false
  | _ => true

def holdsInner : WriteLoop -> Bool
  | .publishing => true
  | _ => false

end WriteLoop

/-- One connection: the keepalive over its stream and the two loops over that. -/
structure Connection where
  ws : WebSocketKeepAlive
  readLoop : ReadLoop
  writeLoop : WriteLoop
  deriving DecidableEq, Repr

namespace Connection

/-- The part of `initiate_connection` after the handshake.  The receivers of
the loops are clones of ones that nobody ever marks as seen. -/
def new : Connection where
  ws := .newWithPingTimeout
  readLoop := .spawned
  writeLoop := .selecting 0 0

/-- A clone of the keepalive is alive as long as one of the two tasks is. -/
def held (connection : Connection) : Bool :=
  connection.readLoop.running || connection.writeLoop.running

def holdsInner (connection : Connection) : Bool :=
  connection.readLoop.holdsInner || connection.writeLoop.holdsInner

end Connection

inductive Event
  | connecting
  | connected (connection : Nat)
  | connectReturned (result : Except Error Unit)
  | closed
  | accepted (message : Message)
  | refused (error : Error)
  | forwarded (connection : Nat) (item : Item)
  | delivered (item : Item)
  | received (result : Option Item)
  | keepAlive (connection : Nat) (event : KeepAliveEvent)
  deriving DecidableEq, Repr

/-- Whose call of `connect` it is: a user's, or the reconnection of a read
loop. -/
inductive Caller
  | user (call : Nat)
  | readLoop (connection : Nat)
  deriving DecidableEq, Repr

structure ReconnectingWebSocket where
  handles : Nat
  connects : List ConnectCall
  sends : List Message
  recvs : List Nat
  outgoing : Channel Message 1
  retry : Channel Message 1
  incoming : Channel Item 1
  close : Watch Bool
  disconnect : Watch Bool
  connections : List Connection
  log : List Event
  deriving DecidableEq, Repr

namespace ReconnectingWebSocket

/-- `Builder::build`: one handle and nothing else yet. -/
def build : ReconnectingWebSocket where
  handles := 1
  connects := []
  sends := []
  recvs := []
  outgoing := .empty
  retry := .empty
  incoming := .empty
  close := .new false
  disconnect := .new false
  connections := []
  log := []

def innerAlive (socket : ReconnectingWebSocket) : Bool :=
  decide (0 < socket.handles) || socket.connections.any Connection.holdsInner

/-- `is_connected` -/
def isConnected (socket : ReconnectingWebSocket) : Bool :=
  !socket.close.value && !socket.disconnect.value

@[simps] def emit (socket : ReconnectingWebSocket) (events : List Event) : ReconnectingWebSocket :=
  { socket with log := socket.log ++ events }

@[simps] def setConnection (socket : ReconnectingWebSocket) (index : Nat) (connection : Connection) :
    ReconnectingWebSocket :=
  { socket with connections := socket.connections.set index connection }

/-! ## The loops of a connection -/

/-- The read loop breaks out of its `loop`: it tries to upgrade, and is done
when `Inner` is gone. -/
def leaveReadLoop (socket : ReconnectingWebSocket) (index : Nat) (connection : Connection)
    (shouldReconnect : Bool) : ReconnectingWebSocket :=
  socket.setConnection index { connection with
    readLoop := if socket.innerAlive then .publishing shouldReconnect else .finished }

def leaveWriteLoop (socket : ReconnectingWebSocket) (index : Nat) (connection : Connection) :
    ReconnectingWebSocket :=
  socket.setConnection index { connection with
    writeLoop := if socket.innerAlive then .publishing else .finished }

/-- One poll of the task of `spawn_read_loop`, up to its call of `connect`. -/
def readLoop (socket : ReconnectingWebSocket) (index : Nat) (connection : Connection) :
    Option ReconnectingWebSocket :=
  match connection.readLoop with
  | .spawned =>
      some (socket.setConnection index { connection with
        readLoop := if socket.innerAlive then .starting else .selecting 0 0 })
  | .starting =>
      some ({ socket with disconnect := socket.disconnect.sendReplace false }.setConnection index
        { connection with readLoop := .selecting 0 0 })
  | .selecting disconnectSeen closeSeen =>
      match connection.ws.recv with
      | .ready (none, _) => some (socket.leaveReadLoop index connection true)
      | .ready (some item, ws) =>
          if item.isClose then
            some (socket.leaveReadLoop index { connection with ws := ws } false)
          else
            some (socket.setConnection index { connection with
              ws := ws, readLoop := .forwarding item disconnectSeen closeSeen })
      | .pending =>
          match socket.disconnect.changed socket.innerAlive disconnectSeen with
          | .ready (.error ()) => some (socket.leaveReadLoop index connection true)
          | .ready (.ok (disconnected, version)) =>
              if disconnected then some (socket.leaveReadLoop index connection true)
              else some (socket.setConnection index { connection with
                readLoop := .selecting version closeSeen })
          | .pending =>
              match socket.close.changed socket.innerAlive closeSeen with
              | .ready (.error ()) => some (socket.leaveReadLoop index connection false)
              | .ready (.ok (closed, version)) =>
                  if closed then some (socket.leaveReadLoop index connection false)
                  else some (socket.setConnection index { connection with
                    readLoop := .selecting disconnectSeen version })
              | .pending => none
  | .forwarding item disconnectSeen closeSeen =>
      if socket.innerAlive then
        match socket.incoming.trySend item with
        | some incoming =>
            some (({ socket with incoming := incoming }.setConnection index
              { connection with readLoop := .selecting disconnectSeen closeSeen }).emit
                [.forwarded index item])
        | none => none
      else some (socket.leaveReadLoop index connection false)
  | .publishing shouldReconnect =>
      let socket := { socket with disconnect := socket.disconnect.sendReplace true }
      if shouldReconnect then
        some ((socket.setConnection index
          { connection with readLoop := .reconnecting (.initiating 0) }).emit [.connecting])
      else some (socket.setConnection index { connection with readLoop := .finished })
  | .reconnecting _ => none
  | .finished => none

/-- One poll of the task of `spawn_write_loop`.  The task holds a sender and
a receiver of the retry channel itself, so that one is never closed here. -/
def writeLoop (socket : ReconnectingWebSocket) (index : Nat) (connection : Connection) :
    Option ReconnectingWebSocket :=
  match connection.writeLoop with
  | .selecting disconnectSeen closeSeen =>
      match socket.retry.tryRecv with
      | some (message, retry) =>
          some ({ socket with retry := retry }.setConnection index
            { connection with writeLoop := .sending message disconnectSeen closeSeen })
      | none =>
          match socket.outgoing.tryRecv with
          | some (message, outgoing) =>
              some ({ socket with outgoing := outgoing }.setConnection index
                { connection with writeLoop := .sending message disconnectSeen closeSeen })
          | none =>
              if socket.innerAlive then
                match socket.disconnect.changed socket.innerAlive disconnectSeen with
                | .ready (.error ()) => some (socket.leaveWriteLoop index connection)
                | .ready (.ok (disconnected, version)) =>
                    if disconnected then some (socket.leaveWriteLoop index connection)
                    else some (socket.setConnection index { connection with
                      writeLoop := .selecting version closeSeen })
                | .pending =>
                    match socket.close.changed socket.innerAlive closeSeen with
                    | .ready (.error ()) => some (socket.leaveWriteLoop index connection)
                    | .ready (.ok (closed, version)) =>
                        if closed then some (socket.leaveWriteLoop index connection)
                        else some (socket.setConnection index { connection with
                          writeLoop := .selecting disconnectSeen version })
                    | .pending => none
              else some (socket.leaveWriteLoop index connection)
  | .sending message disconnectSeen closeSeen =>
      match connection.ws.outgoingSend message with
      | .ready (.ok ws) =>
          some (socket.setConnection index { connection with
            ws := ws, writeLoop := .selecting disconnectSeen closeSeen })
      | .ready (.error message) =>
          some (socket.setConnection index { connection with writeLoop := .requeuing message })
      | .pending => none
  | .requeuing message =>
      match socket.retry.trySend message with
      | some retry => some ({ socket with retry := retry }.leaveWriteLoop index connection)
      | none => none
  | .publishing =>
      some ({ socket with disconnect := socket.disconnect.sendReplace true }.setConnection index
        { connection with writeLoop := .finished })
  | .finished => none

/-- A poll of a keepalive task touches its own connection and the log. -/
def keepAlive (socket : ReconnectingWebSocket) (index : Nat) (connection : Connection)
    (answer : Option (WebSocketKeepAlive × List KeepAliveEvent)) :
    Option ReconnectingWebSocket :=
  match answer with
  | some (ws, events) =>
      some ((socket.setConnection index { connection with ws := ws }).emit
        (events.map (.keepAlive index)))
  | none => none

/-! ## Calls of `connect` -/

def connectCall (socket : ReconnectingWebSocket) : Caller -> Option ConnectCall
  | .user call => socket.connects[call]?
  | .readLoop index =>
      match socket.connections[index]? with
      | some connection =>
          match connection.readLoop with
          | .reconnecting call => some call
          | _ => none
      | none => none

def setConnectCall (socket : ReconnectingWebSocket) (caller : Caller) (call : ConnectCall) :
    ReconnectingWebSocket :=
  match caller with
  | .user position => { socket with connects := socket.connects.set position call }
  | .readLoop index =>
      match socket.connections[index]? with
      | some connection =>
          socket.setConnection index { connection with readLoop := .reconnecting call }
      | none => socket

/-- The call ends.  A user gets the result; a read loop drops it and is done. -/
def endConnectCall (socket : ReconnectingWebSocket) (caller : Caller)
    (result : Except Error Unit) : ReconnectingWebSocket :=
  match caller with
  | .user position =>
      { socket with connects := socket.connects.eraseIdx position }.emit [.connectReturned result]
  | .readLoop index =>
      match socket.connections[index]? with
      | some connection => socket.setConnection index { connection with readLoop := .finished }
      | none => socket

/-- `initiate_connection` after a handshake: both loops are spawned, then the
response handler runs. -/
def initiated (socket : ReconnectingWebSocket) : ReconnectingWebSocket :=
  { socket with connections := socket.connections ++ [Connection.new] }.emit
    [.connected socket.connections.length]

/-- `initiate_connection` of a call answers, and `connect` goes on from there. -/
def attempted (maxRetries : Nat) (socket : ReconnectingWebSocket) (caller : Caller)
    (outcome : Except Error Unit) : Option ReconnectingWebSocket :=
  match socket.connectCall caller with
  | some (.initiating attempt) =>
      let socket := match outcome with
        | .ok () => socket.initiated
        | .error _ => socket
      match ConnectCall.answered maxRetries attempt outcome with
      | .returned result => some (socket.endConnectCall caller result)
      | .waiting call => some (socket.setConnectCall caller call)
  | _ => none

/-- The wait is over and the next attempt starts. -/
def woken (socket : ReconnectingWebSocket) (caller : Caller) : Option ReconnectingWebSocket :=
  match socket.connectCall caller with
  | some (.sleeping attempt) =>
      some ((socket.setConnectCall caller (.initiating (attempt + 1))).emit [.connecting])
  | _ => none

/-! ## Calls of `send` and `recv` -/

/-- The first poll of `send` up to its await. -/
def send (socket : ReconnectingWebSocket) (message : Message) : ReconnectingWebSocket :=
  if socket.close.value then socket.emit [.refused .alreadyClosed]
  else { socket with sends := socket.sends ++ [message] }

def pollSend (socket : ReconnectingWebSocket) (call : Nat) : Option ReconnectingWebSocket :=
  match socket.sends[call]? with
  | some message =>
      if socket.innerAlive then
        match socket.outgoing.trySend message with
        | some outgoing =>
            some ({ socket with outgoing := outgoing, sends := socket.sends.eraseIdx call }.emit
              [.accepted message])
        | none => none
      else some ({ socket with sends := socket.sends.eraseIdx call }.emit
        [.refused .connectionClosed])
  | none => none

def endRecv (socket : ReconnectingWebSocket) (call : Nat) (result : Option Item) :
    ReconnectingWebSocket :=
  { socket with recvs := socket.recvs.eraseIdx call }.emit [.received result]

/-- One round of the loop in `recv`, with what the call returns if it ends. -/
def pollRecv (socket : ReconnectingWebSocket) (call : Nat) :
    Option (ReconnectingWebSocket × Poll (Option Item)) :=
  match socket.recvs[call]? with
  | some closeSeen =>
      match socket.incoming.tryRecv with
      | some (item, incoming) =>
          let socket := { socket with incoming := incoming }.emit [.delivered item]
          if item.isReset then some (socket, .pending)
          else some (socket.endRecv call (some item), .ready (some item))
      | none =>
          if socket.innerAlive then
            match socket.close.changed socket.innerAlive closeSeen with
            | .ready (.error ()) => some (socket.endRecv call none, .ready none)
            | .ready (.ok (closed, version)) =>
                if closed then some (socket.endRecv call none, .ready none)
                else some ({ socket with recvs := socket.recvs.set call version }, .pending)
            | .pending => none
          else
            let closed := some (.error .connectionClosed)
            some (socket.endRecv call closed, .ready closed)
  | none => none

/-! ## The machine -/

/-- No user awaits a call that borrows a handle. -/
def idle (socket : ReconnectingWebSocket) : Bool :=
  socket.connects.isEmpty && socket.sends.isEmpty && socket.recvs.isEmpty

inductive Action
  | clone
  | drop
  | close
  | connect
  | attempted (caller : Caller) (outcome : Except Error Unit)
  | woken (caller : Caller)
  | cancelConnect (call : Nat)
  | send (message : Message)
  | pollSend (call : Nat)
  | cancelSend (call : Nat)
  | recv
  | pollRecv (call : Nat)
  | cancelRecv (call : Nat)
  | readLoop (index : Nat)
  | writeLoop (index : Nat)
  | keepAliveRead (index : Nat) (stream : Poll (Option Item))
  | keepAliveWrite (index : Nat) (timeout : Bool) (sink : Poll (Except Error Unit))
  deriving DecidableEq, Repr

/-- Everything that can happen to a `ReconnectingWebSocket`: a user calls a
method, cancels or awaits a call, or a task is polled.  A method is called
through a handle, and the last handle outlives the calls that borrow it. -/
def step (maxRetries : Nat) (socket : ReconnectingWebSocket) :
    Action -> Option ReconnectingWebSocket
  | .clone =>
      if 0 < socket.handles then some { socket with handles := socket.handles + 1 } else none
  | .drop =>
      if 1 < socket.handles ∨ (socket.handles = 1 ∧ socket.idle) then
        some { socket with handles := socket.handles - 1 }
      else none
  | .close =>
      if 0 < socket.handles then
        some ({ socket with close := socket.close.sendReplace true }.emit [.closed])
      else none
  | .connect =>
      if 0 < socket.handles then
        some ({ socket with connects := socket.connects ++ [ConnectCall.initiating 0] }.emit
          [.connecting])
      else none
  | .attempted caller outcome => socket.attempted maxRetries caller outcome
  | .woken caller => socket.woken caller
  | .cancelConnect call =>
      if call < socket.connects.length then
        some { socket with connects := socket.connects.eraseIdx call }
      else none
  | .send message => if 0 < socket.handles then some (socket.send message) else none
  | .pollSend call => socket.pollSend call
  | .cancelSend call =>
      if call < socket.sends.length then
        some { socket with sends := socket.sends.eraseIdx call }
      else none
  | .recv =>
      if 0 < socket.handles then some { socket with recvs := socket.recvs ++ [0] } else none
  | .pollRecv call => (socket.pollRecv call).map Prod.fst
  | .cancelRecv call =>
      if call < socket.recvs.length then
        some { socket with recvs := socket.recvs.eraseIdx call }
      else none
  | .readLoop index =>
      match socket.connections[index]? with
      | some connection => socket.readLoop index connection
      | none => none
  | .writeLoop index =>
      match socket.connections[index]? with
      | some connection => socket.writeLoop index connection
      | none => none
  | .keepAliveRead index stream =>
      match socket.connections[index]? with
      | some connection =>
          socket.keepAlive index connection (connection.ws.readLoop connection.held stream)
      | none => none
  | .keepAliveWrite index timeout sink =>
      match socket.connections[index]? with
      | some connection =>
          socket.keepAlive index connection
            (connection.ws.writeLoop connection.held timeout sink)
      | none => none

end ReconnectingWebSocket
end WebSocket
end Fpd
