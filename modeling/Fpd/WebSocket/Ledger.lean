import Fpd.WebSocket.Frames
import Mathlib.Tactic.Abel

namespace Fpd
namespace WebSocket

open Async

/-!
# Ledgers of outgoing messages

A message that `send` has accepted waits in the outgoing channel and passes a
write loop, which puts it into the channel of its keepalive or, when that one
is closed, into the retry channel.  On this way no message is lost or doubled.

What becomes of a message in the keepalive is counted in more than one way.  A
ledger says which events settle a message and which messages a keepalive still
keeps, and its balance is kept by every step as soon as it is kept by the polls
of the keepalive's write task.
-/

def WriteLoop.hand : WriteLoop -> List Message
  | .sending message _ _ => [message]
  | .requeuing message => [message]
  | _ => []

namespace ReconnectingWebSocket

/-- The messages for which `send` has returned `Ok`. -/
def acceptedMessages (log : List Event) : Multiset Message :=
  ↑(log.filterMap fun
    | .accepted message => some message
    | _ => none)

/-- The event tells what a write task does with a message. -/
def atSink : Event -> Bool
  | .keepAlive _ (.handed _) => true
  | .keepAlive _ (.written _) => true
  | .keepAlive _ (.writeFailed _) => true
  | _ => false

structure Ledger where
  settled : List Event -> Multiset Message
  kept : WebSocketKeepAlive -> Multiset Message
  settled_append : forall log events, settled (log ++ events) = settled log + settled events
  settled_quiet : forall event, atSink event = false -> settled [event] = 0
  kept_new : kept .newWithPingTimeout = 0
  kept_put : forall (ws : WebSocketKeepAlive) (outgoing : Channel Message 1) (message : Message),
    ws.writeTask.running = true -> outgoing.queue = ws.outgoing.queue ++ [message] ->
      kept { ws with outgoing := outgoing } = kept ws + {message}
  kept_same : forall ws after : WebSocketKeepAlive, after.outgoing = ws.outgoing ->
    after.writeTask = ws.writeTask -> kept after = kept ws

variable {socket after : ReconnectingWebSocket} {maxRetries : Nat} {action : Action}
  {index : Nat} {connection replaced : Connection} {ledger : Ledger}

namespace Ledger

/-- The messages of a connection that are not settled. -/
def waiting (ledger : Ledger) (connection : Connection) : Multiset Message :=
  ↑connection.writeLoop.hand + ledger.kept connection.ws

/-- The messages that no connection has, settled ones included. -/
def outside (ledger : Ledger) (socket : ReconnectingWebSocket) : Multiset Message :=
  ↑socket.outgoing.queue + ↑socket.retry.queue + ledger.settled socket.log

/-- Every accepted message is in one place, as often as it was accepted. -/
def Balanced (ledger : Ledger) (socket : ReconnectingWebSocket) : Prop :=
  acceptedMessages socket.log =
    ledger.outside socket + (socket.connections.map ledger.waiting).sum

/-- Only an event at a sink settles a message. -/
@[simp] theorem settled_concat (log : List Event) (event : Event) :
    ledger.settled (log ++ [event]) =
      if atSink event then ledger.settled log + ledger.settled [event] else ledger.settled log := by
  rw [ledger.settled_append]
  cases quiet : atSink event with
  | true => rfl
  | false => rw [ledger.settled_quiet event quiet, add_zero, if_neg Bool.false_ne_true]

namespace Balanced

theorem of_replaces (balanced : ledger.Balanced socket)
    (replaces : Replaces socket after index connection replaced)
    (sent : acceptedMessages after.log = acceptedMessages socket.log)
    (exchange : ledger.outside after + ledger.waiting replaced =
      ledger.outside socket + ledger.waiting connection) : ledger.Balanced after := by
  unfold Balanced at balanced ⊢
  rw [sent, balanced, replaces.connections]
  exact (sum_map_set_exchange replaces.present exchange).symm

theorem of_same (balanced : ledger.Balanced socket)
    (connections : after.connections = socket.connections)
    (sent : acceptedMessages after.log = acceptedMessages socket.log)
    (same : ledger.outside after = ledger.outside socket) : ledger.Balanced after := by
  unfold Balanced at balanced ⊢
  rw [sent, same, connections]
  exact balanced

theorem of_appended (balanced : ledger.Balanced socket)
    (connections : after.connections = socket.connections ++ [Connection.new])
    (sent : acceptedMessages after.log = acceptedMessages socket.log)
    (same : ledger.outside after = ledger.outside socket) : ledger.Balanced after := by
  have empty : ledger.waiting .new = 0 := (congrArg _ ledger.kept_new).trans (add_zero _)
  unfold Balanced at balanced ⊢
  rw [sent, same, connections, List.map_append, List.sum_append, List.map_singleton,
    List.sum_singleton, empty, add_zero]
  exact balanced

end Balanced
end Ledger

theorem coe_cons (message : Message) (queue : List Message) :
    (↑(message :: queue) : Multiset Message) = {message} + ↑queue := by
  rw [← Multiset.cons_coe, Multiset.singleton_add]

theorem coe_snoc (queue : List Message) (message : Message) :
    (↑(queue ++ [message]) : Multiset Message) = ↑queue + {message} := by
  rw [← Multiset.coe_add, Multiset.coe_singleton]

theorem acceptedMessages_append (log events : List Event) :
    acceptedMessages (log ++ events) = acceptedMessages log + acceptedMessages events := by
  simp only [acceptedMessages, List.filterMap_append, Multiset.coe_add]

theorem acceptedMessages_keepAlive (log : List Event) (events : List KeepAliveEvent) :
    acceptedMessages (log ++ events.map (.keepAlive index)) = acceptedMessages log := by
  rw [acceptedMessages_append]
  simp [acceptedMessages]

/-! ## What one step exchanges -/

/-- A write loop passes messages on and neither loses nor makes one. -/
theorem WriteLoopStep.exchange (effect : WriteLoopStep socket index connection replaced after) :
    ledger.outside after + ledger.waiting replaced =
      ledger.outside socket + ledger.waiting connection := by
  cases effect with
  | retried message retry disconnectSeen closeSeen rests taken =>
      simp only [Ledger.outside, Ledger.waiting, rests, taken, WriteLoop.hand, setConnection,
        coe_cons, Multiset.coe_nil]
      abel
  | took message outgoing disconnectSeen closeSeen rests noRetry taken =>
      simp only [Ledger.outside, Ledger.waiting, rests, taken, WriteLoop.hand, setConnection,
        coe_cons, Multiset.coe_nil]
      abel
  | noticed disconnectSeen closeSeen disconnectNow closeNow rests =>
      simp only [Ledger.outside, Ledger.waiting, rests, WriteLoop.hand, setConnection]
  | left disconnectSeen closeSeen rests =>
      cases alive : socket.innerAlive <;>
        simp [Ledger.outside, Ledger.waiting, rests, WriteLoop.hand, leaveWriteLoop, setConnection]
  | sent message outgoing disconnectSeen closeSeen rests running appended =>
      simp only [Ledger.outside, Ledger.waiting, rests, WriteLoop.hand, setConnection,
        ledger.kept_put connection.ws outgoing message running appended, coe_cons,
        Multiset.coe_nil]
      abel
  | refused message disconnectSeen closeSeen rests =>
      simp only [Ledger.outside, Ledger.waiting, rests, WriteLoop.hand, setConnection]
  | requeued message retry rests appended =>
      cases alive : socket.innerAlive <;>
        simp only [Ledger.outside, Ledger.waiting, rests, appended, WriteLoop.hand, leaveWriteLoop,
          setConnection, coe_cons, coe_snoc, Multiset.coe_nil, if_true, Bool.false_eq_true,
          if_false] <;>
        abel
  | published rests =>
      simp only [Ledger.outside, Ledger.waiting, rests, WriteLoop.hand, setConnection]

/-- A read loop does not touch outgoing messages. -/
theorem ReadLoopStep.exchange (effect : ReadLoopStep socket index connection replaced after)
    (present : socket.connections[index]? = some connection) :
    ledger.outside after + ledger.waiting replaced =
        ledger.outside socket + ledger.waiting connection ∧
      acceptedMessages after.log = acceptedMessages socket.log := by
  have frame := (effect.replaces present).2
  have same : ledger.waiting replaced = ledger.waiting connection := by
    simp only [Ledger.waiting, frame.writeLoop,
      ledger.kept_same connection.ws replaced.ws frame.outgoing frame.writeTask]
  have quiet : ledger.outside after = ledger.outside socket ∧
      acceptedMessages after.log = acceptedMessages socket.log := by
    cases effect <;> simp [Ledger.outside, leaveReadLoop, acceptedMessages, atSink]
  exact ⟨by rw [quiet.1, same], quiet.2⟩

/-- The read task of a keepalive does not touch outgoing messages. -/
theorem keepAliveRead_exchange {ws : WebSocketKeepAlive} {held : Bool}
    {events : List KeepAliveEvent} {stream : Poll (Option Item)}
    (effect : connection.ws.ReadStep held stream ws events) :
    ledger.settled (events.map (.keepAlive index)) + ledger.kept ws =
      ledger.kept connection.ws := by
  have empty : ledger.settled [] = 0 := by
    have both := ledger.settled_append [] []
    rw [List.append_nil] at both
    exact left_eq_add.mp both
  have same : ledger.kept ws = ledger.kept connection.ws := by
    apply ledger.kept_same
    · cases effect <;> rfl
    · cases effect <;> rfl
  have quiet : ledger.settled (events.map (.keepAlive index)) = 0 := by
    cases effect <;> first | exact ledger.settled_quiet _ rfl | exact empty
  rw [quiet, same, zero_add]

theorem ConnectStep.quiet (effect : ConnectStep maxRetries socket action after) :
    ledger.outside after = ledger.outside socket ∧
      acceptedMessages after.log = acceptedMessages socket.log := by
  cases effect <;>
    simp [-List.append_assoc, Ledger.outside, initiated, acceptedMessages, atSink]

theorem UserStep.balanced (effect : UserStep socket action after)
    (balanced : ledger.Balanced socket) : ledger.Balanced after := by
  have connections := effect.frame.connections
  cases effect with
  | accepted call message outgoing called appended =>
      have more : acceptedMessages (socket.log ++ [.accepted message]) =
          acceptedMessages socket.log + {message} := acceptedMessages_append _ _
      have unsettled : ledger.settled (socket.log ++ [.accepted message]) =
          ledger.settled socket.log := ledger.settled_concat _ _
      unfold Ledger.Balanced at balanced ⊢
      simp only [Ledger.outside, emit, more, unsettled, appended, balanced, coe_snoc]
      abel
  | _ =>
      exact balanced.of_same connections (by simp [endRecv, acceptedMessages])
        (by simp [-List.append_assoc, Ledger.outside, endRecv, atSink])

/-- A poll of a keepalive task that keeps the balance of its own connection
keeps the whole one. -/
theorem Ledger.Balanced.keepAlive {ws : WebSocketKeepAlive} {events : List KeepAliveEvent}
    (balanced : ledger.Balanced socket) (present : socket.connections[index]? = some connection)
    (exchange : ledger.settled (events.map (.keepAlive index)) + ledger.kept ws =
      ledger.kept connection.ws) :
    ledger.Balanced ((socket.setConnection index { connection with ws := ws }).emit
      (events.map (.keepAlive index))) := by
  apply balanced.of_replaces (keepAlive_replaces present) (acceptedMessages_keepAlive _ _)
  simp only [Ledger.outside, Ledger.waiting, emit, setConnection, ledger.settled_append, ← exchange]
  abel

/-- A step keeps the balance if its poll of a write task does. -/
theorem Step.balanced (effect : Step maxRetries socket action after)
    (exchange : forall index timeout sink connection ws events,
      action = .keepAliveWrite index timeout sink -> socket.connections[index]? = some connection ->
        connection.ws.WriteStep connection.held sink ws events ->
          ledger.settled (events.map (.keepAlive index)) + ledger.kept ws =
            ledger.kept connection.ws)
    (balanced : ledger.Balanced socket) : ledger.Balanced after := by
  cases effect with
  | user effect => exact effect.balanced balanced
  | connect effect =>
      have quiet := @effect.quiet _ _ _ _ ledger
      cases effect.table with
      | same connections => exact balanced.of_same connections quiet.2 quiet.1
      | spawned connections => exact balanced.of_appended connections quiet.2 quiet.1
      | retrying _ _ _ _ rests replaces =>
          exact balanced.of_replaces replaces quiet.2 (by rw [quiet.1]; rfl)
      | gaveUp _ _ _ _ rests _ replaces =>
          exact balanced.of_replaces replaces quiet.2 (by rw [quiet.1]; rfl)
      | succeeded index connection _ _ replaces initiated =>
          subst initiated
          exact (balanced.of_replaces replaces rfl rfl).of_appended rfl quiet.2 quiet.1
  | readLoop present effect =>
      have exchange := @effect.exchange _ _ _ _ _ ledger present
      exact balanced.of_replaces (effect.replaces present).1 exchange.2 exchange.1
  | writeLoop present effect =>
      exact balanced.of_replaces (effect.replaces present).1 (by rw [effect.log]) effect.exchange
  | keepAliveRead present effect =>
      exact balanced.keepAlive present (keepAliveRead_exchange effect)
  | keepAliveWrite present effect =>
      exact balanced.keepAlive present (exchange _ _ _ _ _ _ rfl present effect)

end ReconnectingWebSocket
end WebSocket
end Fpd
