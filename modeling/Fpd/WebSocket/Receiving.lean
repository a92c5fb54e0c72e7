import Fpd.Async.Traffic
import Fpd.WebSocket.Chain
import Fpd.WebSocket.Incoming

namespace Fpd
namespace WebSocket
namespace ReconnectingWebSocket

open Async

/-!
# What calls of `recv` receive

The shared incoming channel keeps the order, and with a single chain only the
read loop of the newest connection puts items into it.  So the channel carries
the traffic of the connections one after the other, and what has left it is
one beginning of each connection's items, in the order of the connections.
-/

variable {socket after : ReconnectingWebSocket} {maxRetries : Nat} {action : Action}
  {index : Nat} {connection replaced : Connection}

/-- What the read loops have forwarded, connection by connection. -/
def forwardedByConnection (socket : ReconnectingWebSocket) : List Item :=
  (List.range socket.connections.length).flatMap fun index => forwardedFrom index socket.log

/-- The shared channel holds what was forwarded and not delivered, calls of
`recv` hand out what is delivered but for the resets, and the connections
take their turns. -/
structure Queued (socket : ReconnectingWebSocket) : Prop where
  fifo : forwarded socket.log = delivered socket.log ++ socket.incoming.queue
  handed : received socket.log = (delivered socket.log).filter fun item => !item.isReset
  turns : forwarded socket.log = forwardedByConnection socket

namespace Queued

theorem of_still (queued : Queued socket) (still : Still socket after)
    (turns : forwardedByConnection after = forwardedByConnection socket) : Queued after := by
  refine ⟨?_, ?_, ?_⟩
  · rw [still.forwarded, still.delivered, still.incoming]
    exact queued.fifo
  · rw [still.received, still.delivered]
    exact queued.handed
  · rw [still.forwarded, turns]
    exact queued.turns

theorem of_delivers {item : Item} (queued : Queued socket) (delivers : Delivers socket after item)
    (turns : forwardedByConnection after = forwardedByConnection socket) : Queued after := by
  refine ⟨?_, ?_, ?_⟩
  · rw [delivers.forwarded, delivers.delivered, queued.fifo, delivers.head, List.append_assoc,
      List.singleton_append]
  · rw [delivers.received, delivers.delivered, queued.handed, List.filter_append]
  · rw [delivers.forwarded, turns]
    exact queued.turns

/-- A read loop puts an item into the shared channel. -/
theorem of_forwarded {item : Item} (queued : Queued socket)
    (log : after.log = socket.log ++ [.forwarded index item])
    (sent : after.incoming.queue = socket.incoming.queue ++ [item])
    (turns : forwardedByConnection after = forwardedByConnection socket ++ [item]) :
    Queued after := by
  have more : forwarded after.log = forwarded socket.log ++ [item] := by
    rw [log, forwarded_append]
    rfl
  have taken : delivered after.log = delivered socket.log := by
    rw [log, delivered_append]
    exact List.append_nil _
  have out : received after.log = received socket.log := by
    rw [log, received_append]
    exact List.append_nil _
  refine ⟨?_, ?_, ?_⟩
  · rw [more, taken, sent, queued.fifo, List.append_assoc]
  · rw [out, taken, queued.handed]
  · rw [more, turns, queued.turns]

end Queued

theorem forwardedByConnection_same
    (connections : after.connections.length = socket.connections.length)
    (same : forall index, forwardedFrom index after.log = forwardedFrom index socket.log) :
    forwardedByConnection after = forwardedByConnection socket := by
  simp only [forwardedByConnection, connections, same]

theorem Queued.of_keepAlive {ws : WebSocketKeepAlive} (queued : Queued socket)
    (events : List KeepAliveEvent) :
    Queued ((socket.setConnection index { connection with ws := ws }).emit
      (events.map (.keepAlive index))) := by
  have silent : forwarded (events.map (.keepAlive index)) = [] ∧
      delivered (events.map (.keepAlive index)) = [] ∧
      received (events.map (.keepAlive index)) = [] := by
    simp [forwarded, delivered, received]
  have turns : forwardedByConnection ((socket.setConnection index { connection with ws := ws }).emit
      (events.map (.keepAlive index))) = forwardedByConnection socket := by
    refine forwardedByConnection_same List.length_set fun there => ?_
    rw [emit_log, forwardedFrom_append, forwardedFrom_keepAlive]
    exact List.append_nil _
  refine ⟨?_, ?_, ?_⟩
  · simpa [silent] using queued.fifo
  · simpa [silent] using queued.handed
  · rw [turns, ← queued.turns]
    simp [silent]

/-- A connection that was just made has forwarded nothing. -/
theorem forwardedByConnection_appended (pipelines : Pipelines socket)
    (connections : after.connections = socket.connections ++ [Connection.new])
    (same : forall index, forwardedFrom index after.log = forwardedFrom index socket.log) :
    forwardedByConnection after = forwardedByConnection socket := by
  simp only [forwardedByConnection, connections, same, List.length_append, List.length_singleton,
    List.range_succ, List.flatMap_append, List.flatMap_singleton,
    (pipelines.fresh _ (Nat.le_refl _)).1, List.append_nil]

/-- What the newest connection forwards comes last. -/
theorem forwardedByConnection_forwarded {item : Item}
    (newest : index + 1 = socket.connections.length)
    (connections : after.connections.length = socket.connections.length)
    (log : after.log = socket.log ++ [.forwarded index item]) :
    forwardedByConnection after = forwardedByConnection socket ++ [item] := by
  have own : forwardedFrom index after.log = forwardedFrom index socket.log ++ [item] := by
    rw [log, forwardedFrom_append]
    simp [forwardedFrom, forwardedItem]
  have older : forall there, there ∈ List.range index ->
      forwardedFrom there after.log = forwardedFrom there socket.log := by
    intro there below
    have different : there ≠ index := Nat.ne_of_lt (List.mem_range.mp below)
    rw [log, forwardedFrom_append, forwardedFrom_forwarded_there different, List.append_nil]
  simp only [forwardedByConnection, connections, ← newest, List.range_succ, List.flatMap_append,
    List.flatMap_singleton, own, List.append_assoc]
  rw [List.flatMap_congr older]

theorem Step.queued (effect : Step maxRetries socket action after) (watched : CloseWatched socket)
    (chain : SingleChain socket) (pipelines : Pipelines socket) (queued : Queued socket) :
    Queued after := by
  cases effect with
  | user effect =>
      have connections := congrArg List.length effect.frame.connections
      rcases effect.still_or_delivers watched with still | ⟨item, delivers⟩
      · exact queued.of_still still (forwardedByConnection_same connections still.forwardedFrom)
      · exact queued.of_delivers delivers
          (forwardedByConnection_same connections delivers.forwardedFrom)
  | connect effect =>
      have still := effect.still
      refine queued.of_still still ?_
      cases effect.table with
      | same connections =>
          exact forwardedByConnection_same (congrArg List.length connections) still.forwardedFrom
      | spawned connections =>
          exact forwardedByConnection_appended pipelines connections still.forwardedFrom
      | retrying _ _ _ _ _ replaces =>
          exact forwardedByConnection_same replaces.length still.forwardedFrom
      | gaveUp _ _ _ _ _ _ replaces =>
          exact forwardedByConnection_same replaces.length still.forwardedFrom
      | succeeded index connection _ rests replaces initiated =>
          subst initiated
          rw [← @forwardedByConnection_same socket _ replaces.length fun _ => rfl]
          refine forwardedByConnection_appended (pipelines.of_replaces replaces
            (fun own => own.of_left rfl rfl) fun _ _ => ⟨rfl, rfl⟩) rfl ?_
          exact still.forwardedFrom
  | readLoop present effect =>
      have replaces := effect.replaces present
      rcases effect.moves with still | ⟨item, log, sent⟩
      · exact queued.of_still still
          (forwardedByConnection_same replaces.1.length still.forwardedFrom)
      · have newest := chain.newest present (unfinished_of_unpublished replaces.2.unpublished)
        exact queued.of_forwarded log sent
          (forwardedByConnection_forwarded newest replaces.1.length log)
  | writeLoop present effect =>
      have still := effect.still
      exact queued.of_still still
        (forwardedByConnection_same (effect.replaces present).1.length still.forwardedFrom)
  | keepAliveRead _ _ => exact queued.of_keepAlive _
  | keepAliveWrite _ _ => exact queued.of_keepAlive _

theorem queued_of_reaches (reached : Reaches (step maxRetries) OneConnect build socket) :
    Queued socket := by
  refine reached.invariant ⟨rfl, rfl, rfl⟩ fun before action after earlier queued _ taken => ?_
  exact (step_spec taken).queued (closeWatched_of_reaches earlier) (singleChain_of_reaches earlier)
    (pipelines_of_reaches earlier) queued

/-- Of the items that arrive on a connection, those before its first Close
frame. -/
def beforeClose (index : Nat) (log : List Event) : List Item :=
  (arrived index log).takeWhile fun item => !item.isClose

theorem forwardedFrom_beforeClose (pipelines : Pipelines socket) (index : Nat) :
    forwardedFrom index socket.log <+: beforeClose index socket.log := by
  cases present : socket.connections[index]? with
  | none =>
      rw [(pipelines.fresh index (List.getElem?_eq_none_iff.mp present)).1]
      exact List.nil_prefix
  | some connection =>
      have pipeline := pipelines.each index connection present
      refine prefix_takeWhile pipeline.order fun item member => ?_
      rw [pipeline.data item (List.mem_append_left _ member), Bool.not_false]

/-- What calls of `recv` hand out is, but for the resets, one beginning of
each connection's items after the other, in the order of the connections. -/
theorem received_in_order (maxRetries : Nat) (socket : ReconnectingWebSocket)
    (reached : Reaches (step maxRetries) OneConnect build socket) :
    Exists fun pieces : List (List Item) =>
      List.Forall₂ (fun piece index => piece <+: beforeClose index socket.log) pieces
        (List.range socket.connections.length) ∧
      received socket.log = pieces.flatten.filter fun item => !item.isReset := by
  have queued := queued_of_reaches reached
  have pipelines := pipelines_of_reaches reached
  have beginning : delivered socket.log <+:
      ((List.range socket.connections.length).map
        fun index => forwardedFrom index socket.log).flatten := by
    rw [← List.flatMap_def]
    exact ⟨socket.incoming.queue, queued.fifo.symm.trans queued.turns⟩
  rcases exists_pieces beginning with ⟨pieces, fitting, whole⟩
  refine ⟨pieces, ?_, by rw [whole, queued.handed]⟩
  rw [List.forall₂_map_right_iff] at fitting
  exact fitting.imp fun piece index short => short.trans (forwardedFrom_beforeClose pipelines index)

/-- The first connection yields a message and ends, and the one after it yields
another message.  Both have gone all the way. -/
def afterHello : ReconnectingWebSocket :=
  (run (step 10) OneConnect build [.connect, .attempted (.user 0) (.ok ()), .readLoop 0,
    .readLoop 0, .keepAliveRead 0 (.ready (some (.ok (.text "hello")))), .keepAliveRead 0 .pending,
    .readLoop 0, .readLoop 0, .recv, .pollRecv 0, .keepAliveRead 0 (.ready none),
    .keepAliveRead 0 .pending, .readLoop 0, .readLoop 0, .attempted (.readLoop 0) (.ok ()),
    .readLoop 1, .readLoop 1, .keepAliveRead 1 (.ready (some (.ok (.text "again")))),
    .keepAliveRead 1 .pending, .readLoop 1, .readLoop 1, .recv, .pollRecv 0]).get rfl

theorem received_in_order_hello : Exists fun pieces : List (List Item) =>
    List.Forall₂ (fun piece index => piece <+: beforeClose index afterHello.log) pieces [0, 1] ∧
      [.ok (.text "hello"), .ok (.text "again")] =
        pieces.flatten.filter fun item => !item.isReset :=
  received_in_order 10 afterHello (reaches_get_run _ _)

end ReconnectingWebSocket
end WebSocket
end Fpd
