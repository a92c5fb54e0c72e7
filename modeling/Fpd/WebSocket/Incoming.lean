import Fpd.WebSocket.Closing

namespace Fpd
namespace WebSocket

open Async

/-!
# The way of incoming items

An item that a stream yields passes the keepalive's read task, the
keepalive's channel, the read loop and the shared incoming channel.  Each hand
holds one item and each channel keeps the order.  On every connection, what
the read loop has forwarded and what is still under way make up a prefix of
what has arrived, and no Close frame gets past the read loop.
-/

/-- The item that the task has received and not passed on. -/
def KeepAliveRead.hand : KeepAliveRead -> List Item
  | .forwarding item _ => [item]
  | _ => []

/-- The task still takes items from the stream. -/
def KeepAliveRead.listening : KeepAliveRead -> Bool
  | .selecting _ => true
  | .forwarding _ _ => true
  | _ => false

def ReadLoop.hand : ReadLoop -> List Item
  | .forwarding item _ _ => [item]
  | _ => []

/-- The items between the stream and the shared channel, oldest first. -/
def Connection.transit (connection : Connection) : List Item :=
  connection.readLoop.hand ++ connection.ws.incoming.queue ++ connection.ws.readTask.hand

namespace ReconnectingWebSocket

/-! ## What the log says about items -/

def streamedItem (index : Nat) : Event -> Option Item
  | .keepAlive there (.streamed item) => if there = index then some item else none
  | _ => none

def forwardedItem (index : Nat) : Event -> Option Item
  | .forwarded there item => if there = index then some item else none
  | _ => none

/-- What the stream of a connection has yielded. -/
def streamed (index : Nat) (log : List Event) : List Item :=
  log.filterMap (streamedItem index)

/-- What has arrived on a connection: pings and pongs are swallowed. -/
def arrived (index : Nat) (log : List Event) : List Item :=
  (streamed index log).filter fun item => !item.isKeepAlive

/-- What the read loop of a connection has put into the shared channel. -/
def forwardedFrom (index : Nat) (log : List Event) : List Item :=
  log.filterMap (forwardedItem index)

/-- What any read loop has put into the shared channel. -/
def forwarded (log : List Event) : List Item :=
  log.filterMap fun
    | .forwarded _ item => some item
    | _ => none

/-- What has left the shared channel. -/
def delivered (log : List Event) : List Item :=
  log.filterMap fun
    | .delivered item => some item
    | _ => none

/-- What calls of `recv` have handed out as `Some`. -/
def received (log : List Event) : List Item :=
  log.filterMap fun
    | .received result => result
    | _ => none

variable {socket after : ReconnectingWebSocket} {maxRetries : Nat} {action : Action}
  {index there : Nat} {connection replaced : Connection} {log : List Event}

@[simp] theorem arrived_append (events : List Event) :
    arrived index (log ++ events) = arrived index log ++ arrived index events := by
  simp only [arrived, streamed, List.filterMap_append, List.filter_append]

@[simp] theorem forwardedFrom_append (events : List Event) :
    forwardedFrom index (log ++ events) = forwardedFrom index log ++ forwardedFrom index events :=
  List.filterMap_append

@[simp] theorem forwarded_append (events : List Event) :
    forwarded (log ++ events) = forwarded log ++ forwarded events :=
  List.filterMap_append

@[simp] theorem delivered_append (events : List Event) :
    delivered (log ++ events) = delivered log ++ delivered events :=
  List.filterMap_append

@[simp] theorem received_append (events : List Event) :
    received (log ++ events) = received log ++ received events :=
  List.filterMap_append

/-- The events of one connection's keepalive say nothing about another's. -/
theorem arrived_keepAlive_there (different : there ≠ index) (events : List KeepAliveEvent) :
    arrived there (events.map (.keepAlive index)) = [] := by
  simp only [arrived, streamed, List.filter_eq_nil_iff, List.mem_filterMap, List.mem_map]
  rintro item ⟨_, ⟨event, _, rfl⟩, shown⟩
  cases event <;> simp [streamedItem, Ne.symm different] at shown

theorem forwardedFrom_keepAlive (there : Nat) (events : List KeepAliveEvent) :
    forwardedFrom there (events.map (.keepAlive index)) = [] := by
  simp [forwardedFrom, forwardedItem]

theorem forwardedFrom_forwarded_there (different : there ≠ index) (item : Item) :
    forwardedFrom there [.forwarded index item] = [] := by
  simp [forwardedFrom, forwardedItem, Ne.symm different]

/-! ## One connection -/

/-- The state of the way of one connection: what was forwarded and what has
arrived, given as lists. -/
structure Pipeline (forwarded arrived : List Item) (connection : Connection) : Prop where
  data : forall item, item ∈ forwarded ++ connection.readLoop.hand -> item.isClose = false
  order : forwarded <+: arrived
  inside : connection.readLoop.looping = true -> forwarded ++ connection.transit <+: arrived
  whole : connection.readLoop.looping = true -> connection.ws.readTask.listening = true ->
    forwarded ++ connection.transit = arrived

namespace Pipeline

variable {forwarded arrived : List Item}

/-- Nothing moves on the way of the connection. -/
theorem of_same (pipeline : Pipeline forwarded arrived connection)
    (hand : replaced.readLoop.hand = connection.readLoop.hand)
    (looping : replaced.readLoop.looping = true -> connection.readLoop.looping = true)
    (incoming : replaced.ws.incoming = connection.ws.incoming)
    (readTask : replaced.ws.readTask = connection.ws.readTask) :
    Pipeline forwarded arrived replaced := by
  have transit : replaced.transit = connection.transit := by
    simp only [Connection.transit, hand, incoming, readTask]
  exact ⟨hand ▸ pipeline.data, pipeline.order,
    fun inside => transit ▸ pipeline.inside (looping inside),
    fun inside listening => transit ▸ pipeline.whole (looping inside) (readTask ▸ listening)⟩

/-- The read loop has left its loop, and what it held is lost. -/
theorem of_left (pipeline : Pipeline forwarded arrived connection)
    (left : replaced.readLoop.looping = false) (empty : replaced.readLoop.hand = []) :
    Pipeline forwarded arrived replaced := by
  refine ⟨fun item member => ?_, pipeline.order, ?_, ?_⟩
  · rw [empty, List.append_nil] at member
    exact pipeline.data item (List.mem_append_left _ member)
  · intro inside
    rw [left] at inside
    cases inside
  · intro inside
    rw [left] at inside
    cases inside

end Pipeline

theorem ReadLoopStep.pipeline (effect : ReadLoopStep socket index connection replaced after)
    (pipeline : Pipeline (forwardedFrom index socket.log) (arrived index socket.log) connection) :
    Pipeline (forwardedFrom index after.log) (arrived index after.log) replaced := by
  cases effect with
  | spawned rests =>
      refine pipeline.of_same ?_ (fun _ => by rw [rests]; rfl) rfl rfl
      rw [rests]
      cases alive : socket.innerAlive <;> rfl
  | started rests =>
      exact pipeline.of_same (by rw [rests]; rfl) (fun _ => by rw [rests]; rfl) rfl rfl
  | noticed _ _ _ _ rests =>
      exact pipeline.of_same (by rw [rests]; rfl) (fun _ => by rw [rests]; rfl) rfl rfl
  | took item incoming disconnectSeen closeSeen rests head kind =>
      have inside : connection.readLoop.looping = true := by rw [rests]; rfl
      have transit : connection.transit =
          item :: (incoming.queue ++ connection.ws.readTask.hand) := by
        simp only [Connection.transit, rests, ReadLoop.hand, head, List.nil_append,
          List.cons_append]
      refine ⟨fun found member => ?_, pipeline.order, fun _ => ?_, fun _ listening => ?_⟩
      · rcases List.mem_append.mp member with old | new
        · exact pipeline.data found (List.mem_append_left _ old)
        · rw [List.mem_singleton.mp new]
          exact kind
      · have before := pipeline.inside inside
        rw [transit] at before
        exact before
      · have before := pipeline.whole inside listening
        rw [transit] at before
        exact before
  | forwarded item incoming disconnectSeen closeSeen rests alive sent =>
      have inside : connection.readLoop.looping = true := by rw [rests]; rfl
      have transit : connection.transit =
          [item] ++ (connection.ws.incoming.queue ++ connection.ws.readTask.hand) := by
        simp only [Connection.transit, rests, ReadLoop.hand, List.append_assoc]
      have more : forwardedFrom index (socket.log ++ [.forwarded index item]) =
          forwardedFrom index socket.log ++ [item] := by
        simp [forwardedFrom, forwardedItem]
      have same : arrived index (socket.log ++ [.forwarded index item]) =
          arrived index socket.log := by
        rw [arrived_append]
        exact List.append_nil _
      have before := pipeline.inside inside
      rw [transit, ← List.append_assoc] at before
      simp only [emit_log, setConnection_log, more, same]
      refine ⟨fun found member => ?_, (List.prefix_append _ _).trans before, fun _ => before,
        fun _ listening => ?_⟩
      · simp only [ReadLoop.hand, List.append_nil] at member
        exact pipeline.data found (by rw [rests]; exact member)
      · have whole := pipeline.whole inside listening
        rw [transit, ← List.append_assoc] at whole
        exact whole
  | left ws shouldReconnect exit =>
      refine pipeline.of_left ?_ ?_
      · cases alive : socket.innerAlive <;> rfl
      · cases alive : socket.innerAlive <;> rfl
  | reconnecting rests =>
      have same : arrived index (socket.log ++ [.connecting]) = arrived index socket.log := by
        rw [arrived_append]
        exact List.append_nil _
      have quiet : forwardedFrom index (socket.log ++ [.connecting]) =
          forwardedFrom index socket.log := by
        rw [forwardedFrom_append]
        exact List.append_nil _
      simp only [emit_log, setConnection_log, same, quiet]
      exact pipeline.of_left rfl rfl
  | ended rests => exact pipeline.of_left rfl rfl

/-- A poll of the keepalive's read task, with the state around it left out. -/
theorem keepAliveRead_pipeline {ws : WebSocketKeepAlive} {held : Bool}
    {stream : Poll (Option Item)}
    {events : List KeepAliveEvent} {forwarded : List Item}
    (effect : connection.ws.ReadStep held stream ws events)
    (pipeline : Pipeline forwarded (arrived index log) connection) :
    Pipeline forwarded (arrived index (log ++ events.map (.keepAlive index)))
      { connection with ws := ws } := by
  rw [arrived_append]
  -- A task that stops listening drops at most the item in its hand.
  have stopped (empty : ws.readTask.hand = []) (deaf : ws.readTask.listening = false)
      (incoming : ws.incoming = connection.ws.incoming)
      (silent : arrived index (events.map (.keepAlive index)) = []) :
      Pipeline forwarded (arrived index log ++ arrived index (events.map (.keepAlive index)))
        { connection with ws := ws } := by
    rw [silent, List.append_nil]
    refine ⟨pipeline.data, pipeline.order, fun inside => ?_, fun _ listening => ?_⟩
    · refine List.IsPrefix.trans ?_ (pipeline.inside inside)
      simp only [Connection.transit, empty, incoming, List.append_nil, ← List.append_assoc]
      exact List.prefix_append _ _
    · simp only [deaf, Bool.false_eq_true] at listening
  cases effect with
  | swallowed item seen rests control =>
      have silent : arrived index ([.streamed item].map (.keepAlive index)) = [] := by
        simp [arrived, streamed, streamedItem, control]
      rw [silent, List.append_nil]
      exact pipeline
  | received item seen rests data =>
      have more : arrived index ([.streamed item].map (.keepAlive index)) = [item] := by
        simp [arrived, streamed, streamedItem, data]
      have transit : Connection.transit { connection with
          ws := { connection.ws with readTask := .forwarding item seen } } =
          connection.transit ++ [item] := by
        simp only [Connection.transit, rests, KeepAliveRead.hand, List.append_nil]
      have whole (inside : connection.readLoop.looping = true) :
          forwarded ++ Connection.transit { connection with
            ws := { connection.ws with readTask := .forwarding item seen } } =
          arrived index log ++ [item] := by
        rw [transit, ← pipeline.whole inside (by rw [rests]; rfl), List.append_assoc]
      rw [more]
      exact ⟨pipeline.data, pipeline.order.trans (List.prefix_append _ _),
        fun inside => ⟨[], (List.append_nil _).trans (whole inside)⟩, fun inside _ => whole inside⟩
  | ended seen rests => exact stopped rfl rfl rfl rfl
  | stopped seen rests => exact stopped rfl rfl rfl rfl
  | forwarded item seen incoming rests sent =>
      have transit : Connection.transit { connection with
          ws := { connection.ws with incoming := incoming, readTask := .selecting seen } } =
          connection.transit := by
        simp only [Connection.transit, rests, KeepAliveRead.hand, sent, List.append_assoc,
          List.append_nil]
      have silent : arrived index (([] : List KeepAliveEvent).map (.keepAlive index)) = [] := rfl
      rw [silent, List.append_nil]
      refine ⟨pipeline.data, pipeline.order, fun inside => ?_, fun inside _ => ?_⟩
      · rw [transit]
        exact pipeline.inside inside
      · rw [transit]
        exact pipeline.whole inside (by rw [rests]; rfl)
  | abandoned item seen rests => exact stopped rfl rfl rfl rfl
  | published rests => exact stopped rfl rfl rfl rfl

/-- A poll of the keepalive's write task moves no incoming item. -/
theorem keepAliveWrite_pipeline {ws : WebSocketKeepAlive} {held : Bool}
    {sink : Poll (Except Error Unit)} {events : List KeepAliveEvent} {forwarded : List Item}
    (effect : connection.ws.WriteStep held sink ws events)
    (pipeline : Pipeline forwarded (arrived index log) connection) :
    Pipeline forwarded (arrived index (log ++ events.map (.keepAlive index)))
      { connection with ws := ws } := by
  rw [arrived_append]
  cases effect <;>
    exact (List.append_nil (arrived index log)).symm ▸ pipeline.of_same rfl id rfl rfl

/-! ## All connections -/

/-- A step that moves no item: the views of the log and the shared channel
stay what they were. -/
structure Still (socket after : ReconnectingWebSocket) : Prop where
  forwarded : forwarded after.log = forwarded socket.log
  delivered : delivered after.log = delivered socket.log
  received : received after.log = received socket.log
  incoming : after.incoming = socket.incoming
  forwardedFrom : forall index, forwardedFrom index after.log = forwardedFrom index socket.log
  arrived : forall index, arrived index after.log = arrived index socket.log

/-- The event tells of an item that moves. -/
def movesItem : Event -> Bool
  | .forwarded _ _ => true
  | .delivered _ => true
  | .received (some _) => true
  | .keepAlive _ (.streamed _) => true
  | _ => false

theorem filterMap_still {view : Event -> Option Item}
    (blind : forall event, movesItem event = false -> view event = none) {events : List Event}
    (still : forall event, event ∈ events -> movesItem event = false) :
    (log ++ events).filterMap view = log.filterMap view := by
  rw [List.filterMap_append, List.filterMap_eq_nil_iff.mpr fun event member =>
    blind event (still event member), List.append_nil]

theorem Still.of_events {events : List Event} (log : after.log = socket.log ++ events)
    (incoming : after.incoming = socket.incoming)
    (still : forall event, event ∈ events -> movesItem event = false) : Still socket after where
  forwarded := by
    rw [log]
    exact filterMap_still (fun event quiet => by cases event <;> first | rfl | cases quiet) still
  delivered := by
    rw [log]
    exact filterMap_still (fun event quiet => by cases event <;> first | rfl | cases quiet) still
  received := by
    rw [log]
    refine filterMap_still (fun event quiet => ?_) still
    rcases event with _ | _ | _ | _ | _ | _ | _ | _ | ⟨_ | _⟩ | _ <;> first | rfl | cases quiet
  incoming := incoming
  forwardedFrom := fun index => by
    rw [log]
    exact filterMap_still (fun event quiet => by cases event <;> first | rfl | cases quiet) still
  arrived := fun index => by
    have same : streamed index after.log = streamed index socket.log := by
      rw [log]
      refine filterMap_still (fun event quiet => ?_) still
      rcases event with _ | _ | _ | _ | _ | _ | _ | _ | _ | ⟨_, _ | _⟩ <;>
        first | rfl | cases quiet
    rw [ReconnectingWebSocket.arrived, same, ReconnectingWebSocket.arrived]

theorem Still.of_log (log : after.log = socket.log) (incoming : after.incoming = socket.incoming) :
    Still socket after :=
  .of_events (log.trans (List.append_nil _).symm) incoming (fun _ member => by cases member)

theorem ConnectStep.still (effect : ConnectStep maxRetries socket action after) :
    Still socket after := by
  cases effect with
  | called => exact .of_events rfl rfl (by simp [movesItem])
  | cancelled => exact .of_log rfl rfl
  | userConnected => exact .of_events (List.append_assoc _ _ _) rfl (by simp [movesItem])
  | userFailed => exact .of_events rfl rfl (by simp [movesItem])
  | userWaits => exact .of_log rfl rfl
  | userWoken => exact .of_events rfl rfl (by simp [movesItem])
  | reconnected => exact .of_events rfl rfl (by simp [movesItem])
  | gaveUp => exact .of_log rfl rfl
  | waits => exact .of_log rfl rfl
  | woken => exact .of_events rfl rfl (by simp [movesItem])

theorem WriteLoopStep.still (effect : WriteLoopStep socket index connection replaced after) :
    Still socket after := by
  cases effect <;> exact .of_log rfl rfl

/-- A call of `recv` takes an item out of the shared channel and hands it out
unless it is a reset. -/
structure Delivers (socket after : ReconnectingWebSocket) (item : Item) : Prop where
  head : socket.incoming.queue = item :: after.incoming.queue
  delivered : delivered after.log = delivered socket.log ++ [item]
  received : received after.log =
    received socket.log ++ [item].filter fun item => !item.isReset
  forwarded : forwarded after.log = forwarded socket.log
  forwardedFrom : forall index, forwardedFrom index after.log = forwardedFrom index socket.log
  arrived : forall index, arrived index after.log = arrived index socket.log

theorem UserStep.still_or_delivers (effect : UserStep socket action after)
    (watched : CloseWatched socket) :
    Still socket after ∨ Exists fun item => Delivers socket after item := by
  cases effect with
  | skipped call item incoming head reset =>
      refine Or.inr ⟨item, head, ?_, ?_, ?_, fun index => ?_, fun index => ?_⟩
      · rw [emit_log, delivered_append]; rfl
      · rw [emit_log, received_append]
        simp only [List.filter_singleton, reset, Bool.not_true, cond_false]
        rfl
      · rw [emit_log, forwarded_append]
        exact List.append_nil _
      · rw [emit_log, forwardedFrom_append]
        exact List.append_nil _
      · rw [emit_log, arrived_append]
        exact List.append_nil _
  | received call item incoming head kept =>
      refine Or.inr ⟨item, head, ?_, ?_, ?_, fun index => ?_, fun index => ?_⟩
      · simp [endRecv, delivered]
      · simp only [endRecv, emit_log, List.append_assoc, List.singleton_append, received_append,
          List.filter_singleton, kept, Bool.not_false, cond_true]
        rfl
      · simp [endRecv, forwarded]
      · simp [endRecv, forwardedFrom, forwardedItem]
      · simp [endRecv, arrived, streamed, streamedItem]
  | recvFailed call closeSeen called gone =>
      have handle := watched.borrowed (Nat.lt_of_le_of_lt (Nat.zero_le call)
        (List.getElem?_eq_some_iff.mp called).1)
      rw [innerAlive_of_handle handle] at gone
      cases gone
  | cloned => exact Or.inl (.of_log rfl rfl)
  | dropped => exact Or.inl (.of_log rfl rfl)
  | closed => exact Or.inl (.of_events rfl rfl (by simp [movesItem]))
  | sendRefused => exact Or.inl (.of_events rfl rfl (by simp [movesItem]))
  | sendCalled => exact Or.inl (.of_log rfl rfl)
  | accepted => exact Or.inl (.of_events rfl rfl (by simp [movesItem]))
  | sendFailed => exact Or.inl (.of_events rfl rfl (by simp [movesItem]))
  | sendCancelled => exact Or.inl (.of_log rfl rfl)
  | recvCalled => exact Or.inl (.of_log rfl rfl)
  | recvNoticed => exact Or.inl (.of_log rfl rfl)
  | recvEnded => exact Or.inl (.of_events rfl rfl (by simp [movesItem]))
  | recvCancelled => exact Or.inl (.of_log rfl rfl)

/-- The way of every connection, and the events of connections not yet made. -/
structure Pipelines (socket : ReconnectingWebSocket) : Prop where
  each : forall (index : Nat) (connection : Connection),
    socket.connections[index]? = some connection ->
      Pipeline (forwardedFrom index socket.log) (arrived index socket.log) connection
  fresh : forall index, socket.connections.length ≤ index ->
    forwardedFrom index socket.log = [] ∧ arrived index socket.log = []

namespace Pipelines

theorem of_same (pipelines : Pipelines socket)
    (connections : after.connections = socket.connections)
    (forwardedSame : forall index, forwardedFrom index after.log = forwardedFrom index socket.log)
    (arrivedSame : forall index, arrived index after.log = arrived index socket.log) :
    Pipelines after := by
  refine ⟨fun index connection present => ?_, fun index beyond => ?_⟩
  · rw [forwardedSame, arrivedSame]
    exact pipelines.each index connection (connections ▸ present)
  · rw [forwardedSame, arrivedSame]
    exact pipelines.fresh index (connections ▸ beyond)

theorem of_replaces (pipelines : Pipelines socket)
    (replaces : Replaces socket after index connection replaced)
    (own : Pipeline (forwardedFrom index socket.log) (arrived index socket.log) connection ->
      Pipeline (forwardedFrom index after.log) (arrived index after.log) replaced)
    (others : forall there, there ≠ index ->
      forwardedFrom there after.log = forwardedFrom there socket.log ∧
        arrived there after.log = arrived there socket.log) : Pipelines after := by
  refine ⟨fun there found located => ?_, fun there beyond => ?_⟩
  · rcases replaces.cases located with ⟨sameIndex, sameConnection⟩ | ⟨different, old⟩
    · rw [sameIndex, sameConnection]
      exact own (pipelines.each index connection replaces.present)
    · rw [(others there different).1, (others there different).2]
      exact pipelines.each there found old
  · rw [replaces.length] at beyond
    have inside := (List.getElem?_eq_some_iff.mp replaces.present).1
    have different : there ≠ index := by omega
    rw [(others there different).1, (others there different).2]
    exact pipelines.fresh there beyond

theorem of_appended (pipelines : Pipelines socket)
    (connections : after.connections = socket.connections ++ [Connection.new])
    (still : Still socket after) : Pipelines after := by
  refine ⟨fun there found located => ?_, fun there beyond => ?_⟩
  · rw [still.forwardedFrom, still.arrived]
    rw [connections] at located
    rcases getElem?_append_cases located with ⟨sameIndex, sameConnection⟩ | ⟨_, old⟩
    · have fresh := pipelines.fresh there (Nat.le_of_eq sameIndex.symm)
      rw [fresh.1, fresh.2, sameConnection]
      exact ⟨fun item member => (by cases member), List.prefix_rfl, fun _ => List.prefix_rfl,
        fun _ _ => rfl⟩
    · exact pipelines.each there found old
  · rw [connections, List.length_append] at beyond
    rw [still.forwardedFrom, still.arrived]
    exact pipelines.fresh there (by omega)

end Pipelines

theorem ConnectStep.pipelines (effect : ConnectStep maxRetries socket action after)
    (pipelines : Pipelines socket) : Pipelines after := by
  have still := effect.still
  have reconnecting {index : Nat} {connection replaced : Connection} {call : ConnectCall}
      (replaces : Replaces socket after index connection replaced)
      (rests : connection.readLoop = .reconnecting call)
      (left : replaced.readLoop.looping = false) (empty : replaced.readLoop.hand = []) :
      Pipelines after := by
    refine pipelines.of_replaces replaces (fun own => ?_)
      fun there _ => ⟨still.forwardedFrom there, still.arrived there⟩
    rw [still.forwardedFrom, still.arrived]
    exact own.of_left left empty
  cases effect.table with
  | same connections => exact pipelines.of_same connections still.forwardedFrom still.arrived
  | spawned connections => exact pipelines.of_appended connections still
  | retrying _ _ _ _ rests replaces => exact reconnecting replaces rests rfl rfl
  | gaveUp _ _ _ _ rests _ replaces => exact reconnecting replaces rests rfl rfl
  | succeeded index connection _ rests replaces initiated =>
      subst initiated
      refine Pipelines.of_appended (pipelines.of_replaces replaces
        (fun own => own.of_left rfl rfl) fun _ _ => ⟨rfl, rfl⟩) rfl ?_
      exact .of_events rfl rfl (by simp [movesItem])

theorem ReadLoopStep.moves (effect : ReadLoopStep socket index connection replaced after) :
    Still socket after ∨ Exists fun item =>
      after.log = socket.log ++ [.forwarded index item] ∧
        after.incoming.queue = socket.incoming.queue ++ [item] := by
  cases effect with
  | forwarded item incoming _ _ _ _ sent => exact Or.inr ⟨item, rfl, sent⟩
  | reconnecting => exact Or.inl (.of_events rfl rfl (by simp [movesItem]))
  | spawned => exact Or.inl (.of_log rfl rfl)
  | started => exact Or.inl (.of_log rfl rfl)
  | took => exact Or.inl (.of_log rfl rfl)
  | noticed => exact Or.inl (.of_log rfl rfl)
  | left => exact Or.inl (.of_log rfl rfl)
  | ended => exact Or.inl (.of_log rfl rfl)

theorem keepAlive_still_there (index : Nat) (events : List KeepAliveEvent) (there : Nat)
    (different : there ≠ index) :
    forwardedFrom there (log ++ events.map (.keepAlive index)) = forwardedFrom there log ∧
      arrived there (log ++ events.map (.keepAlive index)) = arrived there log := by
  rw [forwardedFrom_append, forwardedFrom_keepAlive, arrived_append,
    arrived_keepAlive_there different]
  exact ⟨List.append_nil _, List.append_nil _⟩

theorem Step.pipelines (effect : Step maxRetries socket action after)
    (watched : CloseWatched socket) (pipelines : Pipelines socket) : Pipelines after := by
  cases effect with
  | user effect =>
      rcases effect.still_or_delivers watched with still | ⟨item, delivers⟩
      · exact pipelines.of_same effect.frame.connections still.forwardedFrom still.arrived
      · exact pipelines.of_same effect.frame.connections delivers.forwardedFrom delivers.arrived
  | connect effect => exact effect.pipelines pipelines
  | readLoop present effect =>
      refine pipelines.of_replaces (effect.replaces present).1 effect.pipeline
        fun there different => ?_
      rcases effect.moves with still | ⟨item, log, _⟩
      · exact ⟨still.forwardedFrom there, still.arrived there⟩
      · rw [log, forwardedFrom_append, forwardedFrom_forwarded_there different, arrived_append]
        exact ⟨List.append_nil _, List.append_nil _⟩
  | writeLoop present effect =>
      have replaces := effect.replaces present
      have still := effect.still
      refine pipelines.of_replaces replaces.1 (fun own => ?_)
        fun there _ => ⟨still.forwardedFrom there, still.arrived there⟩
      rw [still.forwardedFrom, still.arrived]
      have frame := replaces.2
      exact own.of_same (by rw [frame.readLoop]) (fun inside => frame.readLoop ▸ inside)
        frame.incoming frame.readTask
  | @keepAliveRead index connection stream ws events present effect =>
      refine pipelines.of_replaces (keepAlive_replaces present) (fun own => ?_)
        (keepAlive_still_there index events)
      simp only [emit_log, setConnection_log, forwardedFrom_append, forwardedFrom_keepAlive,
        List.append_nil]
      exact keepAliveRead_pipeline effect own
  | @keepAliveWrite index connection timeout sink ws events present effect =>
      refine pipelines.of_replaces (keepAlive_replaces present) (fun own => ?_)
        (keepAlive_still_there index events)
      simp only [emit_log, setConnection_log, forwardedFrom_append, forwardedFrom_keepAlive,
        List.append_nil]
      exact keepAliveWrite_pipeline effect own

theorem pipelines_of_reaches {allowed : ReconnectingWebSocket -> Action -> Prop}
    (reached : Reaches (step maxRetries) allowed build socket) : Pipelines socket := by
  refine reached.invariant ⟨fun index connection present => (by cases present),
    fun _ _ => ⟨rfl, rfl⟩⟩ fun before action after earlier pipelines _ taken => ?_
  exact (step_spec taken).pipelines (closeWatched_of_reaches earlier) pipelines

end ReconnectingWebSocket
end WebSocket
end Fpd
