import Fpd.WebSocket.Steps

namespace Fpd
namespace WebSocket
namespace ReconnectingWebSocket

open Async

/-!
# What the steps leave alone

Most of a `ReconnectingWebSocket` is untouched by any one step.  A poll of a
task replaces one connection and keeps the handles, the calls of `connect` and
the close flag; a method other than `connect` keeps every connection.  Three
facts about whole runs follow: a dropped `Inner` stays dropped, a set close
flag stays set, and a finished task stays finished.
-/

variable {socket after : ReconnectingWebSocket} {index : Nat}
  {connection replaced : Connection} {maxRetries : Nat} {action : Action}

/-! ## The reference count of `Inner` -/

theorem innerAlive_of_handle (handle : 0 < socket.handles) : socket.innerAlive = true := by
  simp only [innerAlive, handle, decide_true, Bool.true_or]

theorem innerAlive_of_holder (present : socket.connections[index]? = some connection)
    (holds : connection.holdsInner = true) : socket.innerAlive = true := by
  have member := List.mem_of_getElem? present
  simp only [innerAlive, Bool.or_eq_true, List.any_eq_true]
  exact Or.inr ⟨connection, member, holds⟩

theorem innerAlive_eq_true_iff : socket.innerAlive = true ↔
    0 < socket.handles ∨ Exists fun index : Nat => Exists fun connection : Connection =>
      socket.connections[index]? = some connection ∧ connection.holdsInner = true := by
  constructor
  · intro alive
    simp only [innerAlive, Bool.or_eq_true, decide_eq_true_eq, List.any_eq_true] at alive
    rcases alive with handle | ⟨connection, member, holds⟩
    · exact Or.inl handle
    · rcases List.getElem?_of_mem member with ⟨index, present⟩
      exact Or.inr ⟨index, connection, present, holds⟩
  · rintro (handle | ⟨index, connection, present, holds⟩)
    · exact innerAlive_of_handle handle
    · exact innerAlive_of_holder present holds

/-! ## A poll of a task replaces one connection -/

/-- `after` differs from `socket` in one connection and in what is not listed
here, and only a task that has found `Inner` alive comes to hold it. -/
structure Replaces (socket after : ReconnectingWebSocket) (index : Nat)
    (connection replaced : Connection) : Prop where
  present : socket.connections[index]? = some connection
  connections : after.connections = socket.connections.set index replaced
  connects : after.connects = socket.connects
  sends : after.sends = socket.sends
  recvs : after.recvs = socket.recvs
  handles : after.handles = socket.handles
  close : after.close = socket.close
  log : socket.log <+: after.log
  holds : replaced.holdsInner = true -> socket.innerAlive = true

namespace Replaces

theorem length (replaces : Replaces socket after index connection replaced) :
    after.connections.length = socket.connections.length := by
  rw [replaces.connections, List.length_set]

theorem innerAlive (replaces : Replaces socket after index connection replaced)
    (alive : after.innerAlive = true) : socket.innerAlive = true := by
  rcases innerAlive_eq_true_iff.mp alive with handle | ⟨there, found, located, holds⟩
  · exact innerAlive_of_handle (replaces.handles ▸ handle)
  · rw [replaces.connections] at located
    rcases getElem?_set_cases located with ⟨_, same⟩ | ⟨_, old⟩
    · exact replaces.holds (same ▸ holds)
    · exact innerAlive_of_holder old holds

/-- A connection of the later state is the replaced one or an old one. -/
theorem cases {there : Nat} {found : Connection}
    (replaces : Replaces socket after index connection replaced)
    (located : after.connections[there]? = some found) :
    (there = index ∧ found = replaced) ∨
      (there ≠ index ∧ socket.connections[there]? = some found) :=
  getElem?_set_cases (replaces.connections ▸ located)

theorem located (replaces : Replaces socket after index connection replaced) :
    after.connections[index]? = some replaced := by
  rw [replaces.connections]
  exact getElem?_set_here replaces.present

theorem emit (replaces : Replaces socket after index connection replaced) (events : List Event) :
    Replaces socket (after.emit events) index connection replaced :=
  ⟨replaces.present, replaces.connections, replaces.connects, replaces.sends, replaces.recvs,
    replaces.handles, replaces.close, replaces.log.trans (List.prefix_append _ _), replaces.holds⟩

end Replaces

/-- The channels and the disconnect flag may change along with a connection. -/
theorem replaces_set {outgoing retry : Channel Message 1} {incoming : Channel Item 1}
    {disconnect : Watch Bool} (present : socket.connections[index]? = some connection)
    (holds : replaced.holdsInner = true -> socket.innerAlive = true) :
    Replaces socket
      ({ socket with
        outgoing := outgoing, retry := retry, incoming := incoming
        disconnect := disconnect }.setConnection index replaced)
      index connection replaced :=
  ⟨present, rfl, rfl, rfl, rfl, rfl, rfl, List.prefix_rfl, holds⟩

/-- The facts about the replaced connection that every poll of a read loop
has in common. -/
structure ReadLoopFrame (connection replaced : Connection) : Prop where
  unpublished : connection.readLoop.unpublished = true
  writeLoop : replaced.writeLoop = connection.writeLoop
  readTask : replaced.ws.readTask = connection.ws.readTask
  writeTask : replaced.ws.writeTask = connection.ws.writeTask
  outgoing : replaced.ws.outgoing = connection.ws.outgoing
  disconnect : replaced.ws.disconnect = connection.ws.disconnect

/-- A read loop only takes items from the keepalive of its connection. -/
theorem readLoopFrame_set {incoming : Channel Item 1} {loop : ReadLoop}
    (unpublished : connection.readLoop.unpublished = true) :
    ReadLoopFrame connection { connection with
      ws := { connection.ws with incoming := incoming }, readLoop := loop } :=
  ⟨unpublished, rfl, rfl, rfl, rfl, rfl⟩

/-- After a poll of the read loop, a handle on `Inner` is one of the write
loop or the read loop's own new one. -/
private theorem holds_after_read (present : socket.connections[index]? = some connection)
    {ws : WebSocketKeepAlive} {loop : ReadLoop}
    (found : loop.holdsInner = true -> socket.innerAlive = true)
    (holds : Connection.holdsInner ⟨ws, loop, connection.writeLoop⟩ = true) :
    socket.innerAlive = true := by
  simp only [Connection.holdsInner, Bool.or_eq_true] at holds
  rcases holds with reads | writes
  · exact found reads
  · exact innerAlive_of_holder present (by simp only [Connection.holdsInner, writes, Bool.or_true])

private theorem holds_after_write (present : socket.connections[index]? = some connection)
    {ws : WebSocketKeepAlive} {loop : WriteLoop}
    (found : loop.holdsInner = true -> socket.innerAlive = true)
    (holds : Connection.holdsInner ⟨ws, connection.readLoop, loop⟩ = true) :
    socket.innerAlive = true := by
  simp only [Connection.holdsInner, Bool.or_eq_true] at holds
  rcases holds with reads | writes
  · exact innerAlive_of_holder present (by simp only [Connection.holdsInner, reads, Bool.true_or])
  · exact found writes

/-- A task that upgrades its handle holds `Inner` only where it is alive. -/
private theorem upgraded {Loop : Type} {holdsInner : Loop -> Bool} {held unheld : Loop}
    (quiet : holdsInner unheld = false)
    (holds : holdsInner (if socket.innerAlive then held else unheld) = true) :
    socket.innerAlive = true := by
  cases alive : socket.innerAlive with
  | true => rfl
  | false => simp only [alive, Bool.false_eq_true, if_false, quiet] at holds

theorem ReadLoopExit.frame {ws : WebSocketKeepAlive} {shouldReconnect : Bool}
    (exit : ReadLoopExit socket connection ws shouldReconnect) :
    connection.readLoop.looping = true ∧ ws.readTask = connection.ws.readTask ∧
      ws.writeTask = connection.ws.writeTask ∧ ws.outgoing = connection.ws.outgoing ∧
        ws.disconnect = connection.ws.disconnect := by
  cases exit with
  | streamEnded _ _ rests => exact ⟨by rw [rests]; rfl, rfl, rfl, rfl, rfl⟩
  | closeFrame _ _ _ _ rests => exact ⟨by rw [rests]; rfl, rfl, rfl, rfl, rfl⟩
  | disconnected _ _ rests => exact ⟨by rw [rests]; rfl, rfl, rfl, rfl, rfl⟩
  | closed _ _ rests => exact ⟨by rw [rests]; rfl, rfl, rfl, rfl, rfl⟩
  | orphaned _ inside => exact ⟨inside, rfl, rfl, rfl, rfl⟩

theorem unpublished_of_looping {loop : ReadLoop} (inside : loop.looping = true) :
    loop.unpublished = true := by
  cases loop <;> first | rfl | cases inside

theorem unfinished_of_unpublished {loop : ReadLoop} (unpublished : loop.unpublished = true) :
    loop ≠ .finished :=
  fun finished => by rw [finished] at unpublished; cases unpublished

theorem ReadLoopStep.replaces (present : socket.connections[index]? = some connection)
    (effect : ReadLoopStep socket index connection replaced after) :
    Replaces socket after index connection replaced ∧ ReadLoopFrame connection replaced := by
  have holding (holds : connection.readLoop.holdsInner = true) : socket.innerAlive = true :=
    innerAlive_of_holder present (by simp only [Connection.holdsInner, holds, Bool.true_or])
  have resting {ws : WebSocketKeepAlive} {loop : ReadLoop} (quiet : loop.holdsInner = false) :
      Connection.holdsInner ⟨ws, loop, connection.writeLoop⟩ = true -> socket.innerAlive = true :=
    holds_after_read present fun holds => by rw [quiet] at holds; cases holds
  cases effect with
  | spawned rests =>
      constructor
      · exact replaces_set present (holds_after_read present (upgraded rfl))
      · exact readLoopFrame_set (by rw [rests]; rfl)
  | started rests =>
      constructor
      · exact replaces_set present fun _ => holding (by rw [rests]; rfl)
      · exact readLoopFrame_set (by rw [rests]; rfl)
  | took item incoming disconnectSeen closeSeen rests =>
      constructor
      · exact replaces_set present (resting rfl)
      · exact readLoopFrame_set (by rw [rests]; rfl)
  | noticed disconnectSeen closeSeen disconnectNow closeNow rests =>
      constructor
      · exact replaces_set present (resting rfl)
      · exact readLoopFrame_set (by rw [rests]; rfl)
  | forwarded item incoming disconnectSeen closeSeen rests alive =>
      constructor
      · exact (replaces_set present fun _ => alive).emit _
      · exact readLoopFrame_set (by rw [rests]; rfl)
  | left ws shouldReconnect exit =>
      have frame := exit.frame
      constructor
      · exact replaces_set present (holds_after_read present (upgraded rfl))
      · exact ⟨unpublished_of_looping frame.1, rfl, frame.2.1, frame.2.2.1, frame.2.2.2.1,
          frame.2.2.2.2⟩
  | reconnecting rests =>
      constructor
      · exact (replaces_set present fun _ => holding (by rw [rests]; rfl)).emit _
      · exact readLoopFrame_set (by rw [rests]; rfl)
  | ended rests =>
      constructor
      · exact replaces_set present fun _ => holding (by rw [rests]; rfl)
      · exact readLoopFrame_set (by rw [rests]; rfl)

/-- The facts about the replaced connection that every poll of a write loop
has in common. -/
structure WriteLoopFrame (connection replaced : Connection) : Prop where
  readLoop : replaced.readLoop = connection.readLoop
  readTask : replaced.ws.readTask = connection.ws.readTask
  writeTask : replaced.ws.writeTask = connection.ws.writeTask
  incoming : replaced.ws.incoming = connection.ws.incoming
  disconnect : replaced.ws.disconnect = connection.ws.disconnect

/-- A write loop only puts messages into the keepalive of its connection. -/
theorem writeLoopFrame_set {outgoing : Channel Message 1} {loop : WriteLoop} :
    WriteLoopFrame connection { connection with
      ws := { connection.ws with outgoing := outgoing }, writeLoop := loop } :=
  ⟨rfl, rfl, rfl, rfl, rfl⟩

theorem WriteLoopStep.replaces (present : socket.connections[index]? = some connection)
    (effect : WriteLoopStep socket index connection replaced after) :
    Replaces socket after index connection replaced ∧ WriteLoopFrame connection replaced := by
  have resting {ws : WebSocketKeepAlive} {loop : WriteLoop} (quiet : loop.holdsInner = false) :
      Connection.holdsInner ⟨ws, connection.readLoop, loop⟩ = true -> socket.innerAlive = true :=
    holds_after_write present fun holds => by rw [quiet] at holds; cases holds
  cases effect with
  | retried => exact ⟨replaces_set present (resting rfl), writeLoopFrame_set⟩
  | took => exact ⟨replaces_set present (resting rfl), writeLoopFrame_set⟩
  | noticed => exact ⟨replaces_set present (resting rfl), writeLoopFrame_set⟩
  | sent => exact ⟨replaces_set present (resting rfl), writeLoopFrame_set⟩
  | refused => exact ⟨replaces_set present (resting rfl), writeLoopFrame_set⟩
  | published => exact ⟨replaces_set present (resting rfl), writeLoopFrame_set⟩
  | left =>
      constructor
      · exact replaces_set present (holds_after_write present (upgraded rfl))
      · exact writeLoopFrame_set
  | requeued =>
      constructor
      · exact replaces_set present (holds_after_write present (upgraded rfl))
      · exact writeLoopFrame_set

theorem WriteLoopStep.log (effect : WriteLoopStep socket index connection replaced after) :
    after.log = socket.log := by
  cases effect <;> rfl

/-- A poll of a keepalive task only changes the keepalive of its connection. -/
theorem keepAlive_replaces {ws : WebSocketKeepAlive} {events : List KeepAliveEvent}
    (present : socket.connections[index]? = some connection) :
    Replaces socket
      ((socket.setConnection index { connection with ws := ws }).emit
        (events.map (.keepAlive index)))
      index connection { connection with ws := ws } := by
  apply Replaces.emit
  apply replaces_set present
  intro holds
  exact innerAlive_of_holder present holds

/-! ## Methods and calls of `connect` -/

/-- What every method besides `connect` leaves alone. -/
structure UserFrame (socket after : ReconnectingWebSocket) : Prop where
  connections : after.connections = socket.connections
  connects : after.connects = socket.connects
  disconnect : after.disconnect = socket.disconnect
  handles : 0 < after.handles -> 0 < socket.handles
  closed : socket.close.value = true -> after.close.value = true
  log : socket.log <+: after.log

/-- Calls of `send` and `recv` come and go and move messages. -/
theorem userFrame_set {sends : List Message} {recvs : List Nat} {outgoing : Channel Message 1}
    {incoming : Channel Item 1} : UserFrame socket { socket with
      sends := sends, recvs := recvs, outgoing := outgoing, incoming := incoming } :=
  ⟨rfl, rfl, rfl, id, id, List.prefix_rfl⟩

theorem UserFrame.emit (frame : UserFrame socket after) (events : List Event) :
    UserFrame socket (after.emit events) :=
  { frame with log := frame.log.trans (List.prefix_append _ _) }

theorem UserStep.frame (effect : UserStep socket action after) : UserFrame socket after := by
  cases effect with
  | cloned handle => exact ⟨rfl, rfl, rfl, fun _ => handle, id, List.prefix_rfl⟩
  | dropped able =>
      refine ⟨rfl, rfl, rfl, fun _ => ?_, id, List.prefix_rfl⟩
      rcases able with several | ⟨one, _⟩ <;> omega
  | closed handle => exact ⟨rfl, rfl, rfl, id, fun _ => rfl, List.prefix_append _ _⟩
  | sendRefused => exact userFrame_set.emit _
  | sendCalled => exact userFrame_set
  | accepted => exact userFrame_set.emit _
  | sendFailed => exact userFrame_set.emit _
  | sendCancelled => exact userFrame_set
  | recvCalled => exact userFrame_set
  | skipped => exact userFrame_set.emit _
  | received =>
      exact ⟨rfl, rfl, rfl, id, id, (List.prefix_append _ _).trans (List.prefix_append _ _)⟩
  | recvNoticed => exact userFrame_set
  | recvEnded => exact userFrame_set.emit _
  | recvFailed => exact userFrame_set.emit _
  | recvCancelled => exact userFrame_set

/-- What every step of a call of `connect` leaves alone. -/
structure ConnectFrame (socket after : ReconnectingWebSocket) : Prop where
  handles : after.handles = socket.handles
  recvs : after.recvs = socket.recvs
  close : after.close = socket.close
  disconnect : after.disconnect = socket.disconnect
  log : socket.log <+: after.log

/-- Calls of `connect` come and go and change connections. -/
theorem connectFrame_set {connects : List ConnectCall} {connections : List Connection} :
    ConnectFrame socket { socket with connects := connects, connections := connections } :=
  ⟨rfl, rfl, rfl, rfl, List.prefix_rfl⟩

theorem ConnectFrame.emit (frame : ConnectFrame socket after) (events : List Event) :
    ConnectFrame socket (after.emit events) :=
  { frame with log := frame.log.trans (List.prefix_append _ _) }

theorem ConnectStep.frame (effect : ConnectStep maxRetries socket action after) :
    ConnectFrame socket after := by
  cases effect with
  | called => exact connectFrame_set.emit _
  | cancelled => exact connectFrame_set
  | userConnected =>
      exact ⟨rfl, rfl, rfl, rfl, (List.prefix_append _ _).trans (List.prefix_append _ _)⟩
  | userFailed => exact connectFrame_set.emit _
  | userWaits => exact connectFrame_set
  | userWoken => exact connectFrame_set.emit _
  | reconnected => exact connectFrame_set.emit _
  | gaveUp => exact connectFrame_set
  | waits => exact connectFrame_set
  | woken => exact connectFrame_set.emit _

/-- What a step of a call of `connect` does to the connections: it spawns
one, moves on the read loop that reconnects, or both. -/
inductive ConnectTable (maxRetries : Nat) (socket after : ReconnectingWebSocket) : Action -> Prop
  | same {action : Action} (connections : after.connections = socket.connections) :
      ConnectTable maxRetries socket after action
  | spawned {action : Action}
      (connections : after.connections = socket.connections ++ [Connection.new]) :
      ConnectTable maxRetries socket after action
  | retrying {action : Action} (index : Nat) (connection : Connection) (call next : ConnectCall)
      (rests : connection.readLoop = .reconnecting call)
      (replaces : Replaces socket after index connection
        { connection with readLoop := .reconnecting next }) :
      ConnectTable maxRetries socket after action
  | gaveUp (index attempt : Nat) (connection : Connection) (error : Error)
      (rests : connection.readLoop = .reconnecting (.initiating attempt))
      (final : attempt = maxRetries ∨ error.isClientError = true)
      (replaces : Replaces socket after index connection
        { connection with readLoop := .finished }) :
      ConnectTable maxRetries socket after (.attempted (.readLoop index) (.error error))
  | succeeded {action : Action} (index : Nat) (connection : Connection) (call : ConnectCall)
      (rests : connection.readLoop = .reconnecting call)
      (replaces : Replaces socket
        (socket.setConnection index { connection with readLoop := .finished })
        index connection { connection with readLoop := .finished })
      (initiated : after =
        (socket.setConnection index { connection with readLoop := .finished }).initiated) :
      ConnectTable maxRetries socket after action

/-- The read loop that reconnects holds `Inner` while it does. -/
theorem replaces_reconnecting {call : ConnectCall}
    (present : socket.connections[index]? = some connection)
    (rests : connection.readLoop = .reconnecting call) (loop : ReadLoop) :
    Replaces socket (socket.setConnection index { connection with readLoop := loop })
      index connection { connection with readLoop := loop } :=
  replaces_set present fun _ => innerAlive_of_holder present
    (by simp only [Connection.holdsInner, rests, ReadLoop.holdsInner, Bool.true_or])

theorem ConnectStep.table (effect : ConnectStep maxRetries socket action after) :
    ConnectTable maxRetries socket after action := by
  cases effect with
  | called => exact .same rfl
  | cancelled => exact .same rfl
  | userConnected => exact .spawned rfl
  | userFailed => exact .same rfl
  | userWaits => exact .same rfl
  | userWoken => exact .same rfl
  | reconnected index attempt connection present rests =>
      exact .succeeded index connection _ rests (replaces_reconnecting present rests _) rfl
  | gaveUp index attempt connection error present rests final =>
      exact .gaveUp index attempt connection error rests final
        (replaces_reconnecting present rests _)
  | waits index attempt connection error present rests =>
      exact .retrying index connection _ _ rests (replaces_reconnecting present rests _)
  | woken index attempt connection present rests =>
      exact .retrying index connection _ _ rests ((replaces_reconnecting present rests _).emit _)

/-! ## Facts that no step undoes -/

theorem innerAlive_of_appended (handles : after.handles = socket.handles)
    (connections : after.connections = socket.connections ++ [Connection.new])
    (alive : after.innerAlive = true) : socket.innerAlive = true := by
  rcases innerAlive_eq_true_iff.mp alive with handle | ⟨there, found, located, holds⟩
  · exact innerAlive_of_handle (handles ▸ handle)
  · rw [connections] at located
    rcases getElem?_append_cases located with ⟨_, same⟩ | ⟨_, old⟩
    · rw [same] at holds
      cases holds
    · exact innerAlive_of_holder old holds

theorem innerAlive_of_initiated (alive : socket.initiated.innerAlive = true) :
    socket.innerAlive = true :=
  @innerAlive_of_appended socket socket.initiated rfl rfl alive

theorem innerAlive_of_same (handles : 0 < after.handles -> 0 < socket.handles)
    (connections : after.connections = socket.connections)
    (alive : after.innerAlive = true) : socket.innerAlive = true := by
  rcases innerAlive_eq_true_iff.mp alive with handle | ⟨there, found, located, holds⟩
  · exact innerAlive_of_handle (handles handle)
  · exact innerAlive_of_holder (connections ▸ located) holds

theorem dead_of_alive (alive : after.innerAlive = true -> socket.innerAlive = true)
    (dead : socket.innerAlive = false) : after.innerAlive = false := by
  cases still : after.innerAlive with
  | false => rfl
  | true => rw [alive still] at dead; cases dead

/-- A dropped `Inner` stays dropped. -/
theorem Step.innerAlive (effect : Step maxRetries socket action after)
    (alive : after.innerAlive = true) : socket.innerAlive = true := by
  cases effect with
  | user effect =>
      have frame := effect.frame
      exact innerAlive_of_same frame.handles frame.connections alive
  | connect effect =>
      have frame := effect.frame
      cases effect.table with
      | same connections =>
          exact innerAlive_of_same (fun handle => frame.handles ▸ handle) connections alive
      | spawned connections => exact innerAlive_of_appended frame.handles connections alive
      | retrying _ _ _ _ _ replaces => exact replaces.innerAlive alive
      | gaveUp _ _ _ _ _ _ replaces => exact replaces.innerAlive alive
      | succeeded _ _ _ _ replaces initiated =>
          subst initiated
          exact replaces.innerAlive (innerAlive_of_initiated alive)
  | readLoop present effect =>
      exact (effect.replaces present).1.innerAlive alive
  | writeLoop present effect =>
      exact (effect.replaces present).1.innerAlive alive
  | keepAliveRead present _ => exact (keepAlive_replaces present).innerAlive alive
  | keepAliveWrite present _ => exact (keepAlive_replaces present).innerAlive alive

theorem Step.dead (effect : Step maxRetries socket action after)
    (dead : socket.innerAlive = false) : after.innerAlive = false :=
  dead_of_alive effect.innerAlive dead

/-- Without a handle nobody gets one. -/
theorem Step.handles (effect : Step maxRetries socket action after)
    (handle : 0 < after.handles) : 0 < socket.handles := by
  cases effect with
  | user effect => exact effect.frame.handles handle
  | connect effect => exact effect.frame.handles ▸ handle
  | readLoop present effect =>
      exact (effect.replaces present).1.handles ▸ handle
  | writeLoop present effect =>
      exact (effect.replaces present).1.handles ▸ handle
  | keepAliveRead _ _ => exact handle
  | keepAliveWrite _ _ => exact handle

/-- A set close flag stays set. -/
theorem Step.closed (effect : Step maxRetries socket action after)
    (flag : socket.close.value = true) : after.close.value = true := by
  cases effect with
  | user effect => exact effect.frame.closed flag
  | connect effect => exact effect.frame.close ▸ flag
  | readLoop present effect =>
      exact (effect.replaces present).1.close ▸ flag
  | writeLoop present effect =>
      exact (effect.replaces present).1.close ▸ flag
  | keepAliveRead _ _ => exact flag
  | keepAliveWrite _ _ => exact flag

/-- The log only grows. -/
theorem Step.log (effect : Step maxRetries socket action after) : socket.log <+: after.log := by
  cases effect with
  | user effect => exact effect.frame.log
  | connect effect => exact effect.frame.log
  | readLoop present effect =>
      exact (effect.replaces present).1.log
  | writeLoop present effect =>
      exact (effect.replaces present).1.log
  | keepAliveRead _ _ => exact List.prefix_append _ _
  | keepAliveWrite _ _ => exact List.prefix_append _ _

/-! ## The disconnect flag -/

/-- A write loop leaves the disconnect flag alone until it publishes its end. -/
theorem WriteLoopStep.disconnect (effect : WriteLoopStep socket index connection replaced after) :
    after.disconnect = socket.disconnect ∨ (connection.writeLoop = .publishing ∧
      after.disconnect = socket.disconnect.sendReplace true) := by
  cases effect with
  | published rests => exact Or.inr ⟨rests, rfl⟩
  | retried => exact Or.inl rfl
  | took => exact Or.inl rfl
  | noticed => exact Or.inl rfl
  | left => exact Or.inl rfl
  | sent => exact Or.inl rfl
  | refused => exact Or.inl rfl
  | requeued => exact Or.inl rfl

/-! ## A successful call of `connect` -/

/-- A user's `connect` has returned `Ok`. -/
def ConnectedOnce (socket : ReconnectingWebSocket) : Prop :=
  Event.connectReturned (.ok ()) ∈ socket.log

/-- Only a user's call of `connect` reports that it has returned, and a
successful one has spawned a connection. -/
theorem Step.connectedOnce (effect : Step maxRetries socket action after)
    (connected : ConnectedOnce after) : ConnectedOnce socket ∨ after.connections ≠ [] := by
  unfold ConnectedOnce at connected ⊢
  cases effect with
  | user effect => cases effect <;> exact Or.inl (by simpa [endRecv] using connected)
  | connect effect =>
      cases effect with
      | userConnected => exact Or.inr (by simp [initiated])
      | reconnected => exact Or.inr (by simp [initiated])
      | called => exact Or.inl (by simpa using connected)
      | cancelled => exact Or.inl connected
      | userFailed => exact Or.inl (by simpa using connected)
      | userWaits => exact Or.inl connected
      | userWoken => exact Or.inl (by simpa using connected)
      | gaveUp => exact Or.inl connected
      | waits => exact Or.inl connected
      | woken => exact Or.inl (by simpa using connected)
  | readLoop _ effect =>
      cases effect <;> exact Or.inl (by simpa [leaveReadLoop] using connected)
  | writeLoop _ effect =>
      cases effect <;> exact Or.inl (by simpa [leaveWriteLoop] using connected)
  | keepAliveRead => exact Or.inl (by simpa using connected)
  | keepAliveWrite => exact Or.inl (by simpa using connected)

/-- A connection is never taken out of the table. -/
theorem Step.connections (effect : Step maxRetries socket action after) :
    socket.connections.length ≤ after.connections.length := by
  cases effect with
  | user effect => rw [effect.frame.connections]
  | connect effect =>
      cases effect.table with
      | same connections => rw [connections]
      | spawned connections => rw [connections, List.length_append]; omega
      | retrying _ _ _ _ _ replaces => rw [replaces.length]
      | gaveUp _ _ _ _ _ _ replaces => rw [replaces.length]
      | succeeded _ _ _ _ _ initiated =>
          subst initiated
          simp [ReconnectingWebSocket.initiated]
  | readLoop present effect => rw [(effect.replaces present).1.length]
  | writeLoop present effect => rw [(effect.replaces present).1.length]
  | keepAliveRead present => rw [(keepAlive_replaces present).length]
  | keepAliveWrite present => rw [(keepAlive_replaces present).length]

theorem connections_of_connectedOnce {allowed : ReconnectingWebSocket -> Action -> Prop}
    (reached : Reaches (step maxRetries) allowed build socket)
    (connected : ConnectedOnce socket) : socket.connections ≠ [] := by
  induction reached with
  | refl => cases connected
  | tail _ _ taken inductionHypothesis =>
      have effect := step_spec taken
      rcases effect.connectedOnce connected with earlier | present
      · exact List.length_pos_iff.mp (Nat.lt_of_lt_of_le
          (List.length_pos_iff.mpr (inductionHypothesis earlier)) effect.connections)
      · exact present

/-! ## Facts about every connection -/

/-- A step takes what holds of each connection before it to what is to hold of
each connection after it, when the connections that it leaves alone, the new one
and the one whose task it polls do. -/
theorem Step.forall_connections {before holds : Nat -> Connection -> Prop}
    (effect : Step maxRetries socket action after)
    (each : forall (there : Nat) (found : Connection),
      socket.connections[there]? = some found -> before there found)
    (same : forall there found, before there found -> holds there found)
    (new : holds socket.connections.length .new)
    (reconnects : forall there found call loop, found.readLoop = .reconnecting call ->
      before there found -> holds there { found with readLoop := loop })
    (readLoop : forall there found replaced, action = .readLoop there ->
      socket.connections[there]? = some found ->
        ReadLoopStep socket there found replaced after -> before there found -> holds there replaced)
    (writeLoop : forall there found replaced, action = .writeLoop there ->
      socket.connections[there]? = some found ->
        WriteLoopStep socket there found replaced after -> before there found ->
          holds there replaced)
    (keepAliveRead : forall there stream found ws events, action = .keepAliveRead there stream ->
      socket.connections[there]? = some found ->
        found.ws.ReadStep found.held stream ws events ->
          after.log = socket.log ++ events.map (.keepAlive there) -> before there found ->
            holds there { found with ws := ws })
    (keepAliveWrite : forall there timeout sink found ws events,
      action = .keepAliveWrite there timeout sink -> socket.connections[there]? = some found ->
        found.ws.WriteStep found.held sink ws events ->
          after.log = socket.log ++ events.map (.keepAlive there) -> before there found ->
            holds there { found with ws := ws }) :
    forall (there : Nat) (found : Connection),
      after.connections[there]? = some found -> holds there found := by
  have replaced {index : Nat} {connection replaced : Connection}
      (replaces : Replaces socket after index connection replaced)
      (own : before index connection -> holds index replaced) (there : Nat) (found : Connection)
      (located : after.connections[there]? = some found) : holds there found := by
    rcases replaces.cases located with ⟨here, moved⟩ | ⟨_, old⟩
    · subst here moved
      exact own (each there connection replaces.present)
    · exact same there found (each there found old)
  cases effect with
  | user effect =>
      intro there found located
      rw [effect.frame.connections] at located
      exact same there found (each there found located)
  | connect effect =>
      cases effect.table with
      | same connections =>
          intro there found located
          rw [connections] at located
          exact same there found (each there found located)
      | spawned connections =>
          intro there found located
          rw [connections] at located
          rcases getElem?_append_cases located with ⟨last, spawned⟩ | ⟨_, old⟩
          · exact last ▸ spawned ▸ new
          · exact same there found (each there found old)
      | retrying index connection call _ rests replaces =>
          exact replaced replaces (reconnects _ _ call _ rests)
      | gaveUp index attempt connection _ rests _ replaces =>
          exact replaced replaces (reconnects _ _ _ _ rests)
      | succeeded index connection call rests replaces initiated =>
          subst initiated
          intro there found located
          rcases getElem?_append_cases located with ⟨last, spawned⟩ | ⟨_, old⟩
          · rw [replaces.length] at last
            exact last ▸ spawned ▸ new
          · rcases replaces.cases old with ⟨here, moved⟩ | ⟨_, older⟩
            · subst here moved
              exact reconnects _ _ call _ rests (each there connection replaces.present)
            · exact same there found (each there found older)
  | readLoop present effect =>
      exact replaced (effect.replaces present).1 (readLoop _ _ _ rfl present effect)
  | writeLoop present effect =>
      exact replaced (effect.replaces present).1 (writeLoop _ _ _ rfl present effect)
  | keepAliveRead present effect =>
      exact replaced (keepAlive_replaces present) (keepAliveRead _ _ _ _ _ rfl present effect rfl)
  | keepAliveWrite present effect =>
      exact replaced (keepAlive_replaces present)
        (keepAliveWrite _ _ _ _ _ _ rfl present effect rfl)

/-- The same for the one connection at an index. -/
theorem Step.connection_at {before holds : Connection -> Prop}
    (effect : Step maxRetries socket action after)
    (earlier : forall found, socket.connections[index]? = some found -> before found)
    (same : forall found, before found -> holds found)
    (new : holds .new)
    (reconnects : forall found call loop, found.readLoop = .reconnecting call ->
      before found -> holds { found with readLoop := loop })
    (readLoop : forall found replaced, action = .readLoop index ->
      socket.connections[index]? = some found ->
        ReadLoopStep socket index found replaced after -> before found -> holds replaced)
    (writeLoop : forall found replaced, action = .writeLoop index ->
      socket.connections[index]? = some found ->
        WriteLoopStep socket index found replaced after -> before found -> holds replaced)
    (keepAliveRead : forall stream found ws events, action = .keepAliveRead index stream ->
      socket.connections[index]? = some found ->
        found.ws.ReadStep found.held stream ws events ->
          after.log = socket.log ++ events.map (.keepAlive index) -> before found ->
            holds { found with ws := ws })
    (keepAliveWrite : forall timeout sink found ws events,
      action = .keepAliveWrite index timeout sink -> socket.connections[index]? = some found ->
        found.ws.WriteStep found.held sink ws events ->
          after.log = socket.log ++ events.map (.keepAlive index) -> before found ->
            holds { found with ws := ws }) :
    forall found, after.connections[index]? = some found -> holds found := by
  have every : forall (there : Nat) (found : Connection),
      after.connections[there]? = some found -> there = index -> holds found := by
    apply @Step.forall_connections _ _ _ _ (fun there found => there = index -> before found)
      (fun there found => there = index -> holds found) effect
    · rintro there found located rfl
      exact earlier found located
    · exact fun _ found old here => same found (old here)
    · exact fun _ => new
    · exact fun _ found call loop rests old here => reconnects found call loop rests (old here)
    · rintro there found replaced polls present polled old rfl
      exact readLoop found replaced polls present polled (old rfl)
    · rintro there found replaced polls present polled old rfl
      exact writeLoop found replaced polls present polled (old rfl)
    · rintro there stream found ws events polls present polled log old rfl
      exact keepAliveRead stream found ws events polls present polled log (old rfl)
    · rintro there timeout sink found ws events polls present polled log old rfl
      exact keepAliveWrite timeout sink found ws events polls present polled log (old rfl)
  exact fun found located => every index found located rfl

end ReconnectingWebSocket
end WebSocket
end Fpd
