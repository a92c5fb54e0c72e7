import Fpd.Async.Simulation
import Fpd.WebSocket.KeepAliveLaws

namespace Fpd
namespace WebSocket

open Async

/-!
# The loops of a connection as users of its keepalive

Each loop of a connection holds one clone of the keepalive until it ends.  The
read loop receives from it and the write loop puts messages into its channel;
nobody else has access to it.  So the keepalive of every connection behaves as
the keepalive of these two users does, and what holds of every keepalive holds
on every connection that a `ReconnectingWebSocket` ever makes.
-/

/-- The loops that hold a clone of the keepalive. -/
def Connection.clones (connection : Connection) : Nat :=
  (if connection.readLoop.running then 1 else 0) + if connection.writeLoop.running then 1 else 0

namespace ReconnectingWebSocket

variable {socket after : ReconnectingWebSocket} {maxRetries : Nat} {action : Action}
  {index there : Nat} {connection replaced : Connection} {session origin : KeepAliveSession}
  {events : List KeepAliveEvent}

/-- What the keepalive of one connection shows to the outside. -/
def keepAliveEvents (index : Nat) (log : List Event) : List KeepAliveEvent :=
  log.filterMap fun
    | .keepAlive there event => if there = index then some event else none
    | _ => none

/-- The session is that of the keepalive of a connection. -/
structure Serves (session : KeepAliveSession) (connection : Connection)
    (events : List KeepAliveEvent) : Prop where
  ws : session.ws = connection.ws
  handles : session.handles = connection.clones
  idle : session.sends = []
  events : KeepAliveSession.taskEvents session.log = events

/-- A session that goes on from `origin` has brought the keepalive of the
connection where it is. -/
def Served (origin : KeepAliveSession) (connection : Connection) (events : List KeepAliveEvent) :
    Prop :=
  Exists fun session => Reaches KeepAliveSession.step anyStep origin session ∧
    Serves session connection events

theorem Serves.held (serves : Serves session connection events) :
    session.held = connection.held := by
  rw [KeepAliveSession.held, serves.handles, Connection.clones, Connection.held]
  cases connection.readLoop.running <;> cases connection.writeLoop.running <;> rfl

/-! ## What the loops do -/

namespace Served

/-- Nothing happens to the keepalive, except that a loop may end. -/
theorem of_loop (served : Served origin connection events) (ws : replaced.ws = connection.ws)
    (clones : replaced.clones = connection.clones ∨
      replaced.clones + 1 = connection.clones) : Served origin replaced events := by
  rcases served with ⟨session, reached, serves⟩
  rcases clones with same | fewer
  · exact ⟨session, reached, serves.ws.trans ws.symm, serves.handles.trans same.symm, serves.idle,
      serves.events⟩
  · have handles : session.handles = replaced.clones + 1 := serves.handles.trans fewer.symm
    have taken : KeepAliveSession.step session .drop =
        some { session with handles := session.handles - 1 } := by
      rw [KeepAliveSession.step, if_pos]
      by_cases last : session.handles = 1
      · exact Or.inr ⟨last, serves.idle⟩
      · exact Or.inl (by omega)
    refine ⟨_, .tail reached trivial taken, serves.ws.trans ws.symm, ?_, serves.idle,
      serves.events⟩
    dsimp only
    omega

/-- The read loop goes on or ends. -/
theorem of_readLoop (served : Served origin connection events)
    (running : connection.readLoop.running = true) (loop : ReadLoop) :
    Served origin { connection with readLoop := loop } events := by
  refine served.of_loop ?_ ?_
  · rfl
  · cases ended : loop.running with
    | true => exact Or.inl (by simp only [Connection.clones, ended, running])
    | false =>
        right
        simp only [Connection.clones, ended, running, Bool.false_eq_true, if_false, if_true]
        omega

theorem of_writeLoop (served : Served origin connection events)
    (running : connection.writeLoop.running = true) (loop : WriteLoop) :
    Served origin { connection with writeLoop := loop } events := by
  refine served.of_loop ?_ ?_
  · rfl
  · cases ended : loop.running with
    | true => exact Or.inl (by simp only [Connection.clones, ended, running])
    | false => exact Or.inr (by simp [Connection.clones, ended, running])

/-- A loop that goes on calls a method of the keepalive. -/
theorem of_call (served : Served origin connection events) (running : connection.held = true)
    {ws : WebSocketKeepAlive} (call : KeepAliveSession.Action)
    (answers : forall session : KeepAliveSession, Serves session connection events ->
      session.held = true -> Exists fun next => KeepAliveSession.step session call = some next ∧
        next.ws = ws ∧ next.handles = session.handles ∧ next.sends = session.sends ∧
        KeepAliveSession.taskEvents next.log = KeepAliveSession.taskEvents session.log) :
    Served origin { connection with ws := ws } events := by
  rcases served with ⟨session, reached, serves⟩
  rcases answers session serves (serves.held.trans running) with
    ⟨next, taken, same, handles, sends, silent⟩
  exact ⟨next, .tail reached trivial taken, same, handles.trans serves.handles,
    sends.trans serves.idle, silent.trans serves.events⟩

theorem of_recv (served : Served origin connection events) (running : connection.held = true)
    {item : Item} {incoming : Channel Item 1}
    (head : connection.ws.incoming.queue = item :: incoming.queue) :
    Served origin { connection with ws := { connection.ws with incoming := incoming } } events := by
  apply served.of_call running .recv
  intro session serves held
  have taken := (Channel.tryRecv_eq_some_iff _ incoming _).mpr head
  refine ⟨{ session with ws := { connection.ws with incoming := incoming } }.emit
    [.received (some item)], ?_, rfl, rfl, rfl, ?_⟩
  · simp only [KeepAliveSession.step, held, if_true, KeepAliveSession.recv,
      WebSocketKeepAlive.recv, serves.ws, taken]
  · simp [KeepAliveSession.taskEvents]

theorem of_send (served : Served origin connection events) (running : connection.held = true)
    {message : Message} {outgoing : Channel Message 1}
    (writes : connection.ws.writeTask.running = true)
    (room : outgoing.queue = connection.ws.outgoing.queue ++ [message]) :
    Served origin { connection with ws := { connection.ws with outgoing := outgoing } } events := by
  apply served.of_call running (.queue message)
  intro session serves held
  have sent : connection.ws.outgoing.trySend message = some outgoing := by
    rw [Channel.trySend_eq_some_iff]
    have bounded := outgoing.bounded
    rw [room, List.length_append, List.length_singleton] at bounded
    exact ⟨Nat.lt_of_succ_le bounded, room⟩
  refine ⟨{ session with ws := { connection.ws with outgoing := outgoing } }.emit
    [.queued message], ?_, rfl, rfl, rfl, ?_⟩
  · simp only [KeepAliveSession.step, held, if_true, KeepAliveSession.queue,
      WebSocketKeepAlive.outgoingSend, serves.ws, writes, sent]
  · simp [KeepAliveSession.taskEvents]

/-- A task of the keepalive is polled. -/
theorem of_poll (served : Served origin connection events) {ws : WebSocketKeepAlive}
    {shown : List KeepAliveEvent} (action : KeepAliveSession.Action)
    (polls : forall session : KeepAliveSession, session.ws = connection.ws ->
      session.held = connection.held ->
        KeepAliveSession.step session action = session.polled (some (ws, shown))) :
    Served origin { connection with ws := ws } (events ++ shown) := by
  rcases served with ⟨session, reached, serves⟩
  have taken := polls session serves.ws serves.held
  refine ⟨_, .tail reached trivial taken, rfl, serves.handles, serves.idle, ?_⟩
  simp [serves.events]

theorem new : Served .new .new [] := by
  have taken : KeepAliveSession.step .new .clone =
      some { KeepAliveSession.new with handles := 2 } := rfl
  exact ⟨{ KeepAliveSession.new with handles := 2 }, Reaches.single trivial taken, rfl, rfl, rfl,
    rfl⟩

end Served

theorem WriteLoopStep.served (effect : WriteLoopStep socket index connection replaced after)
    (served : Served origin connection events) : Served origin replaced events := by
  cases effect with
  | retried _ _ _ _ rests => exact served.of_writeLoop (by rw [rests]; rfl) _
  | took _ _ _ _ rests => exact served.of_writeLoop (by rw [rests]; rfl) _
  | noticed _ _ _ _ rests => exact served.of_writeLoop (by rw [rests]; rfl) _
  | left _ _ rests => exact served.of_writeLoop (by rw [rests]; rfl) _
  | refused _ _ _ rests => exact served.of_writeLoop (by rw [rests]; rfl) _
  | requeued _ _ rests => exact served.of_writeLoop (by rw [rests]; rfl) _
  | published rests => exact served.of_writeLoop (by rw [rests]; rfl) _
  | sent message outgoing _ _ rests writes appended =>
      have looping : connection.writeLoop.running = true := by rw [rests]; rfl
      have held : connection.held = true := by rw [Connection.held, looping, Bool.or_true]
      exact (served.of_send held writes appended).of_writeLoop looping _

theorem ReadLoopStep.served (effect : ReadLoopStep socket index connection replaced after)
    (served : Served origin connection events) : Served origin replaced events := by
  have held (looping : connection.readLoop.running = true) : connection.held = true := by
    rw [Connection.held, looping, Bool.true_or]
  cases effect with
  | spawned rests => exact served.of_readLoop (by rw [rests]; rfl) _
  | started rests => exact served.of_readLoop (by rw [rests]; rfl) _
  | noticed _ _ _ _ rests => exact served.of_readLoop (by rw [rests]; rfl) _
  | forwarded _ _ _ _ rests => exact served.of_readLoop (by rw [rests]; rfl) _
  | reconnecting rests => exact served.of_readLoop (by rw [rests]; rfl) _
  | ended rests => exact served.of_readLoop (by rw [rests]; rfl) _
  | took item incoming _ _ rests head =>
      have looping : connection.readLoop.running = true := by rw [rests]; rfl
      exact (served.of_recv (held looping) head).of_readLoop looping _
  | left ws shouldReconnect exit =>
      cases exit with
      | closeFrame item incoming _ _ rests head =>
          have looping : connection.readLoop.running = true := by rw [rests]; rfl
          exact (served.of_recv (held looping) head).of_readLoop looping _
      | streamEnded _ _ rests => exact served.of_readLoop (by rw [rests]; rfl) _
      | disconnected _ _ rests => exact served.of_readLoop (by rw [rests]; rfl) _
      | closed _ _ rests => exact served.of_readLoop (by rw [rests]; rfl) _
      | orphaned _ inside =>
          apply served.of_readLoop
          cases rests : connection.readLoop <;> rw [rests] at inside <;> first | rfl | cases inside

/-! ## What the log says about a keepalive -/

@[simp] theorem keepAliveEvents_append (log events : List Event) :
    keepAliveEvents index (log ++ events) =
      keepAliveEvents index log ++ keepAliveEvents index events :=
  List.filterMap_append

@[simp] theorem keepAliveEvents_here (events : List KeepAliveEvent) :
    keepAliveEvents index (events.map (.keepAlive index)) = events := by
  simp [keepAliveEvents, List.filterMap_map]

theorem keepAliveEvents_there (different : there ≠ index) (events : List KeepAliveEvent) :
    keepAliveEvents there (events.map (.keepAlive index)) = [] := by
  simp [keepAliveEvents, List.filterMap_map, Ne.symm different]

/-- Nothing but a poll of its tasks is told of a keepalive. -/
theorem UserStep.keepAliveEvents (effect : UserStep socket action after) :
    keepAliveEvents index after.log = keepAliveEvents index socket.log := by
  cases effect <;> simp [ReconnectingWebSocket.keepAliveEvents, endRecv]

theorem ConnectStep.keepAliveEvents (effect : ConnectStep maxRetries socket action after) :
    keepAliveEvents index after.log = keepAliveEvents index socket.log := by
  cases effect <;> simp [ReconnectingWebSocket.keepAliveEvents, initiated]

theorem ReadLoopStep.keepAliveEvents
    (effect : ReadLoopStep socket there connection replaced after) :
    keepAliveEvents index after.log = keepAliveEvents index socket.log := by
  cases effect <;> simp [ReconnectingWebSocket.keepAliveEvents, leaveReadLoop]

theorem WriteLoopStep.keepAliveEvents
    (effect : WriteLoopStep socket there connection replaced after) :
    keepAliveEvents index after.log = keepAliveEvents index socket.log := by
  cases effect <;> rfl

/-! ## Every connection -/

/-- A step that polls no keepalive. -/
structure Quiet (action : Action) : Prop where
  reads : forall there stream, action ≠ .keepAliveRead there stream
  writes : forall there timeout sink, action ≠ .keepAliveWrite there timeout sink

theorem Step.keepAliveEvents (effect : Step maxRetries socket action after) (quiet : Quiet action) :
    keepAliveEvents index after.log = keepAliveEvents index socket.log := by
  cases effect with
  | user effect => exact effect.keepAliveEvents
  | connect effect => exact effect.keepAliveEvents
  | readLoop _ effect => exact effect.keepAliveEvents
  | writeLoop _ effect => exact effect.keepAliveEvents
  | keepAliveRead => exact absurd rfl (quiet.reads _ _)
  | keepAliveWrite => exact absurd rfl (quiet.writes _ _ _)

/-- The session of the connection at `index` goes on from `origin`.  A
connection that is not there yet has shown nothing that its first session would
not show. -/
structure ServedAt (origin : KeepAliveSession) (index : Nat) (socket : ReconnectingWebSocket) :
    Prop where
  present : forall found, socket.connections[index]? = some found ->
    Served origin found (keepAliveEvents index socket.log)
  absent : socket.connections.length ≤ index ->
    Served origin .new (keepAliveEvents index socket.log)

namespace ServedAt

theorem of_quiet (served : ServedAt origin index socket)
    (effect : Step maxRetries socket action after) (quiet : Quiet action) :
    ServedAt origin index after := by
  have silent : keepAliveEvents index after.log = keepAliveEvents index socket.log :=
    effect.keepAliveEvents quiet
  refine ⟨?_, ?_⟩
  · have every : forall there found, after.connections[there]? = some found -> there = index ->
        Served origin found (keepAliveEvents index socket.log) := by
      refine @Step.forall_connections _ _ _ _
        (fun there found => there = index ->
          Served origin found (keepAliveEvents index socket.log)) _ effect ?_ ?_ ?_ ?_ ?_ ?_ ?_ ?_
      · rintro there found located rfl
        exact served.present found located
      · exact fun _ _ => id
      · rintro rfl
        exact served.absent le_rfl
      · intro there found call loop rests earlier here
        exact (earlier here).of_readLoop (by rw [rests]; rfl) loop
      · intro there found replaced _ _ polled earlier here
        exact polled.served (earlier here)
      · intro there found replaced _ _ polled earlier here
        exact polled.served (earlier here)
      · exact fun there stream _ _ _ polls => absurd polls (quiet.reads there stream)
      · exact fun there timeout sink _ _ _ polls => absurd polls (quiet.writes there timeout sink)
    rw [silent]
    exact fun found located => every index found located rfl
  · intro beyond
    rw [silent]
    exact served.absent (effect.connections.trans beyond)

/-- A poll of one keepalive, seen from all connections. -/
theorem of_poll {ws : WebSocketKeepAlive} {shown : List KeepAliveEvent}
    (served : ServedAt origin index socket)
    (located : socket.connections[there]? = some connection) (call : KeepAliveSession.Action)
    (polls : forall session : KeepAliveSession, session.ws = connection.ws ->
      session.held = connection.held ->
        KeepAliveSession.step session call = session.polled (some (ws, shown))) :
    ServedAt origin index ((socket.setConnection there { connection with ws := ws }).emit
      (shown.map (.keepAlive there))) := by
  have inside := (List.getElem?_eq_some_iff.mp located).1
  refine ⟨fun found placed => ?_, fun beyond => ?_⟩
  · rw [emit_log, keepAliveEvents_append]
    rcases getElem?_set_cases placed with ⟨here, moved⟩ | ⟨different, old⟩
    · subst here moved
      rw [keepAliveEvents_here]
      exact (served.present connection located).of_poll call polls
    · rw [keepAliveEvents_there different, List.append_nil]
      exact served.present found old
  · simp only [emit_connections, setConnection_connections, List.length_set] at beyond
    rw [emit_log, keepAliveEvents_append, keepAliveEvents_there (by omega), List.append_nil]
    exact served.absent beyond

theorem of_step (served : ServedAt origin index socket)
    (taken : step maxRetries socket action = some after) : ServedAt origin index after := by
  have effect := step_spec taken
  cases action with
  | keepAliveRead there stream =>
      cases located : socket.connections[there]? with
      | none => simp only [step, located, reduceCtorEq] at taken
      | some connection =>
          simp only [step, located] at taken
          rcases keepAlive_some taken with ⟨ws, shown, polled, rfl⟩
          refine served.of_poll located (.read stream) fun session same held => ?_
          rw [KeepAliveSession.step, same, held, polled]
  | keepAliveWrite there timeout sink =>
      cases located : socket.connections[there]? with
      | none => simp only [step, located, reduceCtorEq] at taken
      | some connection =>
          simp only [step, located] at taken
          rcases keepAlive_some taken with ⟨ws, shown, polled, rfl⟩
          refine served.of_poll located (.write timeout sink) fun session same held => ?_
          rw [KeepAliveSession.step, same, held, polled]
  | _ =>
      refine served.of_quiet effect ⟨?_, ?_⟩
      · intro there stream polls
        cases polls
      · intro there timeout sink polls
        cases polls

theorem of_reaches {allowed : ReconnectingWebSocket -> Action -> Prop}
    {later : ReconnectingWebSocket} (served : ServedAt origin index socket)
    (onwards : Reaches (step maxRetries) allowed socket later) : ServedAt origin index later := by
  apply onwards.invariant
  · exact served
  · intro before action after _ served _ taken
    exact served.of_step taken

theorem initial : ServedAt .new index .build := by
  refine ⟨fun found located => ?_, fun _ => .new⟩
  simp only [ReconnectingWebSocket.build, List.getElem?_nil, reduceCtorEq] at located

/-- The session that serves a connection goes on as long as the connection is
in the table, and it stays there. -/
theorem onwards {allowed : ReconnectingWebSocket -> Action -> Prop}
    {later : ReconnectingWebSocket} (present : socket.connections[index]? = some connection)
    (serves : Serves session connection (keepAliveEvents index socket.log))
    (onwards : Reaches (step maxRetries) allowed socket later) :
    Exists fun found => later.connections[index]? = some found ∧
      Served session found (keepAliveEvents index later.log) := by
  have served : ServedAt session index socket := by
    refine ⟨fun found located => ?_, fun beyond => ?_⟩
    · rw [present, Option.some.injEq] at located
      exact located ▸ ⟨session, .refl, serves⟩
    · rw [List.getElem?_eq_none beyond] at present
      cases present
  have inside : index < later.connections.length := by
    refine @Reaches.invariant _ _ _ _ _ _ (fun state => index < state.connections.length) onwards
      ?_ ?_
    · exact (List.getElem?_eq_some_iff.mp present).1
    · intro before action after _ inside _ taken
      exact inside.trans_le (step_spec taken).connections
  exact ⟨_, List.getElem?_eq_getElem inside,
    (served.of_reaches onwards).present _ (List.getElem?_eq_getElem inside)⟩

end ServedAt

/-! ## The laws on every connection -/

variable {later : ReconnectingWebSocket}

/-- What was handed to the sink of a connection. -/
def sinkHanded (index : Nat) (socket : ReconnectingWebSocket) : List Message :=
  (keepAliveEvents index socket.log).filterMap KeepAliveEvent.handedMessage

/-- What the sink of a connection has written. -/
def sinkWritten (index : Nat) (socket : ReconnectingWebSocket) : List Message :=
  (keepAliveEvents index socket.log).filterMap KeepAliveEvent.writtenMessage

/-- The keepalive of every connection is one that its two loops use as anybody
may use a `WebSocketKeepAlive`: a run of it alone leads to the same state and
shows the same, and its users hold as many clones as there are loops. -/
theorem connection_refines_keepAlive (maxRetries : Nat) (socket : ReconnectingWebSocket)
    (reached : Reaches (step maxRetries) anyStep build socket) (index : Nat)
    (connection : Connection) (present : socket.connections[index]? = some connection) :
    Exists fun session => Reaches KeepAliveSession.step anyStep .new session ∧
      Serves session connection (keepAliveEvents index socket.log) :=
  (ServedAt.initial.of_reaches reached).present connection present

/-- Whatever is handed to the sink of a connection is written, in order, but for
one last message, and the sink is closed once, when the write task ends. -/
theorem sink_written_and_closed (maxRetries : Nat) (socket : ReconnectingWebSocket)
    (reached : Reaches (step maxRetries) anyStep build socket) (index : Nat)
    (connection : Connection) (present : socket.connections[index]? = some connection) :
    (Exists fun missing => sinkHanded index socket = sinkWritten index socket ++ missing ∧
      missing.length ≤ 1 ∧
      (connection.ws.writeTask.looping = true -> missing = connection.ws.writeTask.hand)) ∧
    (keepAliveEvents index socket.log).count .sinkClosed =
      if connection.ws.writeTask.running then 0 else 1 := by
  rcases (ServedAt.initial.of_reaches reached).present connection present with
    ⟨session, inside, serves⟩
  have ordered := KeepAliveSession.ordered_of_reaches inside
  have closed := (KeepAliveSession.flagged_of_reaches inside).closed
  have handed := ordered.handed
  have few := ordered.missing_le
  have unfailed := ordered.unfailed
  rw [serves.ws, serves.events] at closed
  simp only [KeepAliveSession.handed, KeepAliveSession.written, KeepAliveSession.failed, serves.ws,
    serves.events] at handed few unfailed
  refine ⟨⟨_, handed.trans (List.append_assoc _ _ _), ?_, fun looping => ?_⟩, closed⟩
  · rw [List.length_append]
    exact few
  · rw [unfailed looping]
    rfl

/-- A connection whose keepalive has set its disconnect flag is lost for good:
the flag stays set, and nothing more is handed to the sink of that connection. -/
theorem lost_connection_stays_lost (maxRetries : Nat) (socket later : ReconnectingWebSocket)
    (reached : Reaches (step maxRetries) anyStep build socket) (index : Nat)
    (connection : Connection) (present : socket.connections[index]? = some connection)
    (lost : connection.ws.disconnect.value = true)
    (onwards : Reaches (step maxRetries) anyStep socket later) :
    Exists fun found => later.connections[index]? = some found ∧
      found.ws.disconnect.value = true ∧ sinkHanded index later = sinkHanded index socket := by
  rcases (ServedAt.initial.of_reaches reached).present connection present with
    ⟨session, inside, serves⟩
  have flagged := KeepAliveSession.flagged_of_reaches inside
  have off : session.ws.disconnect.version ≠ 0 := by
    apply flagged.disconnected_iff.mp
    rw [KeepAliveSession.isConnected, serves.ws, lost]
    rfl
  rcases ServedAt.onwards present serves onwards with ⟨found, located, next, goesOn, servesNext⟩
  rcases KeepAliveSession.frozen_of_reaches flagged off goesOn with ⟨still, offNext, _, handed⟩
  refine ⟨found, located, ?_, ?_⟩
  · rw [← servesNext.ws, still.flag, decide_eq_true offNext]
  · simp only [KeepAliveSession.handed, serves.events, servesNext.events] at handed
    exact handed

/-! ## A connection that is lost while a message is queued -/

/-- One message is written and a second one is queued when the stream ends. -/
def streamEnding : List Action :=
  [.connect, .attempted (.user 0) (.ok ()), .readLoop 0, .readLoop 0,
    .send (.text "first"), .pollSend 0, .writeLoop 0, .writeLoop 0,
    .keepAliveWrite 0 false .pending, .keepAliveWrite 0 false (.ready (.ok ())),
    .send (.text "second"), .pollSend 0, .writeLoop 0, .writeLoop 0,
    .keepAliveRead 0 (.ready none), .keepAliveRead 0 .pending]

def streamEnded : ReconnectingWebSocket :=
  (run (step 3) anyStep build streamEnding).get rfl

def lostConnection : Connection :=
  streamEnded.connections.head (by decide)

theorem streamEnded_reached : Reaches (step 3) anyStep build streamEnded :=
  reaches_get_run streamEnding rfl

theorem connection_refines_keepAlive_streamEnded : Exists fun session =>
    Reaches KeepAliveSession.step anyStep .new session ∧
      Serves session lostConnection (keepAliveEvents 0 streamEnded.log) :=
  connection_refines_keepAlive 3 streamEnded streamEnded_reached 0 lostConnection rfl

theorem sink_written_and_closed_streamEnded :
    (keepAliveEvents 0 streamEnded.log).count .sinkClosed = 0 :=
  (sink_written_and_closed 3 streamEnded streamEnded_reached 0 lostConnection rfl).2

/-- The second message is not handed to the sink. -/
theorem lost_connection_stays_lost_streamEnded :
    sinkHanded 0 ((run (step 3) anyStep streamEnded
      [.keepAliveWrite 0 false .pending, .keepAliveWrite 0 false .pending]).get rfl) =
        [.text "first"] := by
  rcases lost_connection_stays_lost 3 streamEnded _ streamEnded_reached 0 lostConnection rfl rfl
    (reaches_get_run [.keepAliveWrite 0 false .pending, .keepAliveWrite 0 false .pending] rfl) with
    ⟨_, _, _, handed⟩
  exact handed

end ReconnectingWebSocket
end WebSocket
end Fpd
