import Fpd.WebSocket.Sessions

namespace Fpd
namespace WebSocket

open Async

/-!
# A lost connection is replaced

When the stream of a connection ends, or its write task gives up, what has
arrived by then is still received.  Only after that does the read loop find the
keepalive gone, and unless there has been a Close frame it connects again.  It
does not need anybody for that but users who go on receiving, since an item that
nobody receives holds up all that comes after it.
-/

namespace KeepAliveSession

/-- The read task never sees the disconnect flag change, since it leaves then. -/
theorem readTask_seen {session : KeepAliveSession} (reached : Reaches step anyStep new session) :
    session.ws.readTask.seen = 0 := by
  apply reached.invariant
  · rfl
  · intro before action after _ unseen _ taken
    cases step_spec taken with
    | read stream ws events effect =>
        cases effect with
        | swallowed => exact unseen
        | received item seen rests =>
            rw [rests] at unseen
            exact unseen
        | forwarded item seen incoming rests =>
            rw [rests] at unseen
            exact unseen
        | _ => rfl
    | write timeout sink ws events effect => exact effect.readTask ▸ unseen
    | _ => exact unseen

end KeepAliveSession

/-- How many polls the read task is away from its end, when the connection is
lost. -/
def KeepAliveRead.toEnd : KeepAliveRead -> Nat
  | .selecting _ => 2
  | .forwarding _ _ => 2
  | .cleaningUp => 1
  | .finished => 0

/-- How many polls a read loop is away from its `select!`. -/
def ReadLoop.toSelect : ReadLoop -> Nat
  | .spawned => 2
  | .starting => 1
  | _ => 0

namespace WebSocketKeepAlive

/-- The keepalive is disconnected, or its read task has left its loop. -/
def Lost (ws : WebSocketKeepAlive) : Prop :=
  ws.disconnect.value = true ∨ ws.readTask.listening = false

/-- How many polls it takes at most until a user has received what has arrived
on the keepalive and its read task has ended. -/
def toRead (ws : WebSocketKeepAlive) : Nat :=
  5 * ws.readTask.hand.length + 4 * ws.incoming.queue.length + ws.readTask.toEnd

/-- The read task of a keepalive that is lost passes on what is in its hands, or
gets nearer to its end. -/
theorem readLoop_ends {ws : WebSocketKeepAlive} (lost : ws.Lost)
    (flag : ws.disconnect.value = true -> ws.disconnect.version ≠ 0)
    (unseen : ws.readTask.seen = 0) (room : ws.incoming.queue = [])
    (running : ws.readTask ≠ .finished) : Exists fun after =>
      ws.readLoop true .pending = some (after, []) ∧ after.Lost ∧
        after.incoming.queue ++ after.readTask.hand = ws.incoming.queue ++ ws.readTask.hand ∧
        after.toRead < ws.toRead := by
  unfold readLoop
  cases rests : ws.readTask with
  | selecting seen =>
      have off : ws.disconnect.value = true := lost.resolve_right fun left => by
        rw [rests] at left
        cases left
      rw [rests, KeepAliveRead.seen] at unseen
      have different : ws.disconnect.version ≠ seen := unseen ▸ flag off
      refine ⟨{ ws with readTask := .cleaningUp },
        by simp only [Watch.changed_of_ne different], Or.inl off, rfl, ?_⟩
      simp [toRead, rests, KeepAliveRead.hand, KeepAliveRead.toEnd]
  | forwarding item seen =>
      have off : ws.disconnect.value = true := lost.resolve_right fun left => by
        rw [rests] at left
        cases left
      cases sent : ws.incoming.trySend item with
      | none => simp [Channel.trySend, room] at sent
      | some incoming =>
          have appended := ((Channel.trySend_eq_some_iff _ _ _).mp sent).2
          refine ⟨{ ws with incoming := incoming, readTask := .selecting seen },
            by simp only [sent, if_true], Or.inl off, ?_, ?_⟩
          · simp only [appended, KeepAliveRead.hand, List.append_nil]
          · simp [toRead, rests, room, appended, KeepAliveRead.hand, KeepAliveRead.toEnd]
  | cleaningUp =>
      refine ⟨_, rfl, Or.inr rfl, rfl, ?_⟩
      simp [toRead, rests, KeepAliveRead.hand, KeepAliveRead.toEnd]
  | finished => exact absurd rests running

end WebSocketKeepAlive

namespace ReconnectingWebSocket

variable {socket next : ReconnectingWebSocket} {maxRetries index : Nat}
  {connection found : Connection}

/-- A poll of a task that reads from the connection, which has nothing new, or a
call of `recv`. -/
inductive ReadPoll (index : Nat) : Action -> Prop
  | keepAliveRead : ReadPoll index (.keepAliveRead index .pending)
  | readLoop : ReadPoll index (.readLoop index)
  | recv : ReadPoll index .recv
  | pollRecv : ReadPoll index (.pollRecv 0)

/-- What users are yet to receive of what has arrived on the connection.  Nobody
is told of a reset without closing handshake. -/
def toReceive (socket : ReconnectingWebSocket) (connection : Connection) : List Item :=
  (socket.incoming.queue ++ connection.transit).filter fun item => !item.isReset

/-- How many polls that takes at most. -/
def toRead (socket : ReconnectingWebSocket) (connection : Connection) : Nat :=
  connection.ws.toRead + 3 * connection.readLoop.hand.length + connection.readLoop.toSelect +
    2 * socket.incoming.queue.length + (1 - socket.recvs.length)

/-- The connection is lost without a Close frame, and its read loop has not left
its `loop`. -/
structure Loses (index : Nat) (line : List Item) (socket : ReconnectingWebSocket)
    (connection : Connection) : Prop where
  present : socket.connections[index]? = some connection
  used : 0 < socket.handles
  looping : connection.readLoop.looping = true
  lost : connection.ws.Lost
  unclosed : forall item, item ∈ connection.transit -> item.isClose = false
  line : received socket.log ++ socket.toReceive connection = line

namespace Loses

variable {line : List Item}

theorem alive (loses : Loses index line socket connection) : socket.innerAlive = true :=
  innerAlive_of_handle loses.used

theorem held (loses : Loses index line socket connection) : connection.held = true := by
  have loops := loses.looping
  rw [Connection.held, Bool.or_eq_true]
  cases rests : connection.readLoop <;> rw [rests] at loops <;>
    first | exact Or.inl rfl | cases loops

/-- Nothing gets lost on the way to the shared channel. -/
theorem passed (loses : Loses index line socket connection) (empty : socket.incoming.queue = [])
    (present : next.connections[index]? = some found) (handles : next.handles = socket.handles)
    (silent : received next.log = received socket.log) (looping : found.readLoop.looping = true)
    (lost : found.ws.Lost)
    (same : next.incoming.queue ++ found.transit = connection.transit) :
    Loses index line next found := by
  refine ⟨present, handles ▸ loses.used, looping, lost, fun item member => ?_, ?_⟩
  · apply loses.unclosed
    rw [← same]
    exact List.mem_append_right _ member
  · rw [toReceive, same, silent, ← loses.line, toReceive, empty, List.nil_append]

/-- A user calls `recv`, or a call takes the next item out of the shared channel. -/
theorem recv_nears (maxRetries : Nat) (loses : Loses index line socket connection)
    (waiting : socket.incoming.queue ≠ []) : Exists fun action => Exists fun next =>
      ReadPoll index action ∧ step maxRetries socket action = some next ∧
        Loses index line next connection ∧ next.toRead connection < socket.toRead connection := by
  cases calls : socket.recvs with
  | nil =>
      refine ⟨.recv, { socket with recvs := socket.recvs ++ [0] }, .recv,
        by simp only [step, loses.used, if_true], ?_, ?_⟩
      · exact ⟨loses.present, loses.used, loses.looping, loses.lost, loses.unclosed, loses.line⟩
      · simp [toRead, calls]
  | cons closeSeen others =>
      cases taken : socket.incoming.tryRecv with
      | none => exact absurd ((Channel.tryRecv_eq_none_iff _).mp taken) waiting
      | some pair =>
          rcases pair with ⟨item, incoming⟩
          have head := (Channel.tryRecv_eq_some_iff _ _ _).mp taken
          have call : socket.recvs[0]? = some closeSeen := by rw [calls]; rfl
          cases reset : item.isReset with
          | true =>
              refine ⟨.pollRecv 0, { socket with incoming := incoming }.emit [.delivered item],
                .pollRecv,
                by simp only [step, pollRecv, call, taken, reset, if_true, Option.map_some], ?_, ?_⟩
              · refine ⟨loses.present, loses.used, loses.looping, loses.lost, loses.unclosed, ?_⟩
                rw [← loses.line]
                simp [toReceive, head, reset, received]
              · simp [toRead, head]
          | false =>
              refine ⟨.pollRecv 0, ({ socket with incoming := incoming }.emit
                [.delivered item]).endRecv 0 (some item), .pollRecv,
                by simp only [step, pollRecv, call, taken, reset, Bool.false_eq_true, if_false,
                  Option.map_some], ?_, ?_⟩
              · refine ⟨loses.present, loses.used, loses.looping, loses.lost, loses.unclosed, ?_⟩
                rw [← loses.line]
                simp [toReceive, endRecv, head, reset, received]
              · simp only [toRead, endRecv, emit, head, calls, List.length_cons]
                omega

/-- The read loop starts, takes an item from the keepalive or forwards it. -/
theorem readLoop_nears (maxRetries : Nat) (loses : Loses index line socket connection)
    (empty : socket.incoming.queue = [])
    (busy : connection.ws.incoming.queue ≠ [] ∨
      forall disconnectSeen closeSeen, connection.readLoop ≠ .selecting disconnectSeen closeSeen) :
    Exists fun next => Exists fun found => step maxRetries socket (.readLoop index) = some next ∧
      Loses index line next found ∧ next.toRead found < socket.toRead connection := by
  cases rests : connection.readLoop with
  | spawned =>
      refine ⟨_, { connection with readLoop := .starting },
        by simp only [step, loses.present, readLoop, rests, loses.alive, if_true]; rfl, ?_, ?_⟩
      · refine loses.passed empty (getElem?_set_here loses.present) rfl rfl rfl loses.lost ?_
        rw [setConnection_incoming, empty, Connection.transit, Connection.transit, rests]
        rfl
      · simp [toRead, rests, ReadLoop.hand, ReadLoop.toSelect]
  | starting =>
      refine ⟨_, { connection with readLoop := .selecting 0 0 },
        by simp only [step, loses.present, readLoop, rests]; rfl, ?_, ?_⟩
      · refine loses.passed empty (getElem?_set_here loses.present) rfl rfl rfl loses.lost ?_
        rw [setConnection_incoming, empty, Connection.transit, Connection.transit, rests]
        rfl
      · simp [toRead, rests, ReadLoop.hand, ReadLoop.toSelect]
  | forwarding item disconnectSeen closeSeen =>
      cases sent : socket.incoming.trySend item with
      | none => simp [Channel.trySend, empty] at sent
      | some incoming =>
          have appended := ((Channel.trySend_eq_some_iff _ _ _).mp sent).2
          rw [empty, List.nil_append] at appended
          refine ⟨_, { connection with readLoop := .selecting disconnectSeen closeSeen },
            by simp only [step, loses.present, readLoop, rests, loses.alive, sent, if_true]; rfl,
            ?_, ?_⟩
          · refine loses.passed empty (getElem?_set_here loses.present) rfl ?_ rfl loses.lost ?_
            · simp [received]
            · simp [Connection.transit, rests, ReadLoop.hand, appended]
          · simp only [toRead, rests, ReadLoop.hand, ReadLoop.toSelect, empty, appended, emit,
              setConnection, List.length_singleton, List.length_nil]
            omega
  | selecting disconnectSeen closeSeen =>
      have queued : connection.ws.incoming.queue ≠ [] :=
        busy.resolve_right fun elsewhere => elsewhere _ _ rests
      cases taken : connection.ws.incoming.tryRecv with
      | none => exact absurd ((Channel.tryRecv_eq_none_iff _).mp taken) queued
      | some pair =>
          rcases pair with ⟨item, incoming⟩
          have head := (Channel.tryRecv_eq_some_iff _ _ _).mp taken
          have data : item.isClose = false := by
            apply loses.unclosed
            simp [Connection.transit, head]
          refine ⟨_, { connection with
            ws := { connection.ws with incoming := incoming }
            readLoop := .forwarding item disconnectSeen closeSeen },
            by simp only [step, loses.present, readLoop, rests, WebSocketKeepAlive.recv, taken,
              data, Bool.false_eq_true, if_false]; rfl, ?_, ?_⟩
          · refine loses.passed empty (getElem?_set_here loses.present) rfl rfl rfl loses.lost ?_
            simp [Connection.transit, rests, ReadLoop.hand, empty, head]
          · simp only [toRead, WebSocketKeepAlive.toRead, rests, ReadLoop.hand, ReadLoop.toSelect,
              head, setConnection, List.length_cons, List.length_nil]
            omega
  | _ =>
      have loops := loses.looping
      rw [rests] at loops
      cases loops

/-- The read task of the keepalive is polled. -/
theorem readTask_nears (maxRetries : Nat) (loses : Loses index line socket connection)
    (empty : socket.incoming.queue = [])
    (flag : connection.ws.disconnect.value = true -> connection.ws.disconnect.version ≠ 0)
    (unseen : connection.ws.readTask.seen = 0) (room : connection.ws.incoming.queue = [])
    (running : connection.ws.readTask ≠ .finished) : Exists fun next => Exists fun found =>
      step maxRetries socket (.keepAliveRead index .pending) = some next ∧
        Loses index line next found ∧ next.toRead found < socket.toRead connection := by
  rcases WebSocketKeepAlive.readLoop_ends loses.lost flag unseen room running with
    ⟨ws, polled, lost, same, less⟩
  refine ⟨_, { connection with ws := ws },
    by simp only [step, loses.present, loses.held, polled]; rfl, ?_, ?_⟩
  · refine loses.passed empty (getElem?_set_here loses.present) rfl ?_ loses.looping lost ?_
    · simp
    · simp [Connection.transit, empty, same]
  · simp only [toRead, emit, setConnection]
    omega

end Loses

/-- A state in which the connection is lost and the users will have received `line`. -/
def Ebbs (maxRetries index : Nat) (line : List Item) (socket : ReconnectingWebSocket) : Prop :=
  Reaches (step maxRetries) anyStep build socket ∧ Exists fun connection =>
    Loses index line socket connection

/-- The keepalive is gone and all of `line` has been received. -/
def Ebbed (index : Nat) (line : List Item) (socket : ReconnectingWebSocket) : Prop :=
  socket.innerAlive = true ∧ received socket.log = line ∧ Exists fun connection =>
    socket.connections[index]? = some connection ∧
      connection.ws.recv = .ready (none, connection.ws) ∧
        Exists fun disconnectSeen => Exists fun closeSeen =>
          connection.readLoop = .selecting disconnectSeen closeSeen

/-- As long as something is under way, or the read task has not ended, somebody
can go on. -/
theorem readPoll_nears {line : List Item} (ebbs : Ebbs maxRetries index line socket) :
    Ebbed index line socket ∨ Exists fun action => Exists fun next => ReadPoll index action ∧
      step maxRetries socket action = some next ∧ Ebbs maxRetries index line next ∧
        next.connections[index]?.elim 0 next.toRead <
          socket.connections[index]?.elim 0 socket.toRead := by
  rcases ebbs with ⟨reached, connection, loses⟩
  have onwards {action : Action} {next : ReconnectingWebSocket} {found : Connection}
      (poll : ReadPoll index action) (taken : step maxRetries socket action = some next)
      (again : Loses index line next found) (less : next.toRead found < socket.toRead connection) :
      Exists fun action => Exists fun next => ReadPoll index action ∧
        step maxRetries socket action = some next ∧ Ebbs maxRetries index line next ∧
          next.connections[index]?.elim 0 next.toRead <
            socket.connections[index]?.elim 0 socket.toRead := by
    refine ⟨action, next, poll, taken, ⟨.tail reached trivial taken, found, again⟩, ?_⟩
    rw [loses.present, again.present]
    exact less
  by_cases empty : socket.incoming.queue = []
  · by_cases busy : connection.ws.incoming.queue ≠ [] ∨
        forall disconnectSeen closeSeen, connection.readLoop ≠ .selecting disconnectSeen closeSeen
    · rcases loses.readLoop_nears maxRetries empty busy with ⟨next, found, taken, again, less⟩
      exact Or.inr (onwards .readLoop taken again less)
    · simp only [not_or, not_not, not_forall] at busy
      rcases busy with ⟨drained, disconnectSeen, closeSeen, selecting⟩
      by_cases running : connection.ws.readTask = .finished
      · refine Or.inl ⟨loses.alive, ?_, connection, loses.present, ?_, _, _, selecting⟩
        · rw [← loses.line]
          simp [toReceive, Connection.transit, empty, selecting, ReadLoop.hand, drained, running,
            KeepAliveRead.hand]
        · have taken := (Channel.tryRecv_eq_none_iff _).mpr drained
          simp only [WebSocketKeepAlive.recv, taken, running, KeepAliveRead.running,
            Bool.false_eq_true, if_false]
      · rcases (ServedAt.initial.of_reaches reached).present connection loses.present with
          ⟨session, inside, serves⟩
        have flag := (KeepAliveSession.flagged_of_reaches inside).flag
        have unseen := KeepAliveSession.readTask_seen inside
        rw [serves.ws] at flag unseen
        rcases loses.readTask_nears maxRetries empty (fun off => of_decide_eq_true (flag ▸ off))
          unseen drained running with ⟨next, found, taken, again, less⟩
        exact Or.inr (onwards .keepAliveRead taken again less)
  · rcases loses.recv_nears maxRetries empty with ⟨action, next, poll, taken, again, less⟩
    exact Or.inr (onwards poll taken again less)

/-- The read loop leaves its `loop` and starts to connect. -/
theorem Ebbed.reconnects {line : List Item} (maxRetries : Nat) (ebbed : Ebbed index line socket) :
    Exists fun last => Reaches (step maxRetries) (fun _ => ReadPoll index) socket last ∧
      last.connectCall (.readLoop index) = some (.initiating 0) ∧ received last.log = line := by
  rcases ebbed with ⟨alive, rfl, connection, present, ended, _, _, selecting⟩
  have left : step maxRetries socket (.readLoop index) =
      some (socket.leaveReadLoop index connection true) := by
    simp only [step, present, readLoop, selecting, ended]
  have moved : (socket.leaveReadLoop index connection true).connections[index]? =
      some { connection with readLoop := .publishing true } := by
    rw [leaveReadLoop, alive]
    exact getElem?_set_here present
  refine ⟨_, .tail (.tail .refl .readLoop left) .readLoop
    (by simp only [step, moved, readLoop, if_true]; rfl), ?_, ?_⟩
  · rw [connectCall, emit_connections, setConnection_connections, getElem?_set_here moved]
  · simp [leaveReadLoop, received]

/-- Unless there has been a Close frame, users who go on receiving are all that
it takes for a connection that is lost to be replaced: they receive what has
arrived on it, and then its read loop connects again. -/
theorem lost_connection_reconnects (maxRetries : Nat) (socket : ReconnectingWebSocket)
    (reached : Reaches (step maxRetries) anyStep build socket) (index : Nat)
    (connection : Connection) (present : socket.connections[index]? = some connection)
    (used : 0 < socket.handles) (looping : connection.readLoop.looping = true)
    (lost : connection.ws.Lost)
    (unclosed : forall item, item ∈ connection.transit -> item.isClose = false) :
    Exists fun last => Reaches (step maxRetries) (fun _ => ReadPoll index) socket last ∧
      last.connectCall (.readLoop index) = some (.initiating 0) ∧
      received last.log = received socket.log ++ socket.toReceive connection := by
  rcases @exists_reaches_of_weight _ _ (step maxRetries) (fun _ => ReadPoll index) socket
    (Ebbs maxRetries index (received socket.log ++ socket.toReceive connection))
    (Ebbed index (received socket.log ++ socket.toReceive connection))
    (fun state => state.connections[index]?.elim 0 state.toRead) (fun state => readPoll_nears)
    ⟨reached, connection, present, used, looping, lost, unclosed, rfl⟩ with
    ⟨middle, onwards, ebbed⟩
  rcases ebbed.reconnects maxRetries with ⟨last, leaving, connects, all⟩
  exact ⟨last, onwards.trans leaving, connects, all⟩

/-! ## A ping that fails while two items are under way -/

def pingFailing : List Action :=
  [.connect, .attempted (.user 0) (.ok ()), .readLoop 0, .readLoop 0,
    .keepAliveRead 0 (.ready (some (.ok (.text "first")))), .keepAliveRead 0 .pending,
    .keepAliveRead 0 (.ready (some (.ok (.text "second")))), .keepAliveWrite 0 true .pending,
    .keepAliveWrite 0 false (.ready (.error .connectionClosed)), .keepAliveWrite 0 false .pending]

def pingFailed : ReconnectingWebSocket :=
  (run (step 3) anyStep build pingFailing).get rfl

theorem lost_connection_reconnects_pingFailed : Exists fun last =>
    Reaches (step 3) (fun _ => ReadPoll 0) pingFailed last ∧
      last.connectCall (.readLoop 0) = some (.initiating 0) ∧
        received last.log = [.ok (.text "first"), .ok (.text "second")] :=
  lost_connection_reconnects 3 pingFailed (reaches_get_run pingFailing rfl) 0
    (pingFailed.connections.head (by decide)) rfl (by decide) rfl (Or.inl rfl) (by decide)

end ReconnectingWebSocket
end WebSocket
end Fpd
