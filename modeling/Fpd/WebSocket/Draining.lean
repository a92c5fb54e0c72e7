import Fpd.WebSocket.Sessions

namespace Fpd
namespace WebSocket

open Async

/-!
# What a connection can still write

A message that has been accepted waits in the outgoing channel, or in the retry
channel if a connection has given it back.  From there the write loop of some
connection takes it to the keepalive, whose write task hands it to the sink.  As
long as a connection is up, its write loop and its write task need nobody else
to bring all that to the sink, in the order in which it stands in line, if the
sink takes what it is given.
-/

namespace WebSocketKeepAlive

/-- A connected write task that does not wait for its users writes what is in
its hands, or takes up the next message. -/
theorem writeLoop_flows {ws : WebSocketKeepAlive} (looping : ws.writeTask.looping = true)
    (current : ws.disconnect.version = ws.writeTask.seen) (busy : ¬ ws.Waits true) :
    Exists fun after => Exists fun events =>
      ws.writeLoop true false (.ready (.ok ())) = some (after, events) ∧
        after.writeTask.looping = true ∧ after.disconnect = ws.disconnect ∧
        events.filterMap KeepAliveEvent.writtenMessage ++
          (after.writeTask.hand ++ after.outgoing.queue) =
            ws.writeTask.hand ++ ws.outgoing.queue ∧
        after.remaining < ws.remaining := by
  unfold writeLoop
  cases rests : ws.writeTask with
  | selecting seen =>
      rw [rests, KeepAliveWrite.seen] at current
      have unchanged : ws.disconnect.changed true seen = .pending :=
        (Watch.changed_eq_pending_iff _ _ _).mpr ⟨current, rfl⟩
      cases taken : ws.outgoing.tryRecv with
      | none =>
          have drained := (Channel.tryRecv_eq_none_iff _).mp taken
          exact absurd ⟨current ▸ rests, drained, rfl⟩ busy
      | some pair =>
          rcases pair with ⟨message, outgoing⟩
          have head := (Channel.tryRecv_eq_some_iff _ _ _).mp taken
          simp only [unchanged]
          refine ⟨_, _, rfl, rfl, rfl, ?_, ?_⟩
          · rw [head]
            rfl
          · simp only [remaining, rests, head, List.length_cons, KeepAliveWrite.remaining]
            omega
  | sending message seen =>
      refine ⟨_, _, rfl, rfl, rfl, rfl, ?_⟩
      simp only [remaining, rests, KeepAliveWrite.remaining]
      omega
  | pinging seen =>
      refine ⟨_, _, rfl, rfl, rfl, rfl, ?_⟩
      simp only [remaining, rests, KeepAliveWrite.remaining]
      omega
  | _ =>
      rw [rests] at looping
      cases looping

end WebSocketKeepAlive

namespace Connection

/-- The write loop and the write task take messages, and the keepalive is
connected. -/
structure Up (connection : Connection) : Prop where
  writeLoop : connection.writeLoop.looping = true
  writeTask : connection.ws.writeTask.looping = true
  connected : connection.ws.disconnect.value = false

/-- What the connection has taken and not written, the next one first. -/
def pending (connection : Connection) : List Message :=
  connection.ws.writeTask.hand ++ connection.ws.outgoing.queue ++ connection.writeLoop.hand

end Connection

namespace ReconnectingWebSocket

variable {socket next : ReconnectingWebSocket} {maxRetries index : Nat}
  {connection found : Connection}

/-- What the connection would write if nothing else happened. -/
def inLine (socket : ReconnectingWebSocket) (connection : Connection) : List Message :=
  connection.pending ++ socket.retry.queue ++ socket.outgoing.queue

/-- How many polls that takes at most. -/
def toWrite (socket : ReconnectingWebSocket) (connection : Connection) : Nat :=
  4 * (socket.retry.queue.length + socket.outgoing.queue.length) +
    connection.writeLoop.remaining + connection.ws.remaining

/-- A poll with which a connection writes, by a sink that takes what it is given. -/
inductive WritePoll (index : Nat) : Action -> Prop
  | writeLoop : WritePoll index (.writeLoop index)
  | keepAliveWrite : WritePoll index (.keepAliveWrite index false (.ready (.ok ())))

/-- The connection stays up, and its sink gets nearer to the end of the line. -/
structure Advances (index : Nat) (socket next : ReconnectingWebSocket)
    (connection found : Connection) : Prop where
  present : next.connections[index]? = some found
  up : found.Up
  line : sinkWritten index next ++ next.inLine found =
    sinkWritten index socket ++ socket.inLine connection
  sends : next.sends = socket.sends
  less : next.toWrite found < socket.toWrite connection

/-- The write task is polled. -/
theorem writeTask_advances (maxRetries : Nat)
    (present : socket.connections[index]? = some connection) (up : connection.Up)
    (current : connection.ws.disconnect.version = connection.ws.writeTask.seen)
    (busy : ¬ connection.ws.Waits true) : Exists fun next => Exists fun found =>
      step maxRetries socket (.keepAliveWrite index false (.ready (.ok ()))) = some next ∧
        Advances index socket next connection found := by
  have held : connection.held = true := by
    have loops := up.writeLoop
    rw [Connection.held, Bool.or_eq_true]
    cases rests : connection.writeLoop <;> rw [rests] at loops <;>
      first | exact Or.inr rfl | cases loops
  rcases WebSocketKeepAlive.writeLoop_flows up.writeTask current busy with
    ⟨ws, events, polled, looping, same, line, less⟩
  refine ⟨_, { connection with ws := ws }, by simp only [step, present, held, polled]; rfl, ?_⟩
  exact
    { present := getElem?_set_here present
      up := ⟨up.writeLoop, looping, by rw [same]; exact up.connected⟩
      line := by
        have whole := congrArg (fun front => sinkWritten index socket ++
          (front ++ (connection.writeLoop.hand ++ (socket.retry.queue ++ socket.outgoing.queue))))
          line
        simpa only [sinkWritten, inLine, Connection.pending, emit_log, emit_retry, emit_outgoing,
          setConnection_log, setConnection_retry, setConnection_outgoing, keepAliveEvents_append,
          keepAliveEvents_here, List.filterMap_append, List.append_assoc] using whole
      sends := rfl
      less := Nat.add_lt_add_left less _ }

/-- The write loop takes the next message from the two channels. -/
theorem taking_advances {message : Message} {retry outgoing : Channel Message 1}
    {disconnectSeen closeSeen : Nat} (present : socket.connections[index]? = some connection)
    (up : connection.Up) (rests : connection.writeLoop = .selecting disconnectSeen closeSeen)
    (head : socket.retry.queue ++ socket.outgoing.queue =
      message :: (retry.queue ++ outgoing.queue)) :
    Advances index socket ({ socket with retry := retry, outgoing := outgoing }.setConnection index
      { connection with writeLoop := .sending message disconnectSeen closeSeen }) connection
        { connection with writeLoop := .sending message disconnectSeen closeSeen } where
  present := getElem?_set_here present
  up := ⟨rfl, up.writeTask, up.connected⟩
  line := by
    simp only [sinkWritten, inLine, Connection.pending, rests, WriteLoop.hand,
      setConnection_retry, setConnection_outgoing, setConnection_log, List.append_assoc, head,
      List.nil_append, List.cons_append]
  sends := rfl
  less := by
    have counted := congrArg List.length head
    simp only [List.length_append, List.length_cons] at counted
    simp only [toWrite, rests, WriteLoop.remaining, setConnection_retry, setConnection_outgoing]
    omega

/-- The write loop is polled while the write task waits for it. -/
theorem writeLoop_advances (maxRetries : Nat)
    (present : socket.connections[index]? = some connection) (up : connection.Up)
    (waits : connection.ws.Waits true) (waiting : socket.inLine connection ≠ []) :
    Exists fun next => Exists fun found =>
      step maxRetries socket (.writeLoop index) = some next ∧
        Advances index socket next connection found := by
  obtain ⟨task, drained, _⟩ := waits
  have idle : connection.ws.writeTask.hand ++ connection.ws.outgoing.queue = [] := by
    rw [task, drained]
    rfl
  cases rests : connection.writeLoop with
  | selecting disconnectSeen closeSeen =>
      cases again : socket.retry.tryRecv with
      | some pair =>
          rcases pair with ⟨message, retry⟩
          have head := (Channel.tryRecv_eq_some_iff _ _ _).mp again
          refine ⟨_, _, by simp only [step, present, writeLoop, rests, again]; rfl,
            taking_advances present up rests ?_⟩
          rw [head, List.cons_append]
      | none =>
          have retried := (Channel.tryRecv_eq_none_iff _).mp again
          cases fresh : socket.outgoing.tryRecv with
          | some pair =>
              rcases pair with ⟨message, outgoing⟩
              have head := (Channel.tryRecv_eq_some_iff _ _ _).mp fresh
              refine ⟨_, _, by simp only [step, present, writeLoop, rests, again, fresh]; rfl,
                taking_advances present up rests ?_⟩
              rw [retried, head, List.nil_append, List.nil_append]
          | none =>
              have drainedAll := (Channel.tryRecv_eq_none_iff _).mp fresh
              apply absurd _ waiting
              simp [inLine, Connection.pending, idle, rests, WriteLoop.hand, retried, drainedAll]
  | sending message disconnectSeen closeSeen =>
      have running : connection.ws.writeTask.running = true := by
        rw [task]
        rfl
      cases sent : connection.ws.outgoing.trySend message with
      | none =>
          have room : connection.ws.outgoing.queue.length < 1 := by
            rw [drained]
            exact Nat.one_pos
          simp [Channel.trySend, room] at sent
      | some outgoing =>
          have appended := ((Channel.trySend_eq_some_iff _ _ _).mp sent).2
          rw [drained, List.nil_append] at appended
          refine ⟨_, { connection with
            ws := { connection.ws with outgoing := outgoing }
            writeLoop := .selecting disconnectSeen closeSeen },
            by simp only [step, present, writeLoop, rests, WebSocketKeepAlive.outgoingSend, running,
              sent, if_true]; rfl, ?_⟩
          exact
            { present := getElem?_set_here present
              up := ⟨rfl, up.writeTask, up.connected⟩
              line := by
                simp [sinkWritten, inLine, Connection.pending, task, rests, WriteLoop.hand,
                  KeepAliveWrite.hand, drained, appended]
              sends := rfl
              less := by
                simp only [toWrite, rests, WriteLoop.remaining, WebSocketKeepAlive.remaining,
                  appended, drained, List.length_singleton, List.length_nil, setConnection_retry,
                  setConnection_outgoing]
                omega }
  | _ =>
      have loops := up.writeLoop
      rw [rests] at loops
      cases loops

/-- As long as something stands in line, a connection that is up can write it. -/
theorem writePoll_advances (reached : Reaches (step maxRetries) anyStep build socket)
    (present : socket.connections[index]? = some connection) (up : connection.Up)
    (waiting : socket.inLine connection ≠ []) :
    Exists fun action => Exists fun next => Exists fun found => WritePoll index action ∧
      step maxRetries socket action = some next ∧
        Advances index socket next connection found := by
  by_cases waits : connection.ws.Waits true
  · rcases writeLoop_advances maxRetries present up waits waiting with
      ⟨next, found, taken, advances⟩
    exact ⟨_, next, found, .writeLoop, taken, advances⟩
  · rcases (ServedAt.initial.of_reaches reached).present connection present with
      ⟨session, inside, serves⟩
    have flagged := KeepAliveSession.flagged_of_reaches inside
    have current : connection.ws.disconnect.version = connection.ws.writeTask.seen := by
      have flag := flagged.flag
      rw [serves.ws, up.connected, eq_comm, decide_eq_false_iff_not, not_not] at flag
      rw [flag, ← serves.ws, flagged.seen]
    rcases writeTask_advances maxRetries present up current waits with
      ⟨next, found, taken, advances⟩
    exact ⟨_, next, found, .keepAliveWrite, taken, advances⟩

/-- A connection is up, and `line` is what its sink has got and what stands in
line for it. -/
def Drains (maxRetries index : Nat) (line : List Message) (socket : ReconnectingWebSocket) :
    Prop :=
  Reaches (step maxRetries) anyStep build socket ∧ Exists fun connection =>
    socket.connections[index]? = some connection ∧ connection.Up ∧
      sinkWritten index socket ++ socket.inLine connection = line

/-- As long as a connection is up, polls of its write loop and its write task are
enough to write everything that has been accepted and not been taken by another
connection, in the order in which it stands in line. -/
theorem accepted_can_be_written (maxRetries : Nat) (socket : ReconnectingWebSocket)
    (reached : Reaches (step maxRetries) anyStep build socket) (index : Nat)
    (connection : Connection) (present : socket.connections[index]? = some connection)
    (up : connection.Up) : Exists fun last =>
      Reaches (step maxRetries) (fun _ => WritePoll index) socket last ∧
        sinkWritten index last = sinkWritten index socket ++ socket.inLine connection ∧
        last.retry.queue = [] ∧ last.outgoing.queue = [] := by
  refine @exists_reaches_of_weight _ _ (step maxRetries) (fun _ => WritePoll index) socket
    (Drains maxRetries index (sinkWritten index socket ++ socket.inLine connection))
    (fun last => sinkWritten index last = sinkWritten index socket ++ socket.inLine connection ∧
      last.retry.queue = [] ∧ last.outgoing.queue = [])
    (fun state => state.connections[index]?.elim 0 state.toWrite) ?_
    ⟨reached, connection, present, up, rfl⟩
  rintro state ⟨earlier, found, located, stillUp, line⟩
  by_cases nothing : state.inLine found = []
  · rw [nothing, List.append_nil] at line
    simp only [inLine, List.append_eq_nil_iff] at nothing
    exact Or.inl ⟨line, nothing.1.2, nothing.2⟩
  · rcases writePoll_advances earlier located stillUp nothing with
      ⟨action, next, moved, poll, taken, advances⟩
    refine Or.inr ⟨action, next, poll, taken, ⟨.tail earlier trivial taken, moved,
      advances.present, advances.up, advances.line.trans line⟩, ?_⟩
    rw [located, advances.present]
    exact advances.less

/-! ## Two messages on their way -/

theorem accepted_can_be_written_queued : Exists fun last =>
    Reaches (step 10) (fun _ => WritePoll 0) queued last ∧
      sinkWritten 0 last = [.text "1", .text "2"] ∧
        last.retry.queue = [] ∧ last.outgoing.queue = [] :=
  accepted_can_be_written 10 queued (queued_reached.mono fun _ _ _ => trivial) 0
    (queued.connections.head (by decide)) rfl ⟨rfl, rfl, rfl⟩

end ReconnectingWebSocket
end WebSocket
end Fpd
