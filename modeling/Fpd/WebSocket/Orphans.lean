import Fpd.WebSocket.Frames

namespace Fpd
namespace WebSocket

open Async

/-!
# Connections without their `ReconnectingWebSocket`

When nobody holds `Inner` any more, what is left are the loops and the
keepalives of its connections.  A loop then finds its channels and flags
abandoned, so it cannot wait in its `select!`.  Once both loops of a connection
are gone, so is the last clone of its keepalive, whose write task writes what
it still has and closes the sink.

None of this needs anybody else: the tasks of one connection get there by their
own polls, as long as the sink takes what it is given.
-/

/-! ## What is left to do -/

/-- How many polls the write task is away from its end. -/
def KeepAliveWrite.remaining : KeepAliveWrite -> Nat
  | .selecting _ => 3
  | .sending _ _ => 4
  | .pinging _ => 4
  | .cleaningUp => 2
  | .closing => 1
  | .finished => 0

namespace WebSocketKeepAlive

/-- A message costs one poll to be taken from the channel and one to be
written. -/
def remaining (ws : WebSocketKeepAlive) : Nat :=
  2 * ws.outgoing.queue.length + ws.writeTask.remaining

/-- The write task waits for the clones of the keepalive. -/
def Waits (ws : WebSocketKeepAlive) (held : Bool) : Prop :=
  ws.writeTask = .selecting ws.disconnect.version ∧ ws.outgoing.queue = [] ∧ held = true

theorem writeLoop_goesOn (ws : WebSocketKeepAlive) (held : Bool)
    (running : ws.writeTask.running = true) (busy : ¬ ws.Waits held) :
    Exists fun after => Exists fun events =>
      ws.writeLoop held false (.ready (.ok ())) = some (after, events) ∧
        after.remaining < ws.remaining := by
  have less {task : KeepAliveWrite} (disconnect : Watch Bool)
      (sooner : task.remaining < ws.writeTask.remaining) :
      { ws with disconnect := disconnect, writeTask := task }.remaining < ws.remaining :=
    Nat.add_lt_add_left sooner _
  unfold writeLoop
  cases rests : ws.writeTask with
  | selecting seen =>
      cases changed : ws.disconnect.changed true seen with
      | ready answer =>
          simp only [changed]
          exact ⟨_, _, rfl, less ws.disconnect (by simp [rests, KeepAliveWrite.remaining])⟩
      | pending =>
          have current := ((Watch.changed_eq_pending_iff _ _ _).mp changed).1
          cases taken : ws.outgoing.tryRecv with
          | some pair =>
              rcases pair with ⟨message, outgoing⟩
              have head := (Channel.tryRecv_eq_some_iff _ _ _).mp taken
              simp only [changed]
              refine ⟨_, _, rfl, ?_⟩
              simp only [remaining, rests, head, List.length_cons, KeepAliveWrite.remaining]
              omega
          | none =>
              have drained := (Channel.tryRecv_eq_none_iff _).mp taken
              cases held with
              | true => exact absurd ⟨current ▸ rests, drained, rfl⟩ busy
              | false =>
                  simp only [changed]
                  exact ⟨_, _, rfl, less ws.disconnect (by simp [rests, KeepAliveWrite.remaining])⟩
  | sending message seen =>
      exact ⟨_, _, rfl, less ws.disconnect (by simp [rests, KeepAliveWrite.remaining])⟩
  | pinging seen =>
      exact ⟨_, _, rfl, less ws.disconnect (by simp [rests, KeepAliveWrite.remaining])⟩
  | cleaningUp => exact ⟨_, _, rfl, less _ (by simp [rests, KeepAliveWrite.remaining])⟩
  | closing => exact ⟨_, _, rfl, less ws.disconnect (by simp [rests, KeepAliveWrite.remaining])⟩
  | finished =>
      rw [rests] at running
      cases running

end WebSocketKeepAlive

/-- How many polls a read loop without `Inner` is away from its end at most,
by the version of the disconnect flag. -/
def ReadLoop.remaining (version : Nat) : ReadLoop -> Nat
  | .spawned => 4
  | .selecting disconnectSeen _ => if version = disconnectSeen then 2 else 3
  | .forwarding _ _ _ => 1
  | _ => 0

/-- A message in the hands of a write loop is yet to be put into the channel of
the keepalive. -/
def WriteLoop.remaining : WriteLoop -> Nat
  | .selecting _ _ => 1
  | .sending _ _ _ => 4
  | _ => 0

namespace ReconnectingWebSocket

variable {socket after : ReconnectingWebSocket} {index : Nat} {connection : Connection}
  {maxRetries : Nat}

/-- How many polls of its own a connection is away from the end of its tasks at
most, when `Inner` is gone. -/
def remaining (socket : ReconnectingWebSocket) (index : Nat) : Nat :=
  match socket.connections[index]? with
  | some connection =>
      4 * (socket.retry.queue.length + socket.outgoing.queue.length) +
        connection.readLoop.remaining socket.disconnect.version +
          connection.writeLoop.remaining + connection.ws.remaining
  | none => 0

theorem remaining_of_present (present : socket.connections[index]? = some connection) :
    socket.remaining index =
      4 * (socket.retry.queue.length + socket.outgoing.queue.length) +
        connection.readLoop.remaining socket.disconnect.version +
          connection.writeLoop.remaining + connection.ws.remaining := by
  rw [remaining, present]

theorem unheld_of_dead (dead : socket.innerAlive = false)
    (present : socket.connections[index]? = some connection) : connection.holdsInner = false := by
  rw [Bool.eq_false_iff]
  intro holds
  rw [innerAlive_of_holder present holds] at dead
  cases dead

/-! ## The loops of a connection -/

/-- A read loop without `Inner` can always be polled, and gets closer to its
end. -/
theorem readLoop_goesOn (dead : socket.innerAlive = false)
    (unheld : connection.readLoop.holdsInner = false)
    (running : connection.readLoop.running = true) :
    Exists fun ws => Exists fun loop : ReadLoop =>
      socket.readLoop index connection =
          some (socket.setConnection index { connection with ws := ws, readLoop := loop }) ∧
        loop.remaining socket.disconnect.version <
          connection.readLoop.remaining socket.disconnect.version ∧
        ws.remaining = connection.ws.remaining := by
  unfold readLoop
  have ends {seen closeSeen : Nat} :
      ReadLoop.finished.remaining socket.disconnect.version <
        (ReadLoop.selecting seen closeSeen).remaining socket.disconnect.version := by
    simp only [ReadLoop.remaining]
    split <;> decide
  cases rests : connection.readLoop with
  | spawned =>
      refine ⟨connection.ws, .selecting 0 0, by simp [dead], ?_, rfl⟩
      simp only [ReadLoop.remaining]
      split <;> decide
  | selecting disconnectSeen closeSeen =>
      cases answered : connection.ws.recv with
      | ready pair =>
          rcases pair with ⟨_ | item, ws⟩
          · exact ⟨connection.ws, .finished, by simp [leaveReadLoop, dead], ends, rfl⟩
          · rcases WebSocketKeepAlive.recv_item answered with ⟨incoming, _, rfl⟩
            cases kind : item.isClose with
            | true =>
                exact ⟨{ connection.ws with incoming := incoming }, .finished,
                  by simp [kind, leaveReadLoop, dead], ends, rfl⟩
            | false =>
                refine ⟨{ connection.ws with incoming := incoming },
                  .forwarding item disconnectSeen closeSeen, by simp [kind], ?_, rfl⟩
                simp only [ReadLoop.remaining]
                split <;> decide
      | pending =>
          rcases socket.disconnect.changed_cases false disconnectSeen with
            ⟨_, alive⟩ | ⟨changed, _⟩ | changed
          · cases alive
          · exact ⟨connection.ws, .finished, by simp [changed, leaveReadLoop, dead], ends, rfl⟩
          · cases flag : socket.disconnect.value with
            | true =>
                exact ⟨connection.ws, .finished, by simp [changed, flag, leaveReadLoop, dead],
                  ends, rfl⟩
            | false =>
                refine ⟨connection.ws, .selecting socket.disconnect.version closeSeen,
                  by simp [dead, changed, flag], ?_, rfl⟩
                simp only [ReadLoop.remaining, if_neg (Watch.changed_eq_ok changed), if_true]
                decide
  | forwarding item disconnectSeen closeSeen =>
      exact ⟨connection.ws, .finished, by simp [leaveReadLoop, dead], Nat.one_pos, rfl⟩
  | starting =>
      rw [rests] at unheld
      cases unheld
  | publishing shouldReconnect =>
      rw [rests] at unheld
      cases unheld
  | reconnecting call =>
      rw [rests] at unheld
      cases unheld
  | finished =>
      rw [rests] at running
      cases running

/-- A write loop in its `select!` without `Inner` can always be polled: it takes
a message, or it ends. -/
theorem writeLoop_selecting (dead : socket.innerAlive = false) {disconnectSeen closeSeen : Nat}
    (rests : connection.writeLoop = .selecting disconnectSeen closeSeen) :
    Exists fun loop : WriteLoop => Exists fun retry => Exists fun outgoing =>
      socket.writeLoop index connection =
          some ({ socket with retry := retry, outgoing := outgoing }.setConnection index
            { connection with writeLoop := loop }) ∧
        4 * (retry.queue.length + outgoing.queue.length) + loop.remaining <
          4 * (socket.retry.queue.length + socket.outgoing.queue.length) +
            connection.writeLoop.remaining ∧
        (socket.retry.queue = [] -> socket.outgoing.queue = [] -> loop = .finished) := by
  cases again : socket.retry.tryRecv with
  | some pair =>
      rcases pair with ⟨message, retry⟩
      have head := (Channel.tryRecv_eq_some_iff _ _ _).mp again
      refine ⟨.sending message disconnectSeen closeSeen, retry, socket.outgoing,
        by simp [writeLoop, rests, again], ?_, by simp [head]⟩
      simp only [rests, WriteLoop.remaining, head, List.length_cons]
      omega
  | none =>
      cases fresh : socket.outgoing.tryRecv with
      | some pair =>
          rcases pair with ⟨message, outgoing⟩
          have head := (Channel.tryRecv_eq_some_iff _ _ _).mp fresh
          refine ⟨.sending message disconnectSeen closeSeen, socket.retry, outgoing,
            by simp [writeLoop, rests, again, fresh], ?_, by simp [head]⟩
          simp only [rests, WriteLoop.remaining, head, List.length_cons]
          omega
      | none =>
          refine ⟨.finished, socket.retry, socket.outgoing,
            by simp [writeLoop, rests, again, fresh, dead, leaveWriteLoop], ?_, fun _ _ => rfl⟩
          simp only [rests, WriteLoop.remaining]
          omega

/-- There is room in an empty channel of a keepalive whose write task runs. -/
theorem writeLoop_sending {message : Message} {disconnectSeen closeSeen : Nat}
    (rests : connection.writeLoop = .sending message disconnectSeen closeSeen)
    (running : connection.ws.writeTask.running = true)
    (drained : connection.ws.outgoing.queue = []) :
    Exists fun ws =>
      socket.writeLoop index connection = some (socket.setConnection index
        { connection with ws := ws, writeLoop := .selecting disconnectSeen closeSeen }) ∧
        ws.remaining = connection.ws.remaining + 2 := by
  cases sent : connection.ws.outgoing.trySend message with
  | none =>
      have room : connection.ws.outgoing.queue.length < 1 := by rw [drained]; exact Nat.one_pos
      simp [Channel.trySend, room] at sent
  | some outgoing =>
      have appended := ((Channel.trySend_eq_some_iff _ _ _).mp sent).2
      refine ⟨{ connection.ws with outgoing := outgoing },
        by simp [writeLoop, rests, WebSocketKeepAlive.outgoingSend, running, sent], ?_⟩
      simp only [WebSocketKeepAlive.remaining, appended, drained, List.nil_append,
        List.length_singleton, List.length_nil]
      omega

/-! ## The sink of every connection -/

/-- A write loop has a message to queue again only when the write task has ended,
and the write task has ended only after it has closed the sink. -/
structure Closes (socket : ReconnectingWebSocket) (index : Nat) (connection : Connection) :
    Prop where
  requeues : forall message, connection.writeLoop = .requeuing message ->
    connection.ws.writeTask.running = false
  closed : connection.ws.writeTask.running = false -> .keepAlive index .sinkClosed ∈ socket.log

theorem WriteLoopStep.requeues {replaced : Connection} {message : Message}
    (effect : WriteLoopStep socket index connection replaced after)
    (rests : replaced.writeLoop = .requeuing message) :
    connection.ws.writeTask.running = false := by
  have leaves {loop : WriteLoop}
      (same : loop = if socket.innerAlive then .publishing else .finished)
      (queues : loop = .requeuing message) :
      connection.ws.writeTask.running = false := by
    rw [same] at queues
    split at queues <;> cases queues
  cases effect with
  | refused _ _ _ _ ended => exact ended
  | left => exact leaves rfl rests
  | requeued => exact leaves rfl rests
  | _ => cases rests

theorem closes_of_reaches {allowed : ReconnectingWebSocket -> Action -> Prop}
    (reached : Reaches (step maxRetries) allowed build socket) :
    forall (index : Nat) (connection : Connection),
      socket.connections[index]? = some connection -> Closes socket index connection := by
  apply reached.invariant
  · intro index connection present
    cases present
  · intro before action after _ closes _ taken
    have effect := step_spec taken
    have grows {event : Event} (old : event ∈ before.log) : event ∈ after.log :=
      effect.log.subset old
    apply @Step.forall_connections _ _ _ _ (Closes before) (Closes after) effect closes
    · exact fun _ _ own => ⟨own.requeues, fun ended => grows (own.closed ended)⟩
    · constructor
      · intro _ impossible
        cases impossible
      · intro impossible
        cases impossible
    · exact fun _ _ _ _ _ own => ⟨own.requeues, fun ended => grows (own.closed ended)⟩
    · intro index connection replaced _ present effect own
      have frame := (effect.replaces present).2
      constructor
      · rw [frame.writeLoop, frame.writeTask]
        exact own.requeues
      · rw [frame.writeTask]
        exact fun ended => grows (own.closed ended)
    · intro index connection replaced _ present effect own
      have frame := (effect.replaces present).2
      refine ⟨fun message rests => ?_, fun ended => grows (own.closed (frame.writeTask ▸ ended))⟩
      rw [frame.writeTask]
      exact effect.requeues rests
    · intro index _ connection ws _ _ _ effect _ own
      constructor
      · intro message rests
        exact effect.writeTask ▸ own.requeues message rests
      · intro ended
        exact grows (own.closed (effect.writeTask ▸ ended))
    · intro index _ _ connection ws events _ _ effect log own
      constructor
      · intro message rests
        have ended := own.requeues message rests
        rw [effect.writes] at ended
        cases ended
      · intro ended
        cases effect with
        | closed => simp [log]
        | _ => cases ended

/-- A poll of a task of the connection, with a sink that takes what it is given. -/
inductive OwnPoll (index : Nat) : Action -> Prop
  | readLoop : OwnPoll index (.readLoop index)
  | writeLoop : OwnPoll index (.writeLoop index)
  | keepAliveWrite : OwnPoll index (.keepAliveWrite index false (.ready (.ok ())))

/-- Until the sink is closed, some task of the connection can be polled. -/
theorem ownPoll_goesOn (maxRetries : Nat) (closes : Closes socket index connection)
    (dead : socket.innerAlive = false) (present : socket.connections[index]? = some connection) :
    .keepAlive index .sinkClosed ∈ socket.log ∨ Exists fun action => Exists fun next =>
      OwnPoll index action ∧ step maxRetries socket action = some next ∧
        next.remaining index < socket.remaining index := by
  have unheld := unheld_of_dead dead present
  simp only [Connection.holdsInner, Bool.or_eq_false_iff] at unheld
  rw [remaining_of_present present]
  cases running : connection.ws.writeTask.running with
  | false => exact Or.inl (closes.closed running)
  | true =>
      apply Or.inr
      by_cases waits : connection.ws.Waits connection.held
      · cases reads : connection.readLoop.running with
        | true =>
            rcases @readLoop_goesOn socket index connection dead unheld.1 reads with
              ⟨ws, loop, polled, less, same⟩
            refine ⟨_, _, .readLoop, by simp only [step, present]; exact polled, ?_⟩
            rw [remaining_of_present (getElem?_set_here present)]
            simp only [setConnection_disconnect, setConnection_retry, setConnection_outgoing]
            omega
        | false =>
            have writes : connection.writeLoop.running = true := by
              have held := waits.2.2
              rwa [Connection.held, reads, Bool.false_or] at held
            cases rests : connection.writeLoop with
            | selecting disconnectSeen closeSeen =>
                rcases @writeLoop_selecting socket index connection dead _ _ rests with
                  ⟨loop, retry, outgoing, polled, less, _⟩
                refine ⟨_, _, .writeLoop, by simp only [step, present]; exact polled, ?_⟩
                rw [remaining_of_present (getElem?_set_here present)]
                rw [rests] at less
                simp only [setConnection_disconnect, setConnection_retry, setConnection_outgoing]
                omega
            | sending message disconnectSeen closeSeen =>
                rcases @writeLoop_sending socket index connection _ _ _ rests running waits.2.1 with
                  ⟨ws, polled, more⟩
                refine ⟨_, _, .writeLoop, by simp only [step, present]; exact polled, ?_⟩
                rw [remaining_of_present (getElem?_set_here present)]
                simp only [setConnection_disconnect, setConnection_retry, setConnection_outgoing,
                  WriteLoop.remaining]
                omega
            | requeuing message =>
                rw [closes.requeues message rests] at running
                cases running
            | publishing =>
                rw [rests] at unheld
                cases unheld.2
            | finished =>
                rw [rests] at writes
                cases writes
      · rcases connection.ws.writeLoop_goesOn connection.held running waits with
          ⟨ws, events, polled, less⟩
        refine ⟨_, _, .keepAliveWrite, by simp only [step, present, polled]; rfl, ?_⟩
        rw [remaining_of_present (getElem?_set_here present)]
        simp only [emit_disconnect, emit_retry, emit_outgoing, setConnection_disconnect,
          setConnection_retry, setConnection_outgoing]
        omega

/-- What the tasks of one connection can do on their own when `Inner` is gone. -/
structure WindsUp (maxRetries : Nat) (socket : ReconnectingWebSocket) (index : Nat)
    (connection : Connection) : Prop where
  readLoop : Exists fun after =>
    Reaches (step maxRetries) (fun _ action => action = .readLoop index) socket after ∧
      Exists fun left => after.connections[index]? = some left ∧ left.readLoop.running = false
  writeLoop : forall disconnectSeen closeSeen,
    connection.writeLoop = .selecting disconnectSeen closeSeen -> Exists fun after =>
      step maxRetries socket (.writeLoop index) = some after ∧
        (socket.retry.queue = [] -> socket.outgoing.queue = [] -> Exists fun left =>
          after.connections[index]? = some left ∧ left.writeLoop = .finished)
  sink : Exists fun after => Reaches (step maxRetries) (fun _ => OwnPoll index) socket after ∧
    .keepAlive index .sinkClosed ∈ after.log

theorem readLoop_ends (dead : socket.innerAlive = false)
    (present : socket.connections[index]? = some connection) : Exists fun after =>
      Reaches (step maxRetries) (fun _ action => action = .readLoop index) socket after ∧
        Exists fun left =>
          after.connections[index]? = some left ∧ left.readLoop.running = false := by
  apply @exists_reaches_of_weight _ _ (step maxRetries) (fun _ action => action = .readLoop index)
    socket
    (fun state => state.innerAlive = false ∧
      Exists fun found => state.connections[index]? = some found)
    (fun state => Exists fun left =>
      state.connections[index]? = some left ∧ left.readLoop.running = false)
    (fun state => state.remaining index)
  · rintro state ⟨gone, found, located⟩
    cases running : found.readLoop.running with
    | false => exact Or.inl ⟨found, located, running⟩
    | true =>
        have unheld := unheld_of_dead gone located
        simp only [Connection.holdsInner, Bool.or_eq_false_iff] at unheld
        rcases @readLoop_goesOn state index found gone unheld.1 running with
          ⟨ws, loop, polled, less, same⟩
        have taken : step maxRetries state (.readLoop index) = some (state.setConnection index
            { found with ws := ws, readLoop := loop }) := by
          simp only [step, located]
          exact polled
        have stays := (step_spec taken).dead gone
        refine Or.inr ⟨_, _, rfl, taken, ⟨stays, _, getElem?_set_here located⟩, ?_⟩
        rw [remaining_of_present located, remaining_of_present (getElem?_set_here located)]
        simp only [setConnection_disconnect, setConnection_retry, setConnection_outgoing]
        omega
  · exact ⟨dead, connection, present⟩

theorem closes_sink (reached : Reaches (step maxRetries) anyStep build socket)
    (dead : socket.innerAlive = false) (present : socket.connections[index]? = some connection) :
    Exists fun after => Reaches (step maxRetries) (fun _ => OwnPoll index) socket after ∧
      .keepAlive index .sinkClosed ∈ after.log := by
  apply @exists_reaches_of_weight _ _ (step maxRetries) (fun _ => OwnPoll index) socket
    (fun state => Reaches (step maxRetries) anyStep build state ∧ state.innerAlive = false ∧
      Exists fun found => state.connections[index]? = some found)
    (fun state => .keepAlive index .sinkClosed ∈ state.log)
    (fun state => state.remaining index)
  · rintro state ⟨earlier, gone, found, located⟩
    have closes := closes_of_reaches earlier index found located
    rcases ownPoll_goesOn maxRetries closes gone located with
      closed | ⟨action, next, own, taken, less⟩
    · exact Or.inl closed
    · have effect := step_spec taken
      have inside : index < next.connections.length :=
        Nat.lt_of_lt_of_le (List.getElem?_eq_some_iff.mp located).1 effect.connections
      exact Or.inr ⟨action, next, own, taken, ⟨.tail earlier trivial taken, effect.dead gone, _,
        List.getElem?_eq_getElem inside⟩, less⟩
  · exact ⟨reached, dead, connection, present⟩

/-- Every connection that is left without `Inner` winds up. -/
theorem windsUp (reached : Reaches (step maxRetries) anyStep build socket)
    (dead : socket.innerAlive = false) (present : socket.connections[index]? = some connection) :
    WindsUp maxRetries socket index connection := by
  constructor
  · exact readLoop_ends dead present
  · intro disconnectSeen closeSeen rests
    rcases @writeLoop_selecting socket index connection dead _ _ rests with
      ⟨loop, retry, outgoing, polled, _, drained⟩
    refine ⟨_, by simp only [step, present]; exact polled, fun retries messages => ?_⟩
    exact ⟨_, getElem?_set_here present, drained retries messages⟩
  · exact closes_sink reached dead present

/-! ## The end of `Inner` -/

end ReconnectingWebSocket

/-- The loop is to connect again and keeps `Inner` for it. -/
def ReadLoop.reconnects : ReadLoop -> Bool
  | .publishing shouldReconnect => shouldReconnect
  | .reconnecting _ => true
  | _ => false

/-- How many of the loops hold `Inner`. -/
def Connection.holders (connection : Connection) : Nat :=
  connection.readLoop.holdsInner.toNat + connection.writeLoop.holdsInner.toNat

namespace ReconnectingWebSocket

/-- A poll of a loop of any connection. -/
inductive LoopPoll : Action -> Prop
  | readLoop (index : Nat) : LoopPoll (.readLoop index)
  | writeLoop (index : Nat) : LoopPoll (.writeLoop index)

/-- No read loop is connecting again. -/
def Settles (socket : ReconnectingWebSocket) : Prop :=
  forall (index : Nat) (connection : Connection),
    socket.connections[index]? = some connection -> connection.readLoop.reconnects = false

/-- A loop that holds `Inner` and does not connect again lets go of it in its next
poll. -/
theorem loopPoll_goesOn (maxRetries : Nat) (settles : Settles socket)
    (present : socket.connections[index]? = some connection)
    (holds : connection.holdsInner = true) :
    Exists fun action => Exists fun next => Exists fun replaced =>
      LoopPoll action ∧ step maxRetries socket action = some next ∧
        next.handles = socket.handles ∧ next.connections = socket.connections.set index replaced ∧
          replaced.readLoop.reconnects = false ∧ replaced.holders < connection.holders := by
  have settled := settles index connection present
  cases reads : connection.readLoop.holdsInner with
  | true =>
      cases rests : connection.readLoop with
      | starting =>
          have taken : step maxRetries socket (.readLoop index) =
              some ({ socket with disconnect := socket.disconnect.sendReplace false }.setConnection
                index { connection with readLoop := .selecting 0 0 }) := by
            simp only [step, present, readLoop, rests]
          refine ⟨_, _, _, .readLoop index, taken, rfl, rfl, rfl, ?_⟩
          simp [Connection.holders, rests, ReadLoop.holdsInner]
      | publishing shouldReconnect =>
          rw [rests, ReadLoop.reconnects] at settled
          subst settled
          have taken : step maxRetries socket (.readLoop index) =
              some ({ socket with disconnect := socket.disconnect.sendReplace true }.setConnection
                index { connection with readLoop := .finished }) := by
            simp only [step, present, readLoop, rests, Bool.false_eq_true, if_false]
          refine ⟨_, _, _, .readLoop index, taken, rfl, rfl, rfl, ?_⟩
          simp [Connection.holders, rests, ReadLoop.holdsInner]
      | reconnecting call =>
          rw [rests] at settled
          cases settled
      | _ =>
          rw [rests] at reads
          cases reads
  | false =>
      rw [Connection.holdsInner, reads, Bool.false_or] at holds
      cases rests : connection.writeLoop with
      | publishing =>
          have taken : step maxRetries socket (.writeLoop index) =
              some ({ socket with disconnect := socket.disconnect.sendReplace true }.setConnection
                index { connection with writeLoop := .finished }) := by
            simp only [step, present, writeLoop, rests]
          refine ⟨_, _, _, .writeLoop index, taken, rfl, rfl, settled, ?_⟩
          simp [Connection.holders, rests, WriteLoop.holdsInner]
      | _ =>
          rw [rests] at holds
          cases holds

/-- Without a handle and without a reconnection `Inner` goes, as soon as the
loops that hold it have been polled. -/
theorem drops_inner (handles : socket.handles = 0) (settles : Settles socket) :
    Exists fun after =>
      Reaches (step maxRetries) (fun _ => LoopPoll) socket after ∧ after.innerAlive = false := by
  apply @exists_reaches_of_weight _ _ (step maxRetries) (fun _ => LoopPoll) socket
    (fun state => state.handles = 0 ∧ Settles state) (fun state => state.innerAlive = false)
    (fun state => (state.connections.map Connection.holders).sum)
  · rintro state ⟨none, settled⟩
    cases alive : state.innerAlive with
    | false => exact Or.inl rfl
    | true =>
        rcases innerAlive_eq_true_iff.mp alive with handle | ⟨index, connection, present, holds⟩
        · rw [none] at handle
          cases handle
        · rcases loopPoll_goesOn maxRetries settled present holds with
            ⟨action, next, replaced, poll, taken, same, connections, quiet, less⟩
          refine Or.inr ⟨action, next, poll, taken, ⟨same.trans none, ?_⟩, ?_⟩
          · intro there found located
            rw [connections] at located
            rcases getElem?_set_cases located with ⟨_, moved⟩ | ⟨_, old⟩
            · exact moved ▸ quiet
            · exact settled there found old
          · rw [connections]
            have total := @sum_map_set _ state.connections index connection replaced _ _
              Connection.holders present
            omega
  · exact ⟨handles, settles⟩

end ReconnectingWebSocket
end WebSocket
end Fpd
