import Fpd.WebSocket.Incoming
import Fpd.WebSocket.Outgoing

namespace Fpd
namespace WebSocket

open Async

/-!
# The end of a healthy connection

After `close`, or after the last handle is dropped, the write loop of the
connection hands over what is still queued before it leaves its loop, and the
keepalive's write task writes what it was handed before it closes the sink.

Only the disconnect flag of the keepalive makes the write task leave messages
behind, and on a healthy connection only the keepalive's read task can set it
first: a data message that the stream yields after both loops have left makes
that task give up.  The law holds on the runs where the read task does not do so
too early, the write loop leaves only after the end, and the other connections
neither hold nor lose a message.
-/

/-- The write task has not left its loop. -/
def KeepAliveWrite.looping : KeepAliveWrite -> Bool
  | .selecting _ => true
  | .sending _ _ => true
  | .pinging _ => true
  | _ => false

/-- The version of the disconnect flag that the task has seen. -/
def KeepAliveWrite.seen : KeepAliveWrite -> Nat
  | .selecting seen => seen
  | .sending _ seen => seen
  | .pinging seen => seen
  | _ => 0

def KeepAliveRead.seen : KeepAliveRead -> Nat
  | .selecting seen => seen
  | .forwarding _ seen => seen
  | _ => 0

/-- The Close frame of the client is on its way. -/
def KeepAliveWrite.closes : KeepAliveWrite -> Bool
  | .closing => true
  | .finished => true
  | _ => false

/-- The loop still takes messages or hands one over. -/
def WriteLoop.looping : WriteLoop -> Bool
  | .selecting _ _ => true
  | .sending _ _ _ => true
  | _ => false

namespace ReconnectingWebSocket

/-- `close` has been called or the last handle is gone. -/
def ended (socket : ReconnectingWebSocket) : Bool :=
  socket.close.value || decide (socket.handles = 0)

/-- The stream yields nothing, a control message of the keepalive or data. -/
def keepsOpen : Poll (Option Item) -> Bool
  | .pending => true
  | .ready none => false
  | .ready (some item) => !item.isClose && !item.isError

/-- No write to the sink of the connection fails, and its stream neither ends
nor fails nor brings a Close frame before the client sends its own. -/
def staysHealthy (index : Nat) (socket : ReconnectingWebSocket) : Action -> Bool
  | .keepAliveRead there stream =>
      decide (there ≠ index) || match socket.connections[index]? with
        | some connection => connection.ws.writeTask.closes || keepsOpen stream
        | none => true
  | .keepAliveWrite there _ (.ready (.error _)) =>
      decide (there ≠ index) || match socket.connections[index]? with
        | some connection => !connection.ws.writeTask.looping
        | none => true
  | _ => true

def Healthy (index : Nat) (socket : ReconnectingWebSocket) (action : Action) : Prop :=
  staysHealthy index socket action = true

/-- The read task of the connection sets the disconnect flag while the write
task has messages queued. -/
def cutsOff (index : Nat) (socket : ReconnectingWebSocket) : Action -> Bool
  | .keepAliveRead there _ =>
      decide (there = index) && match socket.connections[index]? with
        | some connection =>
            decide (connection.ws.readTask = .cleaningUp) && connection.ws.writeTask.looping &&
              !connection.ws.outgoing.queue.isEmpty
        | none => false
  | _ => false

/-- The poll of a write loop finds nothing to hand over and a reason to leave. -/
def leavesSelect (socket : ReconnectingWebSocket) (connection : Connection) : Bool :=
  match connection.writeLoop with
  | .selecting disconnectSeen closeSeen =>
      socket.retry.queue.isEmpty && socket.outgoing.queue.isEmpty &&
        (decide (socket.disconnect.version ≠ disconnectSeen) && socket.disconnect.value ||
          decide (socket.disconnect.version = disconnectSeen) &&
            decide (socket.close.version ≠ closeSeen) && socket.close.value ||
          !socket.innerAlive)
  | _ => false

/-- The write loop of the connection leaves its loop before the end, or while
another connection has a message. -/
def leavesEarly (index : Nat) (socket : ReconnectingWebSocket) : Action -> Bool
  | .writeLoop there =>
      decide (there = index) && match socket.connections[index]? with
        | some connection =>
            leavesSelect socket connection && !(socket.ended &&
              (socket.connections.eraseIdx index).all fun other => decide (other.outbound = 0))
        | none => false
  | _ => false

/-- Another connection drops a message. -/
def dropsElsewhere (index : Nat) (socket : ReconnectingWebSocket) : Action -> Bool
  | .keepAliveWrite there timeout sink =>
      decide (there ≠ index) && dropsMessage socket (.keepAliveWrite there timeout sink)
  | _ => false

structure Graceful (index : Nat) (socket : ReconnectingWebSocket) (action : Action) : Prop where
  healthy : Healthy index socket action
  whole : cutsOff index socket action = false
  inTime : leavesEarly index socket action = false
  elsewhere : dropsElsewhere index socket action = false

variable {socket after : ReconnectingWebSocket} {maxRetries : Nat} {action : Action}
  {index : Nat} {connection replaced : Connection}

instance : Decidable (Healthy index socket action) :=
  inferInstanceAs (Decidable (_ = _))

instance : Decidable (Graceful index socket action) :=
  decidable_of_iff (Healthy index socket action ∧ cutsOff index socket action = false ∧
      leavesEarly index socket action = false ∧ dropsElsewhere index socket action = false)
    ⟨fun ⟨healthy, whole, inTime, elsewhere⟩ => ⟨healthy, whole, inTime, elsewhere⟩,
      fun graceful => ⟨graceful.healthy, graceful.whole, graceful.inTime, graceful.elsewhere⟩⟩

/-! ## The keepalive of a healthy connection -/

/-- While a loop of the connection runs, the tasks of the keepalive are in their
loops and its disconnect flag is unset.  Where the flag is set or the write task
has left its loop, nothing is queued. -/
structure Flushing (connection : Connection) : Prop where
  reads : connection.held = true -> connection.ws.readTask.listening = true
  writes : connection.held = true -> connection.ws.writeTask.looping = true
  unset : connection.held = true -> connection.ws.disconnect.version = 0
  readSeen : connection.ws.readTask.seen = 0
  writeSeen : connection.ws.writeTask.seen = 0
  keeps : forall message, connection.writeLoop ≠ .requeuing message
  drained : connection.ws.disconnect.version ≠ 0 ∨ connection.ws.writeTask.looping = false ->
    connection.ws.outgoing.queue = []

namespace Flushing

theorem new : Flushing .new where
  reads := fun _ => rfl
  writes := fun _ => rfl
  unset := fun _ => rfl
  readSeen := rfl
  writeSeen := rfl
  keeps := fun _ same => by cases same
  drained := fun _ => rfl

/-- A task that is not in its loop tells that both loops of the connection have
ended. -/
theorem unheld (flushing : Flushing connection)
    (left : connection.ws.readTask.listening = false ∨ connection.ws.writeTask.looping = false ∨
      connection.ws.disconnect.version ≠ 0) : connection.held = false := by
  cases held : connection.held with
  | false => rfl
  | true =>
      rcases left with reads | writes | set
      · rw [flushing.reads held] at reads
        cases reads
      · rw [flushing.writes held] at writes
        cases writes
      · exact absurd (flushing.unset held) set

/-- A loop that moves on leaves the keepalive as it is, up to what it takes or
hands over. -/
theorem of_loop (flushing : Flushing connection) (held : connection.held = true)
    (readTask : replaced.ws.readTask = connection.ws.readTask)
    (writeTask : replaced.ws.writeTask = connection.ws.writeTask)
    (disconnect : replaced.ws.disconnect = connection.ws.disconnect)
    (keeps : forall message, replaced.writeLoop ≠ .requeuing message) : Flushing replaced where
  reads := fun _ => readTask ▸ flushing.reads held
  writes := fun _ => writeTask ▸ flushing.writes held
  unset := fun _ => disconnect ▸ flushing.unset held
  readSeen := readTask ▸ flushing.readSeen
  writeSeen := writeTask ▸ flushing.writeSeen
  keeps := keeps
  drained := fun left => by
    rw [disconnect, writeTask, flushing.unset held, flushing.writes held] at left
    rcases left with set | ended
    · exact absurd rfl set
    · cases ended

theorem of_read {ws : WebSocketKeepAlive} {stream : Poll (Option Item)}
    {events : List KeepAliveEvent} (flushing : Flushing connection)
    (effect : connection.ws.ReadStep connection.held stream ws events)
    (healthy : connection.ws.writeTask.closes = true ∨ keepsOpen stream = true)
    (whole : connection.ws.readTask = .cleaningUp -> connection.ws.writeTask.looping = true ->
      connection.ws.outgoing.queue = []) : Flushing { connection with ws := ws } := by
  have cleansUp (dropped : connection.held = false) :
      Flushing { connection with ws := { connection.ws with readTask := .cleaningUp } } :=
    { flushing with
      reads := fun held => by rw [show connection.held = true from held] at dropped; cases dropped
      readSeen := rfl }
  cases effect with
  | swallowed => exact flushing
  | received item seen rests =>
      have same := flushing.readSeen
      rw [rests] at same
      exact { flushing with reads := fun _ => rfl, readSeen := same }
  | ended seen rests yielded =>
      have closes : connection.ws.writeTask.closes = true :=
        healthy.resolve_right (by rw [yielded]; exact Bool.false_ne_true)
      have left : connection.ws.writeTask.looping = false := by
        cases task : connection.ws.writeTask <;> rw [task] at closes <;> first | rfl | cases closes
      exact cleansUp (flushing.unheld (Or.inr (Or.inl left)))
  | stopped seen rests changed =>
      have same := flushing.readSeen
      rw [rests] at same
      exact cleansUp (flushing.unheld (Or.inr (Or.inr fun zero => changed (zero.trans same.symm))))
  | forwarded item seen incoming rests =>
      have same := flushing.readSeen
      rw [rests] at same
      exact { flushing with reads := fun _ => rfl, readSeen := same }
  | abandoned item seen rests dropped => exact cleansUp dropped
  | published rests =>
      have dropped := flushing.unheld (Or.inl (by rw [rests]; rfl))
      have impossible {fact : Prop} (held : connection.held = true) : fact := by
        rw [held] at dropped
        cases dropped
      exact { flushing with
        reads := fun held => impossible held
        unset := fun held => impossible held
        readSeen := rfl
        drained := fun _ => by
          cases left : connection.ws.writeTask.looping with
          | true => exact whole rests left
          | false => exact flushing.drained (Or.inr left) }

theorem of_write {ws : WebSocketKeepAlive} {sink : Poll (Except Error Unit)}
    {events : List KeepAliveEvent} (flushing : Flushing connection)
    (effect : connection.ws.WriteStep connection.held sink ws events)
    (healthy : forall error, sink = .ready (.error error) ->
      connection.ws.writeTask.looping = false) : Flushing { connection with ws := ws } := by
  -- The write task leaves its loop when nothing is queued and no loop runs.
  have leaves (task : KeepAliveWrite) (dropped : connection.held = false)
      (empty : connection.ws.outgoing.queue = []) (seen : task.seen = 0) :
      Flushing { connection with ws := { connection.ws with writeTask := task } } :=
    { flushing with
      writes := fun held => by rw [show connection.held = true from held] at dropped; cases dropped
      writeSeen := seen
      drained := fun _ => empty }
  have stays (task : KeepAliveWrite) (before : connection.ws.writeTask.looping = true)
      (looping : task.looping = true) (seen : task.seen = connection.ws.writeTask.seen) :
      Flushing { connection with ws := { connection.ws with writeTask := task } } :=
    { flushing with
      writes := fun _ => looping
      writeSeen := seen.trans flushing.writeSeen
      drained := fun left => by
        rcases left with set | ended
        · exact flushing.drained (Or.inl set)
        · rw [show task.looping = false from ended] at looping
          cases looping }
  have gone {task : KeepAliveWrite} (rests : connection.ws.writeTask = task)
      (left : task.looping = false) : connection.ws.writeTask.looping = false := rests ▸ left
  cases effect with
  | stopped seen rests changed =>
      have same := flushing.writeSeen
      rw [rests] at same
      have set : connection.ws.disconnect.version ≠ 0 := fun zero => changed (zero.trans same.symm)
      exact leaves _ (flushing.unheld (Or.inr (Or.inr set))) (flushing.drained (Or.inl set)) rfl
  | took message seen outgoing rests taken unchanged =>
      have same := flushing.writeSeen
      rw [rests] at same
      exact { flushing with
        writes := fun _ => rfl
        writeSeen := same
        drained := fun left => by
          rcases left with set | ended
          · exact absurd (unchanged.trans same) set
          · cases ended }
  | pinging seen rests => exact stays _ (by rw [rests]; rfl) rfl (by rw [rests]; rfl)
  | abandoned seen rests dropped drained => exact leaves _ dropped drained rfl
  | wrote message seen rests => exact stays _ (by rw [rests]; rfl) rfl (by rw [rests]; rfl)
  | failed message seen error rests failure =>
      have left := healthy error failure
      rw [rests] at left
      cases left
  | pinged seen rests => exact stays _ (by rw [rests]; rfl) rfl (by rw [rests]; rfl)
  | pingFailed seen error rests failure =>
      have left := healthy error failure
      rw [rests] at left
      cases left
  | published rests =>
      have left := gone rests rfl
      have dropped := flushing.unheld (Or.inr (Or.inl left))
      have impossible {fact : Prop} (held : connection.held = true) : fact := by
        rw [held] at dropped
        cases dropped
      exact { flushing with
        writes := fun held => impossible held
        unset := fun held => impossible held
        writeSeen := rfl
        drained := fun _ => flushing.drained (Or.inr left) }
  | closed answer rests =>
      have left := gone rests rfl
      exact leaves _ (flushing.unheld (Or.inr (Or.inl left))) (flushing.drained (Or.inr left)) rfl

end Flushing

theorem WriteLoopStep.held (effect : WriteLoopStep socket index connection replaced after) :
    connection.held = true := by
  have running : connection.writeLoop.running = true := by
    cases effect with
    | retried _ _ _ _ rests => rw [rests]; rfl
    | took _ _ _ _ rests => rw [rests]; rfl
    | noticed _ _ _ _ rests => rw [rests]; rfl
    | left _ _ rests => rw [rests]; rfl
    | sent _ _ _ _ rests => rw [rests]; rfl
    | refused _ _ _ rests => rw [rests]; rfl
    | requeued _ _ rests => rw [rests]; rfl
    | published rests => rw [rests]; rfl
  rw [Connection.held, running, Bool.or_true]

/-- The write loop of a healthy connection never gets a message back. -/
theorem WriteLoopStep.keeps (effect : WriteLoopStep socket index connection replaced after)
    (flushing : Flushing connection) (message : Message) :
    replaced.writeLoop ≠ .requeuing message := by
  have held := effect.held
  cases effect with
  | refused message disconnectSeen closeSeen rests ended =>
      have looping := flushing.writes held
      cases task : connection.ws.writeTask <;> simp [task, KeepAliveWrite.looping,
        KeepAliveWrite.running] at looping ended
  | left => cases alive : socket.innerAlive <;> simp
  | requeued => cases alive : socket.innerAlive <;> simp
  | _ => simp

theorem Step.flushing (effect : Step maxRetries socket action after)
    (graceful : Graceful index socket action)
    (flushing : forall connection, socket.connections[index]? = some connection ->
      Flushing connection) :
    forall connection, after.connections[index]? = some connection -> Flushing connection := by
  refine effect.connection_at flushing ?_ ?_ ?_ ?_ ?_ ?_ ?_
  · exact fun _ same => same
  · exact .new
  · intro found call loop rests before
    have held : found.held = true := by
      rw [Connection.held, rests]
      rfl
    exact before.of_loop held rfl rfl rfl before.keeps
  · intro found replaced _ present polled before
    have frame := (polled.replaces present).2
    have held : found.held = true := by
      have unpublished := frame.unpublished
      cases loop : found.readLoop <;> rw [loop] at unpublished <;>
        first | (rw [Connection.held, loop]; rfl) | cases unpublished
    exact before.of_loop held frame.readTask frame.writeTask frame.disconnect
      (frame.writeLoop ▸ before.keeps)
  · intro found replaced _ present polled before
    have frame := (polled.replaces present).2
    exact before.of_loop polled.held frame.readTask frame.writeTask frame.disconnect
      (polled.keeps before)
  · intro stream found ws events same present polled _ before
    subst same
    have healthy := graceful.healthy
    have whole := graceful.whole
    simp only [Healthy, staysHealthy, present, ne_eq, not_true_eq_false, decide_false,
      Bool.false_or, Bool.or_eq_true] at healthy
    refine before.of_read polled healthy fun cleansUp looping => ?_
    simpa [cutsOff, present, cleansUp, looping] using whole
  · intro timeout sink found ws events same present polled _ before
    subst same
    have healthy := graceful.healthy
    refine before.of_write polled fun error failure => ?_
    simpa [Healthy, staysHealthy, present, failure] using healthy

/-! ## What has been accepted by the end -/

/-- On a graceful run no connection drops a message. -/
theorem dropsMessage_of_graceful (graceful : Graceful index socket action)
    (flushing : forall connection, socket.connections[index]? = some connection ->
      Flushing connection) : dropsMessage socket action = false := by
  cases action with
  | keepAliveWrite there timeout sink =>
      have healthy := graceful.healthy
      have elsewhere := graceful.elsewhere
      by_cases here : there = index
      · subst here
        cases sink with
        | pending => rfl
        | ready answer =>
            cases present : socket.connections[there]? with
            | none => simp only [dropsMessage, present]
            | some connection =>
                have drained := (flushing connection present).drained
                cases task : connection.ws.writeTask with
                | sending message seen =>
                    cases answer with
                    | ok => simp only [dropsMessage, present, task]
                    | error error =>
                        simp [Healthy, staysHealthy, present, task,
                          KeepAliveWrite.looping] at healthy
                | closing =>
                    have empty := drained (Or.inr (by rw [task]; rfl))
                    simp only [dropsMessage, present, task, empty, List.isEmpty_nil, Bool.not_true]
                | _ => simp only [dropsMessage, present, task]
      · simpa [dropsElsewhere, here] using elsewhere
  | _ => rfl

/-- A log that grows counts no message less often. -/
theorem projected_le {log later : List Event} (project : Event -> Option Message)
    (grown : log <+: later) :
    (↑(log.filterMap project) : Multiset Message) ≤ ↑(later.filterMap project) :=
  Multiset.coe_le.mpr (grown.sublist.filterMap project).subperm

/-- Before the end the write loop of the connection is in its loop, and the sink
is open. -/
structure Open (index : Nat) (socket : ReconnectingWebSocket) : Prop where
  looping : forall connection, socket.connections[index]? = some connection ->
    connection.writeLoop.looping = true
  unclosed : .keepAlive index .sinkClosed ∉ socket.log

/-- Of the messages that were accepted by the end, those not written are with
the connection once its write loop has left, and none is once its sink is closed. -/
structure HandedOn (accepted : Multiset Message) (index : Nat) (socket : ReconnectingWebSocket) :
    Prop where
  part : accepted ≤ acceptedMessages socket.log
  handed : forall connection, socket.connections[index]? = some connection ->
    connection.writeLoop.looping = false ->
      accepted ≤ writtenMessages socket.log + connection.outbound
  flushed : .keepAlive index .sinkClosed ∈ socket.log -> accepted ≤ writtenMessages socket.log

/-- The sink is closed by the poll of a write task that has left its loop. -/
theorem Step.sinkClosed (effect : Step maxRetries socket action after)
    (closed : .keepAlive index .sinkClosed ∈ after.log) :
    .keepAlive index .sinkClosed ∈ socket.log ∨ Exists fun connection =>
      socket.connections[index]? = some connection ∧ connection.ws.writeTask = .closing ∧
        writtenMessages after.log = writtenMessages socket.log := by
  cases effect with
  | user effect => cases effect <;> exact Or.inl (by simpa [endRecv] using closed)
  | connect effect => cases effect <;> exact Or.inl (by simpa [initiated] using closed)
  | readLoop _ effect => cases effect <;> exact Or.inl (by simpa [leaveReadLoop] using closed)
  | writeLoop _ effect => exact Or.inl (effect.log ▸ closed)
  | keepAliveRead _ effect => cases effect <;> exact Or.inl (by simpa using closed)
  | @keepAliveWrite there connection timeout sink ws events present effect =>
      cases effect with
      | closed answer rests =>
          rcases List.mem_append.mp closed with earlier | new
          · exact Or.inl earlier
          · have here : index = there := by simpa using new
            subst here
            exact Or.inr ⟨connection, present, rests, by simp [writtenMessages]⟩
      | _ => exact Or.inl (by simpa using closed)

/-- Nothing of the connection is unwritten when its sink is closed. -/
theorem Flushing.outbound (flushing : Flushing connection)
    (closing : connection.ws.writeTask = .closing) :
    connection.writeLoop.looping = false ∧ connection.outbound = 0 := by
  have left : connection.ws.writeTask.looping = false := by rw [closing]; rfl
  have unheld := flushing.unheld (Or.inr (Or.inl left))
  have finished : connection.writeLoop = .finished := by
    simp only [Connection.held, Bool.or_eq_false_iff] at unheld
    cases loop : connection.writeLoop <;> rw [loop] at unheld <;> first | rfl | cases unheld.2
  refine ⟨by rw [finished]; rfl, ?_⟩
  simp [Connection.outbound, finished, closing, flushing.drained (Or.inr left), WriteLoop.hand,
    KeepAliveWrite.hand]

theorem Step.ended (effect : Step maxRetries socket action after)
    (open_ : after.ended = false) : socket.ended = false := by
  simp only [ReconnectingWebSocket.ended, Bool.or_eq_false_iff, decide_eq_false_iff_not] at open_ ⊢
  constructor
  · cases flag : socket.close.value with
    | false => rfl
    | true => rw [effect.closed flag] at open_; cases open_.1
  · have handle := effect.handles (Nat.pos_of_ne_zero open_.2)
    omega

/-- A write loop of a healthy connection leaves its loop through its select, and
what it holds stays what it is. -/
theorem WriteLoopStep.leaves (effect : WriteLoopStep socket index connection replaced after)
    (flushing : Flushing connection) (left : replaced.writeLoop.looping = false) :
    (connection.writeLoop.looping = true -> leavesSelect socket connection = true) ∧
      replaced.outbound = connection.outbound := by
  have keeps := effect.keeps flushing
  cases effect with
  | left disconnectSeen closeSeen rests drained cause =>
      refine ⟨fun _ => ?_, ?_⟩
      · simpa [leavesSelect, rests, drained, or_assoc, and_assoc] using cause
      · cases alive : socket.innerAlive <;> simp [Connection.outbound, rests, WriteLoop.hand]
  | published rests =>
      refine ⟨fun looping => ?_, by simp [Connection.outbound, rests, WriteLoop.hand]⟩
      rw [rests] at looping
      cases looping
  | refused message => exact absurd rfl (keeps message)
  | requeued message retry rests => exact absurd rests (flushing.keeps message)
  | retried => cases left
  | took => cases left
  | noticed => cases left
  | sent => cases left

/-- When the write loop of the connection leaves in time, what was accepted and
is not written is with the connection. -/
theorem accepted_of_leaves (conserved : Conserved socket)
    (present : socket.connections[index]? = some connection)
    (leaves : leavesSelect socket connection = true)
    (inTime : leavesEarly index socket (.writeLoop index) = false) :
    acceptedMessages socket.log = writtenMessages socket.log + connection.outbound := by
  have alone : (socket.connections.eraseIdx index).all
      (fun other => decide (other.outbound = 0)) = true := by
    simp only [leavesEarly, decide_true, present, leaves, Bool.true_and, Bool.not_eq_false',
      Bool.and_eq_true] at inTime
    exact inTime.2
  have others (there : Nat) (found : Connection) (different : there ≠ index)
      (located : socket.connections[there]? = some found) : found.outbound = 0 :=
    of_decide_eq_true (List.all_eq_true.mp alone found
      (List.mem_eraseIdx_iff_getElem?.mpr ⟨there, different, located⟩))
  have empty : socket.retry.queue = [] ∧ socket.outgoing.queue = [] := by
    unfold leavesSelect at leaves
    cases loop : connection.writeLoop with
    | selecting disconnectSeen closeSeen =>
        simp only [loop, Bool.and_eq_true, List.isEmpty_iff] at leaves
        exact leaves.1
    | _ => simp [loop] at leaves
  rw [conserved, outside, empty.1, empty.2, sum_map_of_alone present others]
  simp

theorem outbound_exchange {ws : WebSocketKeepAlive} {events : List KeepAliveEvent}
    (exchange : writtenLedger.settled (events.map (.keepAlive index)) + writtenLedger.kept ws =
      writtenLedger.kept connection.ws) (log : List Event) :
    writtenMessages (log ++ events.map (.keepAlive index)) +
        Connection.outbound { connection with ws := ws } =
      writtenMessages log + connection.outbound := by
  have split : writtenMessages (log ++ events.map (.keepAlive index)) =
      writtenMessages log + writtenLedger.settled (events.map (.keepAlive index)) :=
    writtenLedger.settled_append _ _
  have before : connection.outbound =
      ↑connection.writeLoop.hand + writtenLedger.kept connection.ws :=
    rfl
  have now : Connection.outbound { connection with ws := ws } =
      ↑connection.writeLoop.hand + writtenLedger.kept ws := rfl
  rw [split, before, now, ← exchange]
  abel

theorem Step.stillOpen (effect : Step maxRetries socket action after)
    (graceful : Graceful index socket action)
    (flushing : forall connection, socket.connections[index]? = some connection ->
      Flushing connection) (open_ : Open index socket) (unended : after.ended = false) :
    Open index after := by
  have before := effect.ended unended
  constructor
  · refine effect.connection_at open_.looping ?_ ?_ ?_ ?_ ?_ ?_ ?_
    · exact fun _ same => same
    · rfl
    · exact fun _ _ _ _ same => same
    · intro found replaced _ present polled looping
      exact (polled.replaces present).2.writeLoop ▸ looping
    · intro found replaced same present polled looping
      subst same
      cases stays : replaced.writeLoop.looping with
      | true => rfl
      | false =>
          have leaves := (polled.leaves (flushing found present) stays).1 looping
          have inTime := graceful.inTime
          simp [leavesEarly, present, leaves, before] at inTime
    · exact fun _ _ _ _ _ _ _ _ same => same
    · exact fun _ _ _ _ _ _ _ _ _ same => same
  · intro closed
    rcases effect.sinkClosed closed with earlier | ⟨connection, present, closing, _⟩
    · exact open_.unclosed earlier
    · have left := ((flushing connection present).outbound closing).1
      rw [open_.looping connection present] at left
      cases left

theorem Step.handedOn {accepted : Multiset Message} (effect : Step maxRetries socket action after)
    (graceful : Graceful index socket action)
    (flushing : forall connection, socket.connections[index]? = some connection ->
      Flushing connection) (conserved : Conserved socket)
    (handedOn : HandedOn accepted index socket) : HandedOn accepted index after := by
  have grown : writtenMessages socket.log ≤ writtenMessages after.log :=
    projected_le _ effect.log
  constructor
  · exact handedOn.part.trans (projected_le _ effect.log)
  · refine effect.connection_at handedOn.handed ?_ ?_ ?_ ?_ ?_ ?_ ?_
    · exact fun _ same left => (same left).trans (add_le_add_left grown _)
    · intro left
      cases left
    · exact fun _ _ _ _ same left => (same left).trans (add_le_add_left grown _)
    · intro found replaced _ present polled same left
      have frame := (polled.replaces present).2
      have unmoved : replaced.outbound = found.outbound := by
        rw [Connection.outbound, frame.writeLoop, frame.writeTask, frame.outgoing]
        rfl
      rw [unmoved]
      exact (same (frame.writeLoop ▸ left)).trans (add_le_add_left grown _)
    · intro found replaced same present polled before left
      subst same
      have leaves := polled.leaves (flushing found present) left
      rw [polled.log, leaves.2]
      cases looping : found.writeLoop.looping with
      | true =>
          rw [← accepted_of_leaves conserved present (leaves.1 looping) graceful.inTime]
          exact handedOn.part
      | false => exact before looping
    · intro stream found ws events _ present polled log before left
      rw [log, outbound_exchange (keepAliveRead_exchange polled)]
      exact before left
    · intro timeout sink found ws events same present polled log before left
      subst same
      have kept := dropsMessage_of_graceful graceful flushing
      rw [log, outbound_exchange (writtenLedger_exchange polled present kept)]
      exact before left
  · intro closed
    rcases effect.sinkClosed closed with earlier | ⟨connection, present, closing, same⟩
    · exact (handedOn.flushed earlier).trans grown
    · have left := (flushing connection present).outbound closing
      have handed := handedOn.handed connection present left.1
      rwa [left.2, add_zero, ← same] at handed

/-! ## The law and where it fails -/

theorem graceful_of_reaches (reached : Reaches (step maxRetries) (Graceful index) build socket) :
    (forall connection, socket.connections[index]? = some connection -> Flushing connection) ∧
      Conserved socket ∧ (socket.ended = false -> Open index socket) := by
  apply reached.invariant
  · refine ⟨fun connection present => (by cases present), rfl, fun _ => ⟨?_, List.not_mem_nil⟩⟩
    intro connection present
    cases present
  · rintro before action after _ ⟨flushing, conserved, open_⟩ graceful taken
    have effect := step_spec taken
    refine ⟨effect.flushing graceful flushing, ?_, fun unended => ?_⟩
    · exact effect.conserved (dropsMessage_of_graceful graceful flushing) conserved
    · exact effect.stillOpen graceful flushing (open_ (effect.ended unended)) unended

/-- Only `close` and `drop` bring about the end, and they touch no connection. -/
theorem Step.ends (effect : Step maxRetries socket action after) (unended : socket.ended = false)
    (ends : after.ended = true) : action = .close ∨ action = .drop := by
  have unmoved (handles : after.handles = socket.handles) (close : after.close = socket.close) :
      action = .close ∨ action = .drop := by
    rw [ReconnectingWebSocket.ended, handles, close] at ends
    rw [ReconnectingWebSocket.ended, ends] at unended
    cases unended
  cases effect with
  | user effect =>
      cases effect with
      | closed => exact Or.inl rfl
      | dropped => exact Or.inr rfl
      | cloned handle =>
          simp only [ReconnectingWebSocket.ended, Bool.or_eq_true, Bool.or_eq_false_iff,
            decide_eq_true_eq] at ends unended
          rcases ends with set | none
          · rw [unended.1] at set
            cases set
          · cases none
      | _ => exact unmoved rfl rfl
  | connect effect => exact unmoved effect.frame.handles effect.frame.close
  | readLoop present effect =>
      have replaces := (effect.replaces present).1
      exact unmoved replaces.handles replaces.close
  | writeLoop present effect =>
      have replaces := (effect.replaces present).1
      exact unmoved replaces.handles replaces.close
  | keepAliveRead => exact unmoved rfl rfl
  | keepAliveWrite => exact unmoved rfl rfl

theorem graceful_of_ends (ends : action = .close ∨ action = .drop) :
    Graceful index socket action := by
  rcases ends with rfl | rfl <;> exact ⟨rfl, rfl, rfl, rfl⟩

/-- On a graceful run, all that was accepted when the socket ended has been
written when the sink of the connection is closed. -/
theorem flushed_before_close (maxRetries index : Nat) (socket ending later : ReconnectingWebSocket)
    (action : Action) (reached : Reaches (step maxRetries) (Graceful index) build socket)
    (unended : socket.ended = false) (taken : step maxRetries socket action = some ending)
    (ends : ending.ended = true)
    (onwards : Reaches (step maxRetries) (Graceful index) ending later)
    (closed : .keepAlive index .sinkClosed ∈ later.log) :
    acceptedMessages socket.log ≤ writtenMessages later.log := by
  rcases graceful_of_reaches reached with ⟨flushing, conserved, open_⟩
  have opened := open_ unended
  have start : HandedOn (acceptedMessages socket.log) index socket := by
    constructor
    · exact le_rfl
    · intro connection present left
      rw [opened.looping connection present] at left
      cases left
    · exact fun closed => absurd closed opened.unclosed
  have effect := step_spec taken
  have graceful : Graceful index socket action := graceful_of_ends (effect.ends unended ends)
  have handedOn : HandedOn (acceptedMessages socket.log) index later := by
    apply onwards.invariant
    · exact effect.handedOn graceful flushing conserved start
    · intro before action after onwards handedOn permitted next
      have whole := graceful_of_reaches ((reached.tail graceful taken).trans onwards)
      exact (step_spec next).handedOn permitted whole.1 whole.2.1 handedOn
  exact handedOn.flushed closed

/-- One message is being written and one is queued. -/
def queuedRun : List Action :=
  [.connect, .attempted (.user 0) (.ok ()), .readLoop 0, .readLoop 0,
    .send (.text "1"), .pollSend 0, .writeLoop 0, .writeLoop 0, .keepAliveWrite 0 false .pending,
    .send (.text "2"), .pollSend 0, .writeLoop 0, .writeLoop 0]

def queued : ReconnectingWebSocket :=
  (run (step 10) (Graceful 0) build queuedRun).get rfl

theorem queued_reached : Reaches (step 10) (Graceful 0) build queued :=
  reaches_get_run queuedRun rfl

def queuedEnding : ReconnectingWebSocket :=
  (step 10 queued .close).get rfl

/-- Both loops of the connection find the close flag and end.  Then the peer
sends a data message, the read task finds nobody to take it and sets the
disconnect flag, and the write task leaves without the second message. -/
def interruptedRun : List Action :=
  [.readLoop 0, .readLoop 0, .readLoop 0, .writeLoop 0, .writeLoop 0,
    .keepAliveRead 0 (.ready (some (.ok (.text "data")))), .keepAliveRead 0 .pending,
    .keepAliveRead 0 .pending, .keepAliveWrite 0 false (.ready (.ok ())),
    .keepAliveWrite 0 false .pending, .keepAliveWrite 0 false .pending,
    .keepAliveWrite 0 false (.ready (.ok ()))]

/-- A data message at the wrong moment costs the last queued message. -/
theorem incoming_message_loses_queued :
    ¬ forall (maxRetries index : Nat) (socket ending later : ReconnectingWebSocket) (action : Action),
      Reaches (step maxRetries) (Healthy index) build socket -> socket.ended = false ->
        step maxRetries socket action = some ending -> ending.ended = true ->
          Reaches (step maxRetries) (Healthy index) ending later ->
            .keepAlive index .sinkClosed ∈ later.log ->
              acceptedMessages socket.log ≤ writtenMessages later.log := by
  intro law
  have healthy : Reaches (step 10) (Healthy 0) build queued :=
    queued_reached.mono fun _ _ graceful => graceful.healthy
  have flushed := law 10 0 queued queuedEnding _ .close healthy rfl (Option.some_get _).symm rfl
    (reaches_get_run interruptedRun rfl) (by decide)
  exact absurd (Multiset.card_le_card flushed) (by decide)

/-- The write task finds the loops gone only when nothing is queued any more. -/
def flushingRun : List Action :=
  [.readLoop 0, .readLoop 0, .readLoop 0, .writeLoop 0, .writeLoop 0,
    .keepAliveWrite 0 false (.ready (.ok ())), .keepAliveWrite 0 false .pending,
    .keepAliveWrite 0 false (.ready (.ok ())), .keepAliveWrite 0 false .pending,
    .keepAliveWrite 0 false .pending, .keepAliveWrite 0 false (.ready (.ok ()))]

theorem flushed_before_close_queued : acceptedMessages queued.log ≤
    writtenMessages ((run (step 10) (Graceful 0) queuedEnding flushingRun).get rfl).log :=
  flushed_before_close 10 0 queued queuedEnding _ .close queued_reached rfl (Option.some_get _).symm
    rfl (reaches_get_run flushingRun rfl) (by decide)

end ReconnectingWebSocket
end WebSocket
end Fpd
