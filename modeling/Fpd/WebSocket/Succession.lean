import Fpd.WebSocket.Chain
import Fpd.WebSocket.Incoming

namespace Fpd
namespace WebSocket
namespace ReconnectingWebSocket

open Async

/-!
# A connection and its predecessors

All connections share one disconnect flag.  A write loop that hands a message
to a full keepalive, or to the retry channel, can be held up there until the
next connection is made; it then sets the flag, and the read loop of the
healthy new connection takes this for its own write loop's end.

The law that a healthy newest connection is left alone holds on the runs where
no write loop publishes its end while such a connection is being read.
-/

variable {socket after : ReconnectingWebSocket} {maxRetries : Nat} {action : Action}
  {index there : Nat} {connection replaced found : Connection}

/-- The event tells that the stream or the sink of the connection has failed
or that the server closes it. -/
def harms (index : Nat) : Event -> Bool
  | .keepAlive there event => decide (there = index) && match event with
      | .streamed item => item.isClose
      | .streamEnded => true
      | .writeFailed _ => true
      | .pingFailed => true
      | _ => false
  | _ => false

/-- Nothing has happened that could end the connection. -/
def Thrives (socket : ReconnectingWebSocket) (index : Nat) (connection : Connection) : Prop :=
  socket.close.value = false ∧ socket.innerAlive = true ∧ connection.ws.running = true ∧
    forall event, event ∈ socket.log -> harms index event = false

instance : Decidable (Thrives socket index connection) :=
  inferInstanceAs (Decidable (_ ∧ _ ∧ _ ∧ _))

/-- The read loop of the newest connection leaves its loop only when that
connection does not thrive. -/
def NewestStays (socket : ReconnectingWebSocket) : Prop :=
  forall (index : Nat) (connection : Connection), socket.connections[index]? = some connection ->
    index + 1 = socket.connections.length -> Thrives socket index connection ->
      connection.readLoop.looping = true

/-- A write loop publishes its end while the newest connection thrives and its
read loop runs. -/
def tearsDown (socket : ReconnectingWebSocket) : Action -> Bool
  | .writeLoop index =>
      match socket.connections[index]?, socket.connections.getLast? with
      | some connection, some newest =>
          decide (connection.writeLoop = .publishing) && newest.readLoop.started &&
            decide (Thrives socket (socket.connections.length - 1) newest)
      | _, _ => false
  | _ => false

def LeavesNewest (socket : ReconnectingWebSocket) (action : Action) : Prop :=
  OneConnect socket action ∧ tearsDown socket action = false

instance : Decidable (LeavesNewest socket action) :=
  inferInstanceAs (Decidable (_ ∧ _))

theorem Thrives.earlier (thrives : Thrives after index replaced)
    (effect : Step maxRetries socket action after)
    (running : replaced.ws.running = true -> connection.ws.running = true) :
    Thrives socket index connection := by
  rcases thrives with ⟨unclosed, alive, runs, unharmed⟩
  refine ⟨?_, effect.innerAlive alive, running runs,
    fun event member => unharmed event (effect.log.subset member)⟩
  cases flag : socket.close.value with
  | false => rfl
  | true => rw [effect.closed flag] at unclosed; cases unclosed

/-- The read loop has left its loop, or it has started and the disconnect
flag will make it leave. -/
def Leaving (socket : ReconnectingWebSocket) (connection : Connection) : Prop :=
  connection.readLoop.looping = false ∨
    (connection.readLoop.started = true ∧ socket.disconnect.value = true)

def LeavesForCause (socket : ReconnectingWebSocket) : Prop :=
  forall (index : Nat) (connection : Connection), socket.connections[index]? = some connection ->
    index + 1 = socket.connections.length -> Leaving socket connection ->
      ¬ Thrives socket index connection

/-- A Close frame that waits for the read loop has come from the stream. -/
theorem harmed_of_closeFrame {item : Item} {rest : List Item} (pipelines : Pipelines socket)
    (present : socket.connections[index]? = some connection)
    (inside : connection.readLoop.looping = true)
    (head : connection.ws.incoming.queue = item :: rest) (close : item.isClose = true) :
    ¬ Thrives socket index connection := by
  rintro ⟨_, _, _, unharmed⟩
  have underWay : item ∈ connection.transit := by
    simp only [Connection.transit, head, List.mem_append, List.mem_cons, true_or, or_true]
  have came := ((pipelines.each index connection present).inside inside).subset
    (List.mem_append_right _ underWay)
  rcases List.mem_filterMap.mp (List.mem_of_mem_filter came) with ⟨event, member, shown⟩
  have harmless := unharmed event member
  rcases event with _ | _ | _ | _ | _ | _ | _ | _ | _ | ⟨there, event⟩ <;> try cases shown
  cases event <;> try cases shown
  by_cases same : there = index
  · simp only [streamedItem, same, if_true, Option.some.injEq] at shown
    simp only [harms, same, shown, close, decide_true, Bool.and_self, Bool.true_eq_false]
      at harmless
  · simp only [streamedItem, same, if_false, reduceCtorEq] at shown

/-- Whatever makes a read loop leave is a cause, the flag by assumption. -/
theorem ReadLoopExit.cause {ws : WebSocketKeepAlive} {shouldReconnect : Bool}
    (exit : ReadLoopExit socket connection ws shouldReconnect) (pipelines : Pipelines socket)
    (present : socket.connections[index]? = some connection)
    (caused : Leaving socket connection -> ¬ Thrives socket index connection) :
    ¬ Thrives socket index connection := by
  cases exit with
  | streamEnded _ _ _ _ ended =>
      rintro ⟨_, _, running, _⟩
      simp only [WebSocketKeepAlive.running, ended, Bool.false_and, Bool.false_eq_true] at running
  | closeFrame item incoming _ _ rests head close =>
      exact harmed_of_closeFrame pipelines present (by rw [rests]; rfl) head close
  | disconnected _ _ rests flag => exact caused (Or.inr ⟨by rw [rests]; rfl, flag⟩)
  | closed _ _ _ flag =>
      rintro ⟨unclosed, _⟩
      rw [flag] at unclosed
      cases unclosed
  | orphaned _ _ gone =>
      rintro ⟨_, alive, _⟩
      rw [gone] at alive
      cases alive

/-- A read loop is leaving after its poll only if it was leaving before or has
found a cause. -/
theorem ReadLoopStep.leaving (effect : ReadLoopStep socket index connection replaced after)
    (pipelines : Pipelines socket) (present : socket.connections[index]? = some connection)
    (caused : Leaving socket connection -> ¬ Thrives socket index connection)
    (leaving : Leaving after replaced) : ¬ Thrives socket index connection := by
  have dead (gone : socket.innerAlive = false) : ¬ Thrives socket index connection :=
    fun ⟨_, alive, _⟩ => by rw [gone] at alive; cases alive
  cases effect with
  | spawned rests =>
      cases alive : socket.innerAlive with
      | false => exact dead alive
      | true =>
          simp only [Leaving, alive, if_true, ReadLoop.looping, ReadLoop.started] at leaving
          simp at leaving
  | started rests =>
      simp [Leaving, ReadLoop.looping] at leaving
  | took item incoming disconnectSeen closeSeen rests =>
      refine caused (Or.inr ⟨by rw [rests]; rfl, ?_⟩)
      simpa [Leaving, ReadLoop.looping, ReadLoop.started] using leaving
  | noticed disconnectSeen closeSeen _ _ rests =>
      refine caused (Or.inr ⟨by rw [rests]; rfl, ?_⟩)
      simpa [Leaving, ReadLoop.looping, ReadLoop.started] using leaving
  | forwarded item incoming disconnectSeen closeSeen rests =>
      refine caused (Or.inr ⟨by rw [rests]; rfl, ?_⟩)
      simpa [Leaving, ReadLoop.looping, ReadLoop.started] using leaving
  | left ws shouldReconnect exit => exact exit.cause pipelines present caused
  | reconnecting rests => exact caused (Or.inl (by rw [rests]; rfl))
  | ended rests => exact caused (Or.inl (by rw [rests]; rfl))

theorem LeavesForCause.of_replaces (caused : LeavesForCause socket)
    (replaces : Replaces socket after index connection replaced)
    (own : index + 1 = socket.connections.length ->
      (Leaving socket connection -> ¬ Thrives socket index connection) ->
        Leaving after replaced -> ¬ Thrives after index replaced)
    (others : forall there found, there ≠ index -> socket.connections[there]? = some found ->
      there + 1 = socket.connections.length ->
        (Leaving socket found -> ¬ Thrives socket there found) ->
          Leaving after found -> ¬ Thrives after there found) : LeavesForCause after := by
  intro there found located newest leaving
  rw [replaces.length] at newest
  rcases replaces.cases located with ⟨sameIndex, sameConnection⟩ | ⟨different, old⟩
  · subst sameIndex sameConnection
    exact own newest (caused there connection replaces.present newest) leaving
  · exact others there found different old newest (caused there found old newest) leaving

theorem Leaving.of_same (leaving : Leaving after replaced)
    (readLoop : replaced.readLoop = connection.readLoop)
    (flag : after.disconnect.value = socket.disconnect.value) : Leaving socket connection := by
  unfold Leaving at leaving ⊢
  rw [readLoop, flag] at leaving
  exact leaving

theorem LeavesForCause.of_appended
    (connections : after.connections = socket.connections ++ [Connection.new]) :
    LeavesForCause after := by
  intro there found located newest leaving
  rw [connections] at located newest
  rcases getElem?_append_cases located with ⟨_, same⟩ | ⟨older, _⟩
  · rw [same] at leaving
    simp [Leaving, Connection.new, ReadLoop.looping, ReadLoop.started] at leaving
  · rw [List.length_append, List.length_singleton] at newest
    omega

theorem ConnectStep.leavesForCause (effect : ConnectStep maxRetries socket action after)
    (caused : LeavesForCause socket) : LeavesForCause after := by
  have effects : Step maxRetries socket action after := .connect effect
  have flag : after.disconnect.value = socket.disconnect.value := by rw [effect.frame.disconnect]
  have reconnecting {index : Nat} {connection replaced : Connection} {call : ConnectCall}
      (replaces : Replaces socket after index connection replaced)
      (rests : connection.readLoop = .reconnecting call) (ws : replaced.ws = connection.ws) :
      LeavesForCause after := by
    refine caused.of_replaces replaces (fun _ before _ thrives => ?_)
      fun there found _ _ _ before leaving thrives => ?_
    · exact before (Or.inl (by rw [rests]; rfl))
        (thrives.earlier effects fun running => ws ▸ running)
    · exact before (leaving.of_same rfl flag) (thrives.earlier effects id)
  cases effect.table with
  | same connections =>
      intro index connection present newest leaving thrives
      rw [connections] at present newest
      exact caused index connection present newest (leaving.of_same rfl flag)
        (thrives.earlier effects id)
  | spawned connections => exact .of_appended connections
  | retrying _ _ _ _ rests replaces => exact reconnecting replaces rests rfl
  | gaveUp _ _ _ _ rests _ replaces => exact reconnecting replaces rests rfl
  | succeeded index connection _ _ _ initiated =>
      exact @LeavesForCause.of_appended
        (socket.setConnection index { connection with readLoop := .finished }) after
        (by rw [initiated]; rfl)

/-- A published end reaches the newest connection only if that does not
thrive. -/
theorem not_thrives_of_published (undisturbed : tearsDown socket (.writeLoop index) = false)
    (present : socket.connections[index]? = some connection)
    (publishing : connection.writeLoop = .publishing)
    (located : socket.connections[there]? = some found)
    (newest : there + 1 = socket.connections.length)
    (started : found.readLoop.started = true) : ¬ Thrives socket there found := by
  have last : socket.connections.getLast? = some found := by
    rw [List.getLast?_eq_getElem?, ← newest, Nat.add_sub_cancel]
    exact located
  have position : socket.connections.length - 1 = there := by omega
  simpa [tearsDown, present, last, publishing, started, position] using undisturbed

theorem WriteLoopStep.leavesForCause
    (effect : WriteLoopStep socket index connection replaced after)
    (effects : Step maxRetries socket (.writeLoop index) after)
    (present : socket.connections[index]? = some connection)
    (undisturbed : tearsDown socket (.writeLoop index) = false)
    (caused : LeavesForCause socket) : LeavesForCause after := by
  have replaces := effect.replaces present
  have frame := replaces.2
  have running : replaced.ws.running = true -> connection.ws.running = true := by
    simp only [WebSocketKeepAlive.running, frame.readTask, frame.writeTask]
    exact id
  -- The newest connection, whose read loop this step does not move.
  have newest {there : Nat} {found moved : Connection}
      (located : socket.connections[there]? = some found)
      (last : there + 1 = socket.connections.length) (readLoop : moved.readLoop = found.readLoop)
      (runs : moved.ws.running = true -> found.ws.running = true)
      (leaving : Leaving after moved) : ¬ Thrives after there moved := by
    intro thrives
    have earlier := thrives.earlier effects runs
    rcases effect.disconnect with same | ⟨publishing, _⟩
    · exact caused there found located last (leaving.of_same readLoop (by rw [same])) earlier
    · rcases leaving with left | ⟨started, _⟩
      · exact caused there found located last (Or.inl (readLoop ▸ left)) earlier
      · exact not_thrives_of_published undisturbed present publishing located last
          (readLoop ▸ started) earlier
  refine caused.of_replaces replaces.1 (fun last _ leaving => ?_)
    fun there found _ old last _ leaving => newest old last rfl id leaving
  exact newest present last frame.readLoop running leaving

theorem Step.leavesForCause (effect : Step maxRetries socket action after)
    (undisturbed : LeavesNewest socket action) (chain : SingleChain socket)
    (pipelines : Pipelines socket) (caused : LeavesForCause socket) : LeavesForCause after := by
  have effects := effect
  cases effect with
  | user effect =>
      have frame := effect.frame
      intro index connection present newest leaving thrives
      rw [frame.connections] at present newest
      exact caused index connection present newest
        (leaving.of_same rfl (by rw [frame.disconnect])) (thrives.earlier effects id)
  | connect effect => exact effect.leavesForCause caused
  | @readLoop index connection replaced _ present effect =>
      have replaces := effect.replaces present
      have frame := replaces.2
      have position := chain.newest present (unfinished_of_unpublished frame.unpublished)
      refine caused.of_replaces replaces.1 (fun _ before leaving thrives => ?_)
        fun there found different _ newest _ _ => absurd (by omega) different
      refine effect.leaving pipelines present before leaving (thrives.earlier effects ?_)
      simp only [WebSocketKeepAlive.running, frame.readTask, frame.writeTask]
      exact id
  | writeLoop present effect =>
      exact effect.leavesForCause effects present undisturbed.2 caused
  | keepAliveRead present effect =>
      exact caused.of_replaces (keepAlive_replaces present)
        (fun _ before leaving thrives => before (leaving.of_same rfl rfl)
          (thrives.earlier effects effect.running))
        fun there found _ _ _ before leaving thrives =>
          before (leaving.of_same rfl rfl) (thrives.earlier effects id)
  | keepAliveWrite present effect =>
      exact caused.of_replaces (keepAlive_replaces present)
        (fun _ before leaving thrives => before (leaving.of_same rfl rfl)
          (thrives.earlier effects effect.running))
        fun there found _ _ _ before leaving thrives =>
          before (leaving.of_same rfl rfl) (thrives.earlier effects id)

theorem leavesForCause_of_reaches
    (reached : Reaches (step maxRetries) LeavesNewest build socket) : LeavesForCause socket := by
  refine reached.invariant (fun index connection present => by cases present)
    fun before action after earlier caused undisturbed taken => ?_
  have chain := singleChain_of_reaches (earlier.mono fun _ _ allowed => allowed.1)
  exact (step_spec taken).leavesForCause undisturbed chain (pipelines_of_reaches earlier) caused

/-! ## The law and where it fails -/

/-- On a run started by one call of `connect` where no write loop publishes
its end while a thriving newest connection is being read, the read loop of the
newest connection stays in its loop as long as that connection thrives. -/
theorem newest_stays (maxRetries : Nat) (socket : ReconnectingWebSocket)
    (reached : Reaches (step maxRetries) LeavesNewest build socket) : NewestStays socket := by
  intro index connection present newest thrives
  cases inside : connection.readLoop.looping with
  | true => rfl
  | false =>
      exact absurd thrives
        (leavesForCause_of_reaches reached index connection present newest (Or.inl inside))

/-- A message goes from a call of `send` to the write loop of connection 0. -/
def sending (text : String) : List Action :=
  [.send (.text text), .pollSend 0, .writeLoop 0]

/-- A slow sink holds up the keepalive and the write loop of connection 0,
whose stream then ends.  Connection 1 is made and its loops start. -/
def heldUpRun : List Action :=
  [.connect, .attempted (.user 0) (.ok ()), .readLoop 0, .readLoop 0] ++
  sending "first" ++ [.writeLoop 0, .keepAliveWrite 0 false .pending] ++
  sending "second" ++ [.writeLoop 0] ++ sending "third" ++
  [.keepAliveRead 0 (.ready none), .keepAliveRead 0 .pending, .readLoop 0, .readLoop 0,
    .attempted (.readLoop 0) (.ok ()), .readLoop 1, .readLoop 1, .writeLoop 1]

/-- The write to the old sink fails, the old write loop keeps its message for
later and publishes its end, and the read loop of connection 1 leaves. -/
def tornDownRun : List Action :=
  heldUpRun ++ [.keepAliveWrite 0 false (.ready (.error .connectionClosed)),
    .keepAliveWrite 0 false .pending, .keepAliveWrite 0 false (.ready (.ok ())), .writeLoop 0,
    .writeLoop 0, .writeLoop 0, .readLoop 1]

theorem predecessor_tears_down : ¬ forall (maxRetries : Nat) (socket : ReconnectingWebSocket),
    Reaches (step maxRetries) OneConnect build socket -> NewestStays socket := by
  intro law
  have stays := law 10 _ (reaches_get_run tornDownRun rfl) 1 _ rfl rfl (by decide)
  cases stays

/-- Before the old sink fails the new connection is left alone. -/
theorem newest_stays_heldUp :
    NewestStays ((run (step 10) LeavesNewest build heldUpRun).get rfl) :=
  newest_stays 10 _ (reaches_get_run heldUpRun rfl)

end ReconnectingWebSocket
end WebSocket
end Fpd
