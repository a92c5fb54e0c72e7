import Fpd.WebSocket.Chain

namespace Fpd
namespace WebSocket
namespace ReconnectingWebSocket

open Async

/-!
# Half-open connections

A write loop that has finished is to stop the read loop of its connection: it
sets the disconnect flag.  But the first step of a read loop resets the flag.
A new write loop that is polled first finds the flag still set by the previous
connection, ends and sets it again, and the read loop of its own connection
resets it afterwards and never learns of the end.

The law holds on the runs where no write loop publishes its end before the
read loop of its connection has started, unless that read loop has another
reason to leave.
-/

variable {socket after : ReconnectingWebSocket} {maxRetries : Nat} {action : Action}
  {index : Nat} {connection replaced : Connection}

/-- A read loop sits in its select with no exit enabled and the write loop of
its connection has finished. -/
def HalfOpen (socket : ReconnectingWebSocket) : Prop :=
  Exists fun index : Nat => Exists fun connection : Connection =>
    socket.connections[index]? = some connection ∧ connection.writeLoop = .finished ∧
      (Exists fun disconnectSeen => Exists fun closeSeen =>
        connection.readLoop = .selecting disconnectSeen closeSeen) ∧
      connection.ws.running = true ∧ socket.disconnect.value = false ∧
      socket.close.value = false ∧ socket.innerAlive = true

/-- The read loop of the connection has a reason to leave besides the
disconnect flag. -/
def Excused (socket : ReconnectingWebSocket) (connection : Connection) : Prop :=
  socket.close.value = true ∨ connection.ws.running = false ∨ socket.innerAlive = false

instance : Decidable (Excused socket connection) :=
  inferInstanceAs (Decidable (_ ∨ _ ∨ _))

/-- The write loop publishes its end before the read loop of its connection
has reset the disconnect flag. -/
def endsEarly (socket : ReconnectingWebSocket) : Action -> Bool
  | .writeLoop index =>
      match socket.connections[index]? with
      | some connection =>
          decide (connection.writeLoop = .publishing) && connection.readLoop.unpublished &&
            !connection.readLoop.started && !decide (Excused socket connection)
      | none => false
  | _ => false

def InOrder (socket : ReconnectingWebSocket) (action : Action) : Prop :=
  OneConnect socket action ∧ endsEarly socket action = false

instance : Decidable (InOrder socket action) :=
  inferInstanceAs (Decidable (_ ∧ _))

/-- Where the write loop has finished, the read loop has started and will find
the disconnect flag set, or it has another reason to leave. -/
def Noticed (socket : ReconnectingWebSocket) (connection : Connection) : Prop :=
  connection.writeLoop.running = false -> connection.readLoop.unpublished = true ->
    Excused socket connection ∨
      (connection.readLoop.started = true ∧ socket.disconnect.value = true)

def AllNoticed (socket : ReconnectingWebSocket) : Prop :=
  forall (index : Nat) (connection : Connection), socket.connections[index]? = some connection ->
    Noticed socket connection

theorem Excused.mono (excused : Excused socket connection)
    (closed : socket.close.value = true -> after.close.value = true)
    (running : replaced.ws.running = true -> connection.ws.running = true)
    (dead : socket.innerAlive = false -> after.innerAlive = false) : Excused after replaced := by
  refine excused.imp closed (Or.imp (fun ended => ?_) dead)
  cases still : replaced.ws.running with
  | false => rfl
  | true => rw [running still] at ended; cases ended

theorem Noticed.mono (noticed : Noticed socket connection)
    (writeLoop : replaced.writeLoop = connection.writeLoop)
    (readLoop : replaced.readLoop = connection.readLoop)
    (excused : Excused socket connection -> Excused after replaced)
    (flag : socket.disconnect.value = true -> after.disconnect.value = true) :
    Noticed after replaced := by
  intro ended unpublished
  rw [writeLoop] at ended
  rw [readLoop] at unpublished ⊢
  exact (noticed ended unpublished).imp excused (And.imp_right flag)

/-! ## What one step preserves -/

theorem AllNoticed.of_replaces (noticed : AllNoticed socket)
    (replaces : Replaces socket after index connection replaced)
    (own : Noticed after replaced)
    (flag : socket.disconnect.value = true -> after.disconnect.value = true)
    (dead : socket.innerAlive = false -> after.innerAlive = false) : AllNoticed after := by
  intro there found located
  rcases replaces.cases located with ⟨_, same⟩ | ⟨_, old⟩
  · exact same ▸ own
  · exact (noticed there found old).mono rfl rfl
      (fun excused => excused.mono (fun closed => replaces.close ▸ closed) id dead) flag

/-- A read loop that has started keeps a set flag until it publishes its end. -/
theorem ReadLoopStep.keepsFlag (effect : ReadLoopStep socket index connection replaced after)
    (started : connection.readLoop.started = true) (flag : socket.disconnect.value = true)
    (unpublished : replaced.readLoop.unpublished = true) :
    replaced.readLoop.started = true ∧ after.disconnect.value = true := by
  cases effect with
  | spawned rests => rw [rests] at started; cases started
  | started rests => rw [rests] at started; cases started
  | took => exact ⟨rfl, flag⟩
  | noticed => exact ⟨rfl, flag⟩
  | forwarded => exact ⟨rfl, flag⟩
  | left =>
      cases alive : socket.innerAlive with
      | true => exact ⟨rfl, flag⟩
      | false => rw [alive] at unpublished; cases unpublished
  | reconnecting => cases unpublished
  | ended => cases unpublished

/-- A write loop that ends has published its end, or `Inner` is gone. -/
theorem WriteLoopStep.ended (effect : WriteLoopStep socket index connection replaced after)
    (ended : replaced.writeLoop.running = false) :
    (connection.writeLoop = .publishing ∧ after.disconnect.value = true) ∨
      socket.innerAlive = false := by
  cases effect with
  | published rests => exact Or.inl ⟨rests, rfl⟩
  | left =>
      cases alive : socket.innerAlive with
      | true => rw [alive] at ended; cases ended
      | false => exact Or.inr rfl
  | requeued =>
      cases alive : socket.innerAlive with
      | true => rw [alive] at ended; cases ended
      | false => exact Or.inr rfl
  | retried => cases ended
  | took => cases ended
  | noticed => cases ended
  | sent => cases ended
  | refused => cases ended

theorem noticed_of_published (published : connection.readLoop.unpublished = false) :
    Noticed socket connection :=
  fun _ unpublished => by rw [published] at unpublished; cases unpublished

theorem AllNoticed.of_appended (noticed : AllNoticed socket)
    (connections : after.connections = socket.connections ++ [Connection.new])
    (keeps : forall found, Noticed socket found -> Noticed after found) : AllNoticed after := by
  intro there found located
  rw [connections] at located
  rcases getElem?_append_cases located with ⟨_, same⟩ | ⟨_, old⟩
  · rw [same]
    exact fun ended => by cases ended
  · exact keeps found (noticed there found old)

theorem ReadLoopStep.keepsNoticed (effect : ReadLoopStep socket index connection replaced after)
    (present : socket.connections[index]? = some connection) (noticed : Noticed socket connection)
    (dead : socket.innerAlive = false -> after.innerAlive = false) : Noticed after replaced := by
  have replaces := effect.replaces present
  have frame := replaces.2
  intro ended unpublished
  rw [frame.writeLoop] at ended
  rcases noticed ended frame.unpublished with excused | ⟨started, flag⟩
  · refine Or.inl (excused.mono (fun closed => replaces.1.close ▸ closed) (fun running => ?_) dead)
    simpa only [WebSocketKeepAlive.running, frame.readTask, frame.writeTask] using running
  · exact Or.inr (effect.keepsFlag started flag unpublished)

theorem WriteLoopStep.keepsNoticed (effect : WriteLoopStep socket index connection replaced after)
    (present : socket.connections[index]? = some connection)
    (inOrder : endsEarly socket (.writeLoop index) = false)
    (dead : socket.innerAlive = false -> after.innerAlive = false) : Noticed after replaced := by
  have replaces := effect.replaces present
  have frame := replaces.2
  intro ended unpublished
  rw [frame.readLoop] at unpublished ⊢
  rcases effect.ended ended with ⟨publishing, flag⟩ | gone
  · cases started : connection.readLoop.started with
    | true => exact Or.inr ⟨rfl, flag⟩
    | false =>
        simp only [endsEarly, present, publishing, unpublished, started, decide_true, Bool.and_self,
          Bool.not_false, Bool.true_and, Bool.not_eq_false', decide_eq_true_eq] at inOrder
        refine Or.inl (inOrder.mono (fun closed => replaces.1.close ▸ closed)
          (fun running => ?_) dead)
        simpa only [WebSocketKeepAlive.running, frame.readTask, frame.writeTask] using running
  · exact Or.inl (Or.inr (Or.inr (dead gone)))

theorem ConnectStep.allNoticed (effect : ConnectStep maxRetries socket action after)
    (noticed : AllNoticed socket) : AllNoticed after := by
  have dead := (Step.connect effect).dead
  have frame := effect.frame
  have flag : socket.disconnect.value = true -> after.disconnect.value = true :=
    fun set => frame.disconnect ▸ set
  have keeps (found : Connection) (before : Noticed socket found) : Noticed after found :=
    before.mono rfl rfl
      (fun excused => excused.mono (fun closed => frame.close ▸ closed) id dead) flag
  cases effect.table with
  | same connections =>
      exact fun index connection present =>
        keeps connection (noticed index connection (connections ▸ present))
  | spawned connections => exact noticed.of_appended connections keeps
  | retrying _ _ _ _ _ replaces =>
      exact noticed.of_replaces replaces (noticed_of_published rfl) flag dead
  | gaveUp _ _ _ _ _ _ replaces =>
      exact noticed.of_replaces replaces (noticed_of_published rfl) flag dead
  | succeeded index connection _ _ replaces initiated =>
      subst initiated
      refine AllNoticed.of_appended (noticed.of_replaces replaces (noticed_of_published rfl) id
        (dead_of_alive replaces.innerAlive)) rfl fun found before => ?_
      exact before.mono rfl rfl (fun excused => excused.mono id id
        (dead_of_alive innerAlive_of_initiated)) id

theorem Step.allNoticed (effect : Step maxRetries socket action after)
    (inOrder : InOrder socket action) (chain : SingleChain socket) (noticed : AllNoticed socket) :
    AllNoticed after := by
  have dead := effect.dead
  cases effect with
  | user effect =>
      have frame := effect.frame
      intro index connection present
      refine (noticed index connection (frame.connections ▸ present)).mono rfl rfl
        (fun excused => excused.mono frame.closed id dead) fun flag => frame.disconnect ▸ flag
  | connect effect => exact effect.allNoticed noticed
  | @readLoop index connection replaced _ present effect =>
      have replaces := effect.replaces present
      -- Every other read loop is finished, so the flag only matters to this one.
      intro there found located
      rcases replaces.1.cases located with ⟨_, same⟩ | ⟨different, old⟩
      · exact same ▸ effect.keepsNoticed present (noticed index connection present) dead
      · refine noticed_of_published ?_
        cases unpublished : found.readLoop.unpublished with
        | false => rfl
        | true =>
            exact absurd (chain.unique old (unfinished_of_unpublished unpublished) present
              (unfinished_of_unpublished replaces.2.unpublished)) different
  | writeLoop present effect =>
      have replaces := effect.replaces present
      refine noticed.of_replaces replaces.1 (effect.keepsNoticed present inOrder.2 dead) ?_ dead
      intro flag
      rcases effect.disconnect with same | ⟨_, sent⟩
      · exact same ▸ flag
      · rw [sent]; rfl
  | keepAliveRead present effect =>
      refine noticed.of_replaces (keepAlive_replaces present) ?_ id dead
      exact (noticed _ _ present).mono rfl rfl
        (fun excused => excused.mono id effect.running dead) id
  | keepAliveWrite present effect =>
      refine noticed.of_replaces (keepAlive_replaces present) ?_ id dead
      exact (noticed _ _ present).mono rfl rfl
        (fun excused => excused.mono id effect.running dead) id

theorem allNoticed_of_reaches
    (reached : Reaches (step maxRetries) InOrder build socket) : AllNoticed socket := by
  refine reached.invariant (fun index connection present => by cases present)
    fun before action after earlier noticed inOrder taken => ?_
  have chain := singleChain_of_reaches (earlier.mono fun _ _ allowed => allowed.1)
  exact (step_spec taken).allNoticed inOrder chain noticed

/-! ## The law and where it fails -/

/-- On a run started by one call of `connect` where no write loop publishes
its end before its read loop has started, no connection is ever half open. -/
theorem not_halfOpen (maxRetries : Nat) (socket : ReconnectingWebSocket)
    (reached : Reaches (step maxRetries) InOrder build socket) : ¬ HalfOpen socket := by
  rintro ⟨index, connection, present, finished, ⟨_, _, rests⟩, running, flag, unclosed, alive⟩
  have noticed := allNoticed_of_reaches reached index connection present
    (by rw [finished]; rfl) (by rw [rests]; rfl)
  rcases noticed with (closed | ended | dead) | ⟨_, set⟩
  · rw [unclosed] at closed; cases closed
  · rw [running] at ended; cases ended
  · rw [alive] at dead; cases dead
  · rw [flag] at set; cases set

/-- The keepalive of a connection whose stream has ended. -/
def endedKeepAlive : WebSocketKeepAlive :=
  { WebSocketKeepAlive.newWithPingTimeout with disconnect := ⟨true, 1⟩, readTask := .finished }

/-- The stream of a first connection ends and its read loop reconnects. -/
def reconnectRun : List Action :=
  [.connect, .attempted (.user 0) (.ok ()), .readLoop 0, .readLoop 0,
    .keepAliveRead 0 (.ready none), .keepAliveRead 0 .pending, .readLoop 0, .readLoop 0,
    .attempted (.readLoop 0) (.ok ())]

/-- The state after `reconnectRun` but for the second connection and the flag. -/
def reconnectedWith (disconnect : Watch Bool) (connection : Connection) : ReconnectingWebSocket :=
  { build with
    disconnect := disconnect
    connections := [⟨endedKeepAlive, .finished, .selecting 0 0⟩, connection]
    log := [.connecting, .connected 0, .connectReturned (.ok ()), .keepAlive 0 .streamEnded,
      .connecting, .connected 1] }

/-- On the second connection the write loop is polled before the read loop:
the read loop then waits for a flag that it has reset itself. -/
theorem staleFlag_halfOpen : ¬ forall (maxRetries : Nat) (socket : ReconnectingWebSocket),
    Reaches (step maxRetries) OneConnect build socket -> ¬ HalfOpen socket := by
  intro law
  have reached : Reaches (step 10) OneConnect build
      (reconnectedWith ⟨false, 4⟩ ⟨.newWithPingTimeout, .selecting 4 0, .finished⟩) :=
    reaches_of_run (reconnectRun ++
      [.writeLoop 1, .writeLoop 1, .readLoop 1, .readLoop 1, .readLoop 1]) rfl
  exact law 10 _ reached ⟨1, _, rfl, rfl, ⟨4, 0, rfl⟩, rfl, rfl, rfl, rfl⟩

/-- Polled the other way round the second connection stays whole. -/
theorem not_halfOpen_reconnected : ¬ HalfOpen
    (reconnectedWith ⟨false, 3⟩ ⟨.newWithPingTimeout, .selecting 0 0, .selecting 3 0⟩) :=
  not_halfOpen 10 _ (reaches_of_run (reconnectRun ++ [.readLoop 1, .readLoop 1, .writeLoop 1]) rfl)

end ReconnectingWebSocket
end WebSocket
end Fpd
