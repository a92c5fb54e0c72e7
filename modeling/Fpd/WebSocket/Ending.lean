import Fpd.WebSocket.Closing

namespace Fpd
namespace WebSocket
namespace ReconnectingWebSocket

open Async

/-!
# After the last connection

Once no read loop runs and no call of `connect` is under way, nothing will
ever make a new connection.  The documentation of `recv` promises `None` when
the WebSocket has closed.  What wakes a receiver and refuses a sender is the
close flag, and only `close` sets it: a read loop that ends on a Close frame
or on a reconnection that has failed for good leaves the flag alone.

The law is stated for all runs and fails.  It holds on the runs where a chain
of read loops ends in one of these two ways only after `close` was called.
-/

variable {socket after : ReconnectingWebSocket} {maxRetries : Nat} {action : Action}

/-- No read loop is live and no call of `connect` is in progress. -/
def ChainEnded (socket : ReconnectingWebSocket) : Prop :=
  socket.connects = [] ∧ forall connection, connection ∈ socket.connections ->
    connection.readLoop.running = false

/-- The call of `recv` is polled and goes on waiting. -/
def WaitsOn (call : Nat) (socket : ReconnectingWebSocket) (action : Action) : Prop :=
  action = .pollRecv call ∧ Exists fun after => socket.pollRecv call = some (after, .pending)

/-- Polled alone, the call of `recv` returns, now or after some polls that leave
it waiting.  Unless the incoming channel still holds a message it returns `None`
or an error. -/
def RecvReturns (maxRetries : Nat) (socket : ReconnectingWebSocket) (call : Nat) : Prop :=
  Exists fun before => Exists fun after => Exists fun result : Option Item =>
    Reaches (step maxRetries) (WaitsOn call) socket before ∧
      before.pollRecv call = some (after, .ready result) ∧
      ((forall message, .ok message ∉ socket.incoming.queue) ->
        forall message, result ≠ some (.ok message))

/-- A pending or a new `recv` is able to return and a new `send` is refused. -/
structure Answers (maxRetries : Nat) (socket : ReconnectingWebSocket) : Prop where
  pending : forall call, call < socket.recvs.length -> RecvReturns maxRetries socket call
  fresh : forall called, step maxRetries socket .recv = some called ->
    RecvReturns maxRetries called socket.recvs.length
  refuses : forall message called, step maxRetries socket (.send message) = some called ->
    Exists fun error => called = socket.emit [.refused error]

/-- The action ends a chain of read loops for another reason than the close
flag: a read loop takes a Close frame, or the last attempt of a reconnection
fails. -/
def endsChain (maxRetries : Nat) (socket : ReconnectingWebSocket) : Action -> Bool
  | .readLoop index =>
      match socket.connections[index]? with
      | some ⟨ws, .selecting _ _, _⟩ => ws.incoming.queue.any Item.isClose
      | _ => false
  | .attempted (.readLoop index) (.error error) =>
      match socket.connectCall (.readLoop index) with
      | some (.initiating attempt) => decide (attempt = maxRetries) || error.isClientError
      | _ => false
  | _ => false

/-- A chain of read loops ends on a Close frame or by a failed reconnection
only after `close` was called. -/
def ClosedBeforeEnd (maxRetries : Nat) (socket : ReconnectingWebSocket) (action : Action) : Prop :=
  socket.close.value = true ∨ endsChain maxRetries socket action = false

instance : Decidable (ClosedBeforeEnd maxRetries socket action) :=
  inferInstanceAs (Decidable (_ ∨ _))

/-! ## Calls on a closed WebSocket -/

/-- With the close flag set a call of `recv` that finds the incoming channel
empty returns `None`. -/
theorem pollRecv_closed {call : Nat} (watched : CloseWatched socket)
    (waiting : call < socket.recvs.length) (flag : socket.close.value = true)
    (drained : socket.incoming.queue = []) :
    socket.pollRecv call = some (socket.endRecv call none, .ready none) := by
  have called : socket.recvs[call]? = some socket.recvs[call] := List.getElem?_eq_getElem waiting
  have seen : socket.recvs[call] = 0 := watched.unseen _ (List.getElem_mem waiting)
  have alive : socket.innerAlive = true :=
    innerAlive_of_handle (watched.borrowed (Nat.lt_of_le_of_lt (Nat.zero_le call) waiting))
  have changed : socket.close.changed true socket.recvs[call] =
      .ready (.ok (true, socket.close.version)) := by
    rw [seen, Watch.changed_of_ne (watched.sent.mp flag), flag]
  have empty := (Channel.tryRecv_eq_none_iff socket.incoming).mpr drained
  simp only [pollRecv, called, empty, alive, changed, if_true]

/-- With the close flag set every call of `recv` returns: at once with what
the incoming channel holds, else with `None`. -/
theorem recvReturns_closed {call : Nat} (watched : CloseWatched socket)
    (waiting : call < socket.recvs.length) (flag : socket.close.value = true) :
    RecvReturns maxRetries socket call := by
  have called : socket.recvs[call]? = some socket.recvs[call] := List.getElem?_eq_getElem waiting
  cases taken : socket.incoming.tryRecv with
  | none =>
      have drained := (Channel.tryRecv_eq_none_iff _).mp taken
      exact ⟨socket, _, none, .refl, pollRecv_closed watched waiting flag drained,
        fun _ message => by simp⟩
  | some pair =>
      rcases pair with ⟨item, incoming⟩
      have head := (Channel.tryRecv_eq_some_iff _ _ _).mp taken
      cases kind : item.isReset with
      | false =>
          have polled : socket.pollRecv call = some
              (({ socket with incoming := incoming }.emit [.delivered item]).endRecv call
                (some item), .ready (some item)) := by
            simp only [pollRecv, called, taken, kind, Bool.false_eq_true, if_false]
          refine ⟨socket, _, some item, .refl, polled, fun errors message same => ?_⟩
          simp only [Option.some.injEq] at same
          exact errors message (by rw [head, same]; exact List.mem_cons_self)
      | true =>
          have polled : socket.pollRecv call = some
              ({ socket with incoming := incoming }.emit [.delivered item], .pending) := by
            simp only [pollRecv, called, taken, kind, if_true]
          have skips : step maxRetries socket (.pollRecv call) =
              some ({ socket with incoming := incoming }.emit [.delivered item]) := by
            simp only [step, polled, Option.map_some]
          -- The channel has room for one item, so it is empty after the skipped one.
          have drained : incoming.queue = [] := by
            have bounded := socket.incoming.bounded
            rw [head, List.length_cons] at bounded
            exact List.eq_nil_of_length_eq_zero (by omega)
          have skipped :
              CloseWatched ({ socket with incoming := incoming }.emit [.delivered item]) :=
            watched.of_same rfl rfl rfl
          exact ⟨_, _, none, .tail .refl ⟨rfl, _, polled⟩ skips,
            pollRecv_closed skipped waiting flag drained, fun _ message => by simp⟩

/-- A closed WebSocket answers every call. -/
theorem answers_closed (watched : CloseWatched socket) (flag : socket.close.value = true) :
    Answers maxRetries socket where
  pending := fun call waiting => recvReturns_closed watched waiting flag
  fresh := fun called taken => by
    by_cases handle : 0 < socket.handles
    · simp only [step, if_pos handle, Option.some.injEq] at taken
      subst taken
      have later : CloseWatched { socket with recvs := socket.recvs ++ [0] } :=
        UserStep.closeWatched (.recvCalled handle) watched
      exact recvReturns_closed later (by simp) flag
    · simp only [step, if_neg handle, reduceCtorEq] at taken
  refuses := fun message called taken => by
    by_cases handle : 0 < socket.handles
    · simp only [step, if_pos handle, Option.some.injEq, send, flag, if_true] at taken
      exact ⟨.alreadyClosed, taken.symm⟩
    · simp only [step, if_neg handle, reduceCtorEq] at taken

/-- Without a handle there is nobody to call anything. -/
theorem answers_dropped (watched : CloseWatched socket) (gone : ¬ 0 < socket.handles) :
    Answers maxRetries socket where
  pending := fun call waiting =>
    absurd (watched.borrowed (Nat.lt_of_le_of_lt (Nat.zero_le call) waiting)) gone
  fresh := fun called taken => by simp only [step, if_neg gone, reduceCtorEq] at taken
  refuses := fun message called taken => by simp only [step, if_neg gone, reduceCtorEq] at taken

/-! ## The chain of read loops -/

/-- Nobody waits for a connection any more: the WebSocket was closed or all
its handles are gone. -/
def Settled (socket : ReconnectingWebSocket) : Prop :=
  socket.close.value = true ∨ ¬ 0 < socket.handles

theorem Step.settled (effect : Step maxRetries socket action after) (settled : Settled socket) :
    Settled after :=
  settled.imp effect.closed fun none handle => none (effect.handles handle)

def HasLiveReadLoop (socket : ReconnectingWebSocket) : Prop :=
  Exists fun index : Nat => Exists fun connection : Connection =>
    socket.connections[index]? = some connection ∧ connection.readLoop.running = true

theorem Replaces.hasLiveReadLoop {index : Nat} {connection replaced : Connection}
    (replaces : Replaces socket after index connection replaced)
    (kept : connection.readLoop.running = true -> replaced.readLoop.running = true)
    (live : HasLiveReadLoop socket) : HasLiveReadLoop after := by
  rcases live with ⟨there, found, located, running⟩
  by_cases same : there = index
  · subst same
    have equal : found = connection := Option.some.inj (located.symm.trans replaces.present)
    exact ⟨there, replaced, replaces.located, kept (equal ▸ running)⟩
  · refine ⟨there, found, ?_, running⟩
    rw [replaces.connections, getElem?_set_there same]
    exact located

theorem hasLiveReadLoop_of_appended
    (connections : after.connections = socket.connections ++ [Connection.new]) :
    HasLiveReadLoop after := by
  refine ⟨socket.connections.length, Connection.new, ?_, rfl⟩
  rw [connections, List.getElem?_append_right (Nat.le_refl _), Nat.sub_self,
    List.getElem?_cons_zero]

/-- Once there is a connection, a read loop lives until the WebSocket is
settled; and one that has decided not to reconnect had that reason. -/
structure ChainLives (socket : ReconnectingWebSocket) : Prop where
  lives : socket.connections ≠ [] -> Settled socket ∨ HasLiveReadLoop socket
  resigned : forall (index : Nat) (connection : Connection),
    socket.connections[index]? = some connection ->
      connection.readLoop = .publishing false -> Settled socket

/-- A read loop that leaves without reconnecting has met a Close frame, or the
WebSocket is settled. -/
theorem ReadLoopExit.resigned {index : Nat} {connection : Connection} {ws : WebSocketKeepAlive}
    (exit : ReadLoopExit socket connection ws false)
    (present : socket.connections[index]? = some connection)
    (allowed : ClosedBeforeEnd maxRetries socket (.readLoop index)) : Settled socket := by
  cases exit with
  | closeFrame item incoming disconnectSeen closeSeen rests head close =>
      rcases allowed with flag | continues
      · exact Or.inl flag
      · rcases connection with ⟨keepalive, loop, writes⟩
        simp only at rests head
        subst rests
        simp [endsChain, present, head, close] at continues
  | closed _ _ _ flag => exact Or.inl flag
  | orphaned _ _ gone =>
      refine Or.inr fun handle => ?_
      rw [innerAlive_of_handle handle] at gone
      cases gone

theorem ReadLoopStep.resigned {index : Nat} {connection replaced : Connection}
    (effect : ReadLoopStep socket index connection replaced after)
    (present : socket.connections[index]? = some connection)
    (allowed : ClosedBeforeEnd maxRetries socket (.readLoop index))
    (rests : replaced.readLoop = .publishing false) : Settled socket := by
  cases effect with
  | left ws shouldReconnect exit =>
      cases alive : socket.innerAlive with
      | false => simp [alive] at rests
      | true =>
          simp only [alive, if_true, ReadLoop.publishing.injEq] at rests
          subst rests
          exact exit.resigned present allowed
  | spawned => cases alive : socket.innerAlive <;> simp [alive] at rests
  | started => cases rests
  | took => cases rests
  | noticed => cases rests
  | forwarded => cases rests
  | reconnecting => cases rests
  | ended => cases rests

/-- A read loop that ends without a reconnection had resigned before, or
`Inner` is gone. -/
theorem ReadLoopStep.finished {index : Nat} {connection replaced : Connection}
    (effect : ReadLoopStep socket index connection replaced after)
    (rests : replaced.readLoop.running = false) :
    connection.readLoop = .publishing false ∨ ¬ 0 < socket.handles := by
  cases effect with
  | ended before => exact Or.inl before
  | left ws shouldReconnect exit =>
      refine Or.inr fun handle => ?_
      simp only [innerAlive_of_handle handle, if_true, ReadLoop.running, Bool.true_eq_false]
        at rests
  | spawned => cases alive : socket.innerAlive <;> simp [alive, ReadLoop.running] at rests
  | started => cases rests
  | took => cases rests
  | noticed => cases rests
  | forwarded => cases rests
  | reconnecting => cases rests

theorem lives_of_same (connections : after.connections = socket.connections)
    (settled : Settled socket -> Settled after) (chain : ChainLives socket)
    (connected : after.connections ≠ []) : Settled after ∨ HasLiveReadLoop after := by
  rw [connections] at connected
  refine (chain.lives connected).imp settled ?_
  rintro ⟨index, connection, present, running⟩
  exact ⟨index, connection, connections ▸ present, running⟩

theorem Replaces.lives {index : Nat} {connection replaced : Connection}
    (replaces : Replaces socket after index connection replaced) (chain : ChainLives socket)
    (kept : connection.readLoop.running = true ->
      Settled socket ∨ replaced.readLoop.running = true) :
    Settled after ∨ HasLiveReadLoop after := by
  by_cases settled : Settled socket
  · exact Or.inl (settled.imp (fun flag => replaces.close ▸ flag)
      fun none handle => none (replaces.handles ▸ handle))
  · have connected : socket.connections ≠ [] := by
      intro none
      have located := replaces.present
      rw [none] at located
      cases located
    exact Or.inr (replaces.hasLiveReadLoop (fun running => (kept running).resolve_left settled)
      ((chain.lives connected).resolve_left settled))

/-- A reconnection that fails for good does so after `close`. -/
theorem settled_of_gaveUp {index attempt : Nat} {connection : Connection} {error : Error}
    (present : socket.connections[index]? = some connection)
    (rests : connection.readLoop = .reconnecting (.initiating attempt))
    (final : attempt = maxRetries ∨ error.isClientError = true)
    (allowed : ClosedBeforeEnd maxRetries socket (.attempted (.readLoop index) (.error error))) :
    Settled socket := by
  rcases allowed with flag | continues
  · exact Or.inl flag
  · rcases final with last | client
    · simp [endsChain, connectCall, present, rests, last] at continues
    · simp [endsChain, connectCall, present, rests, client] at continues

theorem Step.lives (effect : Step maxRetries socket action after)
    (allowed : ClosedBeforeEnd maxRetries socket action) (chain : ChainLives socket)
    (connected : after.connections ≠ []) : Settled after ∨ HasLiveReadLoop after := by
  have settled : Settled socket -> Settled after := effect.settled
  cases effect with
  | user effect => exact lives_of_same effect.frame.connections settled chain connected
  | connect effect =>
      cases effect.table with
      | same connections => exact lives_of_same connections settled chain connected
      | spawned connections => exact Or.inr (hasLiveReadLoop_of_appended connections)
      | retrying _ _ _ _ _ replaces => exact replaces.lives chain fun _ => Or.inr rfl
      | gaveUp _ _ _ _ rests final replaces =>
          exact replaces.lives chain fun _ =>
            Or.inl (settled_of_gaveUp replaces.present rests final allowed)
      | succeeded index connection _ _ _ initiated =>
          exact Or.inr (@hasLiveReadLoop_of_appended
            (socket.setConnection index { connection with readLoop := .finished }) after
            (by rw [initiated]; rfl))
  | @readLoop index connection replaced _ present effect =>
      refine (effect.replaces present).1.lives chain fun _ => ?_
      cases running : replaced.readLoop.running with
      | true => exact Or.inr rfl
      | false =>
          rcases effect.finished running with resigned | gone
          · exact Or.inl (chain.resigned index connection present resigned)
          · exact Or.inl (Or.inr gone)
  | writeLoop present effect =>
      have replaces := effect.replaces present
      exact replaces.1.lives chain fun running => Or.inr (replaces.2.readLoop ▸ running)
  | keepAliveRead present =>
      exact (keepAlive_replaces present).lives chain fun running => Or.inr running
  | keepAliveWrite present =>
      exact (keepAlive_replaces present).lives chain fun running => Or.inr running

theorem Replaces.resigned {index : Nat} {connection replaced : Connection}
    (replaces : Replaces socket after index connection replaced) (chain : ChainLives socket)
    (own : replaced.readLoop = .publishing false -> Settled socket) {there : Nat}
    {found : Connection} (located : after.connections[there]? = some found)
    (rests : found.readLoop = .publishing false) : Settled socket := by
  rcases replaces.cases located with ⟨_, same⟩ | ⟨_, old⟩
  · exact own (same ▸ rests)
  · exact chain.resigned there found old rests

theorem resigned_of_appended
    (connections : after.connections = socket.connections ++ [Connection.new])
    (chain : forall (index : Nat) (connection : Connection),
      socket.connections[index]? = some connection ->
        connection.readLoop = .publishing false -> Settled socket) {there : Nat}
    {found : Connection} (located : after.connections[there]? = some found)
    (rests : found.readLoop = .publishing false) : Settled socket := by
  rw [connections] at located
  rcases getElem?_append_cases located with ⟨_, same⟩ | ⟨_, old⟩
  · rw [same] at rests
    cases rests
  · exact chain there found old rests

theorem Step.resigned (effect : Step maxRetries socket action after)
    (allowed : ClosedBeforeEnd maxRetries socket action) (chain : ChainLives socket)
    {there : Nat} {found : Connection} (located : after.connections[there]? = some found)
    (rests : found.readLoop = .publishing false) : Settled socket := by
  cases effect with
  | user effect => exact chain.resigned there found (effect.frame.connections ▸ located) rests
  | connect effect =>
      cases effect.table with
      | same connections => exact chain.resigned there found (connections ▸ located) rests
      | spawned connections => exact resigned_of_appended connections chain.resigned located rests
      | retrying _ _ _ _ _ replaces => exact replaces.resigned chain (by simp) located rests
      | gaveUp _ _ _ _ _ _ replaces => exact replaces.resigned chain (by simp) located rests
      | succeeded index connection _ _ replaces initiated =>
          subst initiated
          exact @resigned_of_appended
            (socket.setConnection index { connection with readLoop := .finished }) _ rfl
            (fun _ _ old rests => replaces.resigned chain (by simp) old rests) _ _ located rests
  | readLoop present effect =>
      exact (effect.replaces present).1.resigned chain
        (fun own => effect.resigned present allowed own) located rests
  | writeLoop present effect =>
      have replaces := effect.replaces present
      exact replaces.1.resigned chain
        (fun own => chain.resigned _ _ present (replaces.2.readLoop ▸ own)) located rests
  | @keepAliveRead index connection stream ws events present =>
      have replaces := @keepAlive_replaces socket index connection ws events present
      exact replaces.resigned chain (chain.resigned index connection present) located rests
  | @keepAliveWrite index connection timeout sink ws events present =>
      have replaces := @keepAlive_replaces socket index connection ws events present
      exact replaces.resigned chain (chain.resigned index connection present) located rests

theorem Step.chainLives (effect : Step maxRetries socket action after)
    (allowed : ClosedBeforeEnd maxRetries socket action) (chain : ChainLives socket) :
    ChainLives after where
  lives := effect.lives allowed chain
  resigned := fun _ _ located rests => effect.settled (effect.resigned allowed chain located rests)

theorem chainLives_of_reaches
    (reached : Reaches (step maxRetries) (ClosedBeforeEnd maxRetries) build socket) :
    ChainLives socket := by
  refine reached.invariant ⟨fun none => absurd rfl none, ?_⟩
    fun before action after _ chain allowed taken => (step_spec taken).chainLives allowed chain
  exact fun index connection present => by cases present

/-! ## The law and where it fails -/

/-- On a run where a chain of read loops ends on a Close frame or a failed
reconnection only after `close` was called, a WebSocket whose chain has ended
answers every call. -/
theorem answers_of_chainEnded (maxRetries : Nat) (socket : ReconnectingWebSocket)
    (reached : Reaches (step maxRetries) (ClosedBeforeEnd maxRetries) build socket)
    (connected : ConnectedOnce socket) (ended : ChainEnded socket) :
    Answers maxRetries socket := by
  have chain := chainLives_of_reaches reached
  have watched := closeWatched_of_reaches reached
  have settled : Settled socket := by
    refine (chain.lives (connections_of_connectedOnce reached connected)).resolve_right ?_
    rintro ⟨index, connection, present, running⟩
    rw [ended.2 connection (List.mem_of_getElem? present)] at running
    cases running
  rcases settled with flag | gone
  · exact answers_closed watched flag
  · exact answers_dropped watched gone

/-- A connection on which the server sends a Close frame, up to the end of its
read loop.  `meanwhile` is what users do before the read loop sees the frame. -/
def closeFrameRun (meanwhile : List Action) : List Action :=
  [.connect, .attempted (.user 0) (.ok ()), .readLoop 0, .readLoop 0,
    .keepAliveRead 0 (.ready (some (.ok (.close none)))), .keepAliveRead 0 .pending] ++
  meanwhile ++ [.readLoop 0, .readLoop 0]

def afterCloseFrame : ReconnectingWebSocket :=
  { build with
    disconnect := ⟨true, 2⟩
    connections := [⟨.newWithPingTimeout, .finished, .selecting 0 0⟩]
    log := [.connecting, .connected 0, .connectReturned (.ok ()),
      .keepAlive 0 (.streamed (.ok (.close none)))] }

/-- After a Close frame the chain has ended and `send` still takes a message. -/
theorem closeFrame_leaves_send_open : ¬ forall (maxRetries : Nat) (socket : ReconnectingWebSocket),
    Reaches (step maxRetries) anyStep build socket -> ConnectedOnce socket -> ChainEnded socket ->
      Answers maxRetries socket := by
  intro law
  have reached : Reaches (step 10) anyStep build afterCloseFrame :=
    reaches_of_run (closeFrameRun []) rfl
  have answers := law 10 afterCloseFrame reached (by unfold ConnectedOnce; decide)
    ⟨rfl, by decide⟩
  rcases answers.refuses (.text "late") _ rfl with ⟨error, refused⟩
  have sends : [Message.text "late"] = [] := congrArg ReconnectingWebSocket.sends refused
  cases sends

/-- On the same run with `close` called in time every call is answered. -/
theorem answers_of_chainEnded_closeFrame :
    Answers 10
      { afterCloseFrame with close := ⟨true, 1⟩, log := afterCloseFrame.log ++ [.closed] } :=
  answers_of_chainEnded 10 _ (reaches_of_run (closeFrameRun [.close]) rfl)
    (by unfold ConnectedOnce; decide) ⟨rfl, by decide⟩

end ReconnectingWebSocket
end WebSocket
end Fpd
