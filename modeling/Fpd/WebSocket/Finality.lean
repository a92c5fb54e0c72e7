import Fpd.WebSocket.Frames
import Mathlib.Data.List.TakeWhile

namespace Fpd
namespace WebSocket

open Async

/-!
# Connection attempts after `close`

`close` sets a flag and nothing else.  A read loop that finds the flag leaves
without reconnecting, but it polls the stream and the disconnect flag first, and
the write loop that has found the close flag sets that one.  A call of `connect`
never looks at the flag, neither at its start nor between two attempts.

The law that no attempt starts after `close` holds on the runs where none of
these steps is taken: on them a set flag finds no call that will start another
attempt, and no such call comes to be.
-/

def ConnectCall.waits : ConnectCall -> Bool
  | .initiating _ => false
  | .sleeping _ => true

/-- The loop goes on to another attempt to connect. -/
def ReadLoop.retries : ReadLoop -> Bool
  | .publishing shouldReconnect => shouldReconnect
  | .reconnecting call => call.waits
  | _ => false

namespace ReconnectingWebSocket

/-- No attempt to connect is started after `close`, so that there is none whose
response could still be handled. -/
def CloseIsFinal (socket : ReconnectingWebSocket) : Prop :=
  .connecting ∉ socket.log.dropWhile fun event => decide (event ≠ .closed)

instance {socket : ReconnectingWebSocket} : Decidable (CloseIsFinal socket) :=
  inferInstanceAs (Decidable (¬ _))

/-- Some call of `connect` waits for its next attempt, or a read loop is about
to call `connect`. -/
def willRetry (socket : ReconnectingWebSocket) : Bool :=
  socket.connects.any ConnectCall.waits ||
    socket.connections.any fun connection => connection.readLoop.retries

/-- The poll of a read loop finds the stream ended or the disconnect flag set,
before it looks at the close flag. -/
def breaksToReconnect (socket : ReconnectingWebSocket) (connection : Connection) : Bool :=
  match connection.readLoop with
  | .selecting disconnectSeen _ =>
      socket.innerAlive && match connection.ws.recv with
        | .ready (none, _) => true
        | .ready (some _, _) => false
        | .pending =>
            decide (socket.disconnect.version ≠ disconnectSeen) && socket.disconnect.value
  | _ => false

/-- The flag is set while an attempt is to come, or with the flag set a call of
`connect` begins, waits for its next attempt or is decided upon. -/
def revives (maxRetries : Nat) (socket : ReconnectingWebSocket) : Action -> Bool
  | .close => socket.willRetry
  | .connect => socket.close.value
  | .attempted caller (.error error) =>
      socket.close.value && match socket.connectCall caller with
        | some (.initiating attempt) => decide (attempt ≠ maxRetries) && !error.isClientError
        | _ => false
  | .readLoop index =>
      socket.close.value && match socket.connections[index]? with
        | some connection => breaksToReconnect socket connection
        | none => false
  | _ => false

def RevivesNothing (maxRetries : Nat) (socket : ReconnectingWebSocket) (action : Action) : Prop :=
  revives maxRetries socket action = false

variable {socket after : ReconnectingWebSocket} {maxRetries : Nat} {action : Action}
  {index : Nat} {connection replaced : Connection}

instance : Decidable (RevivesNothing maxRetries socket action) :=
  inferInstanceAs (Decidable (_ = _))

theorem willRetry_eq_false_iff : socket.willRetry = false ↔
    (forall call, call ∈ socket.connects -> call.waits = false) ∧
      forall connection, connection ∈ socket.connections -> connection.readLoop.retries = false := by
  simp only [willRetry, Bool.or_eq_false_iff, List.any_eq_false, Bool.not_eq_true]

/-! ## Steps that start an attempt -/

/-- What a step adds to the log: `close` adds its event only, and an attempt is
started by a call of `connect` or where one was to come. -/
structure News (socket : ReconnectingWebSocket) (action : Action) (events : List Event) : Prop where
  closed : .closed ∈ events -> action = .close ∧ events = [.closed]
  connecting : .connecting ∈ events -> action = .connect ∨ socket.willRetry = true

theorem News.quiet {events : List Event} (noClose : .closed ∉ events)
    (noAttempt : .connecting ∉ events) : News socket action events :=
  ⟨fun found => absurd found noClose, fun found => absurd found noAttempt⟩

theorem News.retrying {events : List Event} (noClose : .closed ∉ events)
    (retries : socket.willRetry = true) : News socket action events :=
  ⟨fun found => absurd found noClose, fun _ => Or.inr retries⟩

theorem willRetry_of_call {position : Nat} {call : ConnectCall}
    (called : socket.connects[position]? = some call) (waits : call.waits = true) :
    socket.willRetry = true := by
  rw [willRetry, Bool.or_eq_true, List.any_eq_true]
  exact Or.inl ⟨call, List.mem_of_getElem? called, waits⟩

theorem willRetry_of_loop (present : socket.connections[index]? = some connection)
    (retries : connection.readLoop.retries = true) : socket.willRetry = true := by
  rw [willRetry, Bool.or_eq_true, List.any_eq_true, List.any_eq_true]
  exact Or.inr ⟨connection, List.mem_of_getElem? present, retries⟩

theorem ConnectStep.news (effect : ConnectStep maxRetries socket action after) :
    Exists fun events => after.log = socket.log ++ events ∧ News socket action events := by
  cases effect with
  | called => exact ⟨[.connecting], rfl, ⟨fun found => by simp at found, fun _ => Or.inl rfl⟩⟩
  | userWoken call attempt called =>
      exact ⟨[.connecting], rfl, .retrying (by simp) (willRetry_of_call called rfl)⟩
  | woken index attempt connection present rests =>
      have retries : connection.readLoop.retries = true := by rw [rests]; rfl
      exact ⟨[.connecting], rfl, .retrying (by simp) (willRetry_of_loop present retries)⟩
  | userConnected call =>
      exact ⟨[.connected socket.connections.length, .connectReturned (.ok ())],
        List.append_assoc _ [_] [_], .quiet (by simp) (by simp)⟩
  | cancelled => exact ⟨[], (List.append_nil _).symm, .quiet (by simp) (by simp)⟩
  | userFailed => exact ⟨_, rfl, .quiet (by simp) (by simp)⟩
  | userWaits => exact ⟨[], (List.append_nil _).symm, .quiet (by simp) (by simp)⟩
  | reconnected => exact ⟨_, rfl, .quiet (by simp) (by simp)⟩
  | gaveUp => exact ⟨[], (List.append_nil _).symm, .quiet (by simp) (by simp)⟩
  | waits => exact ⟨[], (List.append_nil _).symm, .quiet (by simp) (by simp)⟩

theorem UserStep.news (effect : UserStep socket action after) :
    Exists fun events => after.log = socket.log ++ events ∧ News socket action events := by
  cases effect with
  | closed => exact ⟨[.closed], rfl, ⟨fun _ => ⟨rfl, rfl⟩, fun found => by simp at found⟩⟩
  | received call item =>
      exact ⟨[.delivered item, .received (some item)], List.append_assoc _ [_] [_],
        .quiet (by simp) (by simp)⟩
  | _ => first
      | exact ⟨[], (List.append_nil _).symm, .quiet (by simp) (by simp)⟩
      | exact ⟨_, rfl, .quiet (by simp) (by simp)⟩

theorem Step.news (effect : Step maxRetries socket action after) :
    Exists fun events => after.log = socket.log ++ events ∧ News socket action events := by
  cases effect with
  | user effect => exact effect.news
  | connect effect => exact effect.news
  | readLoop present effect =>
      cases effect with
      | reconnecting rests =>
          have retries := @willRetry_of_loop socket _ _ present (by rw [rests]; rfl)
          exact ⟨[.connecting], rfl, .retrying (by simp) retries⟩
      | forwarded => exact ⟨_, rfl, .quiet (by simp) (by simp)⟩
      | _ => exact ⟨[], (List.append_nil _).symm, .quiet (by simp) (by simp)⟩
  | writeLoop present effect =>
      exact ⟨[], by rw [effect.log, List.append_nil], .quiet (by simp) (by simp)⟩
  | keepAliveRead => exact ⟨_, rfl, .quiet (by simp) (by simp)⟩
  | keepAliveWrite => exact ⟨_, rfl, .quiet (by simp) (by simp)⟩

/-! ## No attempt comes to be -/

theorem ReadLoopExit.breaks {ws : WebSocketKeepAlive}
    (exit : ReadLoopExit socket connection ws true) (alive : socket.innerAlive = true) :
    breaksToReconnect socket connection = true := by
  cases exit with
  | streamEnded disconnectSeen closeSeen rests drained ended =>
      have answered : connection.ws.recv = .ready (none, connection.ws) := by
        simp [WebSocketKeepAlive.recv, (Channel.tryRecv_eq_none_iff _).mpr drained, ended]
      simp only [breaksToReconnect, rests, alive, answered, Bool.and_self]
  | disconnected disconnectSeen closeSeen rests flag changed waits =>
      simp only [breaksToReconnect, rests, alive, waits, flag, Bool.true_and, Bool.and_true,
        decide_eq_true_eq]
      exact changed
  | orphaned _ _ gone =>
      rw [gone] at alive
      cases alive

/-- A read loop that finds no reason to reconnect before it finds the close flag
does not reconnect. -/
theorem ReadLoopStep.retries (effect : ReadLoopStep socket index connection replaced after)
    (finds : breaksToReconnect socket connection = false) : replaced.readLoop.retries = false := by
  cases effect with
  | spawned => cases alive : socket.innerAlive <;> simp [ReadLoop.retries]
  | left ws shouldReconnect exit =>
      cases alive : socket.innerAlive with
      | false => rfl
      | true =>
          cases shouldReconnect with
          | false => rfl
          | true => rw [exit.breaks alive] at finds; cases finds
  | reconnecting => rfl
  | ended => rfl
  | started => rfl
  | took => rfl
  | noticed => rfl
  | forwarded => rfl

theorem ConnectStep.willRetry (effect : ConnectStep maxRetries socket action after)
    (flag : socket.close.value = true) (finds : RevivesNothing maxRetries socket action)
    (before : socket.willRetry = false) : after.willRetry = false := by
  rcases willRetry_eq_false_iff.mp before with ⟨calls, loops⟩
  rw [willRetry_eq_false_iff]
  -- A read loop that ends its call of `connect` retries no more.
  have ended (index : Nat) (connection : Connection) (found : Connection)
      (member : found ∈ socket.connections.set index { connection with readLoop := .finished }) :
      found.readLoop.retries = false := by
    rcases List.mem_or_eq_of_mem_set member with old | new
    · exact loops found old
    · rw [new]
      rfl
  have spawned (connections : List Connection)
      (quiet : forall found, found ∈ connections -> found.readLoop.retries = false)
      (found : Connection) (member : found ∈ connections ++ [Connection.new]) :
      found.readLoop.retries = false := by
    rcases List.mem_append.mp member with old | new
    · exact quiet found old
    · rw [List.mem_singleton.mp new]
      rfl
  have erased (position : Nat) (call : ConnectCall)
      (member : call ∈ socket.connects.eraseIdx position) : call.waits = false :=
    calls call (List.mem_of_mem_eraseIdx member)
  cases effect with
  | called => simp [RevivesNothing, revives, flag] at finds
  | cancelled call => exact ⟨erased call, loops⟩
  | userConnected call => exact ⟨erased call, spawned _ loops⟩
  | userFailed call => exact ⟨erased call, loops⟩
  | userWaits call attempt error called retries =>
      simp [RevivesNothing, revives, flag, connectCall, called, retries] at finds
  | userWoken call attempt called =>
      rw [willRetry_of_call called rfl] at before
      cases before
  | reconnected index attempt connection present rests =>
      exact ⟨calls, spawned _ (ended index connection)⟩
  | gaveUp index attempt connection error present rests => exact ⟨calls, ended index connection⟩
  | waits index attempt connection error present rests retries =>
      simp [RevivesNothing, revives, flag, connectCall, present, rests, retries] at finds
  | woken index attempt connection present rests =>
      rw [willRetry_of_loop present (by rw [rests]; rfl)] at before
      cases before

theorem willRetry_of_replaces (before : socket.willRetry = false)
    (replaces : Replaces socket after index connection replaced)
    (own : connection.readLoop.retries = false -> replaced.readLoop.retries = false) :
    after.willRetry = false := by
  rcases willRetry_eq_false_iff.mp before with ⟨calls, loops⟩
  rw [willRetry_eq_false_iff, replaces.connects, replaces.connections]
  refine ⟨calls, fun found member => ?_⟩
  rcases List.mem_or_eq_of_mem_set member with old | new
  · exact loops found old
  · exact new ▸ own (loops connection (List.mem_of_getElem? replaces.present))

theorem Step.willRetry (effect : Step maxRetries socket action after)
    (flag : socket.close.value = true) (finds : RevivesNothing maxRetries socket action)
    (before : socket.willRetry = false) : after.willRetry = false := by
  cases effect with
  | user effect =>
      have frame := effect.frame
      simpa only [ReconnectingWebSocket.willRetry, frame.connects, frame.connections] using before
  | connect effect => exact effect.willRetry flag finds before
  | @readLoop index connection replaced after present effect =>
      have goesOn : breaksToReconnect socket connection = false := by
        simpa only [RevivesNothing, revives, flag, present, Bool.true_and] using finds
      exact willRetry_of_replaces before (effect.replaces present).1 fun _ => effect.retries goesOn
  | writeLoop present effect =>
      have frame := effect.replaces present
      exact willRetry_of_replaces before frame.1 fun quiet => frame.2.readLoop ▸ quiet
  | keepAliveRead present => exact willRetry_of_replaces before (keepAlive_replaces present) id
  | keepAliveWrite present => exact willRetry_of_replaces before (keepAlive_replaces present) id

/-! ## The law and where it fails -/

/-- With the flag set no attempt is to come; before that it was never set. -/
structure ClosesForGood (socket : ReconnectingWebSocket) : Prop where
  unset : socket.close.value = false -> .closed ∉ socket.log
  set : socket.close.value = true -> socket.willRetry = false
  final : CloseIsFinal socket

/-- Only `close` touches the flag. -/
theorem Step.closeFlag (effect : Step maxRetries socket action after) :
    (action ≠ .close ∧ after.close = socket.close) ∨ (action = .close ∧
      after = { socket with close := socket.close.sendReplace true }.emit [.closed]) := by
  cases effect with
  | user effect =>
      cases effect with
      | closed => exact Or.inr ⟨rfl, rfl⟩
      | _ => exact Or.inl ⟨by simp, rfl⟩
  | connect effect =>
      have same := effect.frame.close
      cases effect <;> exact Or.inl ⟨by simp, same⟩
  | readLoop present effect => exact Or.inl ⟨by simp, (effect.replaces present).1.close⟩
  | writeLoop present effect => exact Or.inl ⟨by simp, (effect.replaces present).1.close⟩
  | keepAliveRead => exact Or.inl ⟨by simp, rfl⟩
  | keepAliveWrite => exact Or.inl ⟨by simp, rfl⟩

theorem mem_dropWhile_append {Value : Type*} {keep : Value -> Bool} {list more : List Value}
    {value : Value} (member : value ∈ (list ++ more).dropWhile keep) :
    value ∈ list.dropWhile keep ∨ value ∈ more := by
  rw [List.dropWhile_append] at member
  split at member
  · exact Or.inr ((List.dropWhile_sublist keep).subset member)
  · exact List.mem_append.mp member

theorem closeIsFinal_of_unclosed (unclosed : .closed ∉ socket.log) : CloseIsFinal socket := by
  have nothing : socket.log.dropWhile (fun event => decide (event ≠ .closed)) = [] := by
    rw [List.dropWhile_eq_nil_iff]
    intro event member
    exact decide_eq_true fun same => unclosed (same ▸ member)
  rw [CloseIsFinal, nothing]
  exact List.not_mem_nil

theorem Step.closesForGood (effect : Step maxRetries socket action after)
    (finds : RevivesNothing maxRetries socket action) (closes : ClosesForGood socket) :
    ClosesForGood after := by
  rcases effect.closeFlag with ⟨other, same⟩ | ⟨closing, result⟩
  · rcases effect.news with ⟨events, log, news⟩
    cases flag : socket.close.value with
    | true =>
        have spent := closes.set flag
        constructor
        · rw [same, flag]
          exact fun unset => by cases unset
        · exact fun _ => effect.willRetry flag finds spent
        · intro member
          rw [log] at member
          rcases mem_dropWhile_append member with earlier | new
          · exact closes.final earlier
          · rcases news.connecting new with connects | retries
            · subst connects
              simp [RevivesNothing, revives, flag] at finds
            · rw [spent] at retries
              cases retries
    | false =>
        have unclosed : .closed ∉ after.log := by
          rw [log, List.mem_append, not_or]
          exact ⟨closes.unset flag, fun found => other (news.closed found).1⟩
        constructor
        · exact fun _ => unclosed
        · rw [same, flag]
          exact fun set => by cases set
        · exact closeIsFinal_of_unclosed unclosed
  · subst closing result
    constructor
    · intro unset
      cases unset
    · exact fun _ => finds
    · intro member
      rcases mem_dropWhile_append member with earlier | new
      · exact closes.final earlier
      · simp at new

/-- On a run where nothing revives the connection, no attempt is started once
`close` has been called. -/
theorem close_is_final (maxRetries : Nat) (socket : ReconnectingWebSocket)
    (reached : Reaches (step maxRetries) (RevivesNothing maxRetries) build socket) :
    CloseIsFinal socket := by
  have closes : ClosesForGood socket := by
    apply reached.invariant
    · exact ⟨fun _ => List.not_mem_nil, fun _ => rfl, List.not_mem_nil⟩
    · intro before action after _ closes finds taken
      exact (step_spec taken).closesForGood finds closes
  exact closes.final

/-- `close` is called while connected.  The write loop finds the close flag first
and sets the disconnect flag. -/
def closedRun : List Action :=
  [.connect, .attempted (.user 0) (.ok ()), .readLoop 0, .readLoop 0, .close, .writeLoop 0,
    .writeLoop 0, .writeLoop 0]

/-- The read loop finds the disconnect flag before the close flag and connects
once more. -/
theorem close_reconnects : ¬ forall (maxRetries : Nat) (socket : ReconnectingWebSocket),
    Reaches (step maxRetries) anyStep build socket -> CloseIsFinal socket := by
  intro law
  exact absurd (law 10 _ (reaches_get_run (closedRun ++ [.readLoop 0, .readLoop 0]) rfl))
    (by decide)

/-- The read loop finds the close flag in time. -/
def closedInTimeRun : List Action :=
  [.connect, .attempted (.user 0) (.ok ()), .readLoop 0, .readLoop 0, .close, .readLoop 0,
    .readLoop 0, .readLoop 0, .writeLoop 0, .writeLoop 0]

theorem close_is_final_closedInTime :
    CloseIsFinal ((run (step 10) (RevivesNothing 10) build closedInTimeRun).get rfl) :=
  close_is_final 10 _ (reaches_get_run closedInTimeRun rfl)

end ReconnectingWebSocket
end WebSocket
end Fpd
