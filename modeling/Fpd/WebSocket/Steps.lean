import Fpd.Async.Slots
import Fpd.WebSocket.Reconnecting

namespace Fpd
namespace WebSocket
namespace ReconnectingWebSocket

open Async

/-!
# What the steps of a `ReconnectingWebSocket` can do

Each loop and each call is unfolded once, here, into the list of its possible
effects with the facts that guard them.  Every invariant of the following
modules is a case analysis over these lists.
-/

variable {socket after : ReconnectingWebSocket} {index : Nat} {connection : Connection}

/-! ## The read loop -/

/-- Why a read loop breaks out of its `loop`, the keepalive it leaves behind
and whether it goes on to reconnect. -/
inductive ReadLoopExit (socket : ReconnectingWebSocket) (connection : Connection) :
    WebSocketKeepAlive -> Bool -> Prop
  | streamEnded (disconnectSeen closeSeen : Nat)
      (rests : connection.readLoop = .selecting disconnectSeen closeSeen)
      (drained : connection.ws.incoming.queue = [])
      (ended : connection.ws.readTask.running = false) :
      ReadLoopExit socket connection connection.ws true
  | closeFrame (item : Item) (incoming : Channel Item 1) (disconnectSeen closeSeen : Nat)
      (rests : connection.readLoop = .selecting disconnectSeen closeSeen)
      (head : connection.ws.incoming.queue = item :: incoming.queue)
      (close : item.isClose = true) :
      ReadLoopExit socket connection { connection.ws with incoming := incoming } false
  | disconnected (disconnectSeen closeSeen : Nat)
      (rests : connection.readLoop = .selecting disconnectSeen closeSeen)
      (flag : socket.disconnect.value = true)
      (changed : socket.disconnect.version ≠ disconnectSeen)
      (waits : connection.ws.recv = .pending) :
      ReadLoopExit socket connection connection.ws true
  | closed (disconnectSeen closeSeen : Nat)
      (rests : connection.readLoop = .selecting disconnectSeen closeSeen)
      (flag : socket.close.value = true) :
      ReadLoopExit socket connection connection.ws false
  | orphaned (shouldReconnect : Bool) (inside : connection.readLoop.looping = true)
      (gone : socket.innerAlive = false) :
      ReadLoopExit socket connection connection.ws shouldReconnect

/-- Everything one poll of a read loop can do: the connection it leaves behind
and the state around it. -/
inductive ReadLoopStep (socket : ReconnectingWebSocket) (index : Nat) (connection : Connection) :
    Connection -> ReconnectingWebSocket -> Prop
  | spawned (rests : connection.readLoop = .spawned) :
      ReadLoopStep socket index connection
        { connection with readLoop := if socket.innerAlive then .starting else .selecting 0 0 }
        (socket.setConnection index { connection with
          readLoop := if socket.innerAlive then .starting else .selecting 0 0 })
  | started (rests : connection.readLoop = .starting) :
      ReadLoopStep socket index connection
        { connection with readLoop := .selecting 0 0 }
        ({ socket with disconnect := socket.disconnect.sendReplace false }.setConnection index
          { connection with readLoop := .selecting 0 0 })
  | took (item : Item) (incoming : Channel Item 1) (disconnectSeen closeSeen : Nat)
      (rests : connection.readLoop = .selecting disconnectSeen closeSeen)
      (head : connection.ws.incoming.queue = item :: incoming.queue)
      (data : item.isClose = false) :
      ReadLoopStep socket index connection
        { connection with
          ws := { connection.ws with incoming := incoming }
          readLoop := .forwarding item disconnectSeen closeSeen }
        (socket.setConnection index { connection with
          ws := { connection.ws with incoming := incoming }
          readLoop := .forwarding item disconnectSeen closeSeen })
  | noticed (disconnectSeen closeSeen disconnectNow closeNow : Nat)
      (rests : connection.readLoop = .selecting disconnectSeen closeSeen) :
      ReadLoopStep socket index connection
        { connection with readLoop := .selecting disconnectNow closeNow }
        (socket.setConnection index { connection with
          readLoop := .selecting disconnectNow closeNow })
  | forwarded (item : Item) (incoming : Channel Item 1) (disconnectSeen closeSeen : Nat)
      (rests : connection.readLoop = .forwarding item disconnectSeen closeSeen)
      (alive : socket.innerAlive = true)
      (sent : incoming.queue = socket.incoming.queue ++ [item]) :
      ReadLoopStep socket index connection
        { connection with readLoop := .selecting disconnectSeen closeSeen }
        (({ socket with incoming := incoming }.setConnection index
          { connection with readLoop := .selecting disconnectSeen closeSeen }).emit
            [.forwarded index item])
  | left (ws : WebSocketKeepAlive) (shouldReconnect : Bool)
      (exit : ReadLoopExit socket connection ws shouldReconnect) :
      ReadLoopStep socket index connection
        { connection with
          ws := ws
          readLoop := if socket.innerAlive then .publishing shouldReconnect else .finished }
        (socket.leaveReadLoop index { connection with ws := ws } shouldReconnect)
  | reconnecting (rests : connection.readLoop = .publishing true) :
      ReadLoopStep socket index connection
        { connection with readLoop := .reconnecting (.initiating 0) }
        (({ socket with disconnect := socket.disconnect.sendReplace true }.setConnection index
          { connection with readLoop := .reconnecting (.initiating 0) }).emit [.connecting])
  | ended (rests : connection.readLoop = .publishing false) :
      ReadLoopStep socket index connection
        { connection with readLoop := .finished }
        ({ socket with disconnect := socket.disconnect.sendReplace true }.setConnection index
          { connection with readLoop := .finished })

theorem readLoop_step (polled : socket.readLoop index connection = some after) :
    Exists fun replaced => ReadLoopStep socket index connection replaced after := by
  unfold readLoop at polled
  cases rests : connection.readLoop with
  | spawned =>
      simp only [rests, Option.some.injEq] at polled
      subst polled
      exact ⟨_, .spawned rests⟩
  | starting =>
      simp only [rests, Option.some.injEq] at polled
      subst polled
      exact ⟨_, .started rests⟩
  | selecting disconnectSeen closeSeen =>
      cases answered : connection.ws.recv with
      | ready pair =>
          rcases pair with ⟨_ | item, ws⟩
          · simp only [rests, answered, Option.some.injEq] at polled
            have facts := WebSocketKeepAlive.recv_ended answered
            subst polled
            exact ⟨_, .left connection.ws true
              (.streamEnded disconnectSeen closeSeen rests facts.1 facts.2.1)⟩
          · rcases WebSocketKeepAlive.recv_item answered with ⟨incoming, head, same⟩
            subst same
            cases kind : item.isClose with
            | true =>
                simp only [rests, answered, kind, if_true, Option.some.injEq] at polled
                subst polled
                exact ⟨_, .left _ false
                  (.closeFrame item incoming disconnectSeen closeSeen rests head kind)⟩
            | false =>
                simp only [rests, answered, kind, Bool.false_eq_true, if_false,
                  Option.some.injEq] at polled
                subst polled
                exact ⟨_, .took item incoming disconnectSeen closeSeen rests head kind⟩
      | pending =>
          rcases socket.disconnect.changed_cases socket.innerAlive disconnectSeen with
            ⟨changed, _⟩ | ⟨changed, dead⟩ | changed
          · rcases socket.close.changed_cases socket.innerAlive closeSeen with
              ⟨closing, _⟩ | ⟨closing, dead⟩ | closing
            · simp only [rests, answered, changed, closing, reduceCtorEq] at polled
            · simp only [rests, answered, changed, closing, Option.some.injEq] at polled
              subst polled
              exact ⟨_, .left connection.ws false (.orphaned false (by rw [rests]; rfl) dead)⟩
            · cases flag : socket.close.value with
              | true =>
                  simp only [rests, answered, changed, closing, flag, if_true,
                    Option.some.injEq] at polled
                  subst polled
                  exact ⟨_, .left connection.ws false
                    (.closed disconnectSeen closeSeen rests flag)⟩
              | false =>
                  simp only [rests, answered, changed, closing, flag, Bool.false_eq_true,
                    if_false, Option.some.injEq] at polled
                  subst polled
                  exact ⟨_, .noticed disconnectSeen closeSeen disconnectSeen _ rests⟩
          · simp only [rests, answered, changed, Option.some.injEq] at polled
            subst polled
            exact ⟨_, .left connection.ws true (.orphaned true (by rw [rests]; rfl) dead)⟩
          · cases flag : socket.disconnect.value with
            | true =>
                simp only [rests, answered, changed, flag, if_true, Option.some.injEq] at polled
                subst polled
                exact ⟨_, .left connection.ws true
                  (.disconnected disconnectSeen closeSeen rests flag
                    (Watch.changed_eq_ok changed) answered)⟩
            | false =>
                simp only [rests, answered, changed, flag, Bool.false_eq_true, if_false,
                  Option.some.injEq] at polled
                subst polled
                exact ⟨_, .noticed disconnectSeen closeSeen _ closeSeen rests⟩
  | forwarding item disconnectSeen closeSeen =>
      cases alive : socket.innerAlive with
      | false =>
          simp only [rests, alive, Bool.false_eq_true, if_false, Option.some.injEq] at polled
          subst polled
          exact ⟨_, .left connection.ws false (.orphaned false (by rw [rests]; rfl) alive)⟩
      | true =>
          cases sent : socket.incoming.trySend item with
          | none => simp [rests, alive, sent] at polled
          | some incoming =>
              simp only [rests, alive, sent, if_true, Option.some.injEq] at polled
              subst polled
              exact ⟨_, .forwarded item incoming disconnectSeen closeSeen rests alive
                ((Channel.trySend_eq_some_iff _ _ _).mp sent).2⟩
  | publishing shouldReconnect =>
      cases shouldReconnect with
      | true =>
          simp only [rests, if_true, Option.some.injEq] at polled
          subst polled
          exact ⟨_, .reconnecting rests⟩
      | false =>
          simp only [rests, Bool.false_eq_true, if_false, Option.some.injEq] at polled
          subst polled
          exact ⟨_, .ended rests⟩
  | reconnecting call => simp [rests] at polled
  | finished => simp [rests] at polled

/-! ## The write loop -/

/-- Everything one poll of a write loop can do. -/
inductive WriteLoopStep (socket : ReconnectingWebSocket) (index : Nat) (connection : Connection) :
    Connection -> ReconnectingWebSocket -> Prop
  | retried (message : Message) (retry : Channel Message 1) (disconnectSeen closeSeen : Nat)
      (rests : connection.writeLoop = .selecting disconnectSeen closeSeen)
      (taken : socket.retry.queue = message :: retry.queue) :
      WriteLoopStep socket index connection
        { connection with writeLoop := .sending message disconnectSeen closeSeen }
        ({ socket with retry := retry }.setConnection index
          { connection with writeLoop := .sending message disconnectSeen closeSeen })
  | took (message : Message) (outgoing : Channel Message 1) (disconnectSeen closeSeen : Nat)
      (rests : connection.writeLoop = .selecting disconnectSeen closeSeen)
      (noRetry : socket.retry.queue = [])
      (taken : socket.outgoing.queue = message :: outgoing.queue) :
      WriteLoopStep socket index connection
        { connection with writeLoop := .sending message disconnectSeen closeSeen }
        ({ socket with outgoing := outgoing }.setConnection index
          { connection with writeLoop := .sending message disconnectSeen closeSeen })
  | noticed (disconnectSeen closeSeen disconnectNow closeNow : Nat)
      (rests : connection.writeLoop = .selecting disconnectSeen closeSeen) :
      WriteLoopStep socket index connection
        { connection with writeLoop := .selecting disconnectNow closeNow }
        (socket.setConnection index { connection with
          writeLoop := .selecting disconnectNow closeNow })
  | left (disconnectSeen closeSeen : Nat)
      (rests : connection.writeLoop = .selecting disconnectSeen closeSeen)
      (drained : socket.retry.queue = [] ∧ socket.outgoing.queue = [])
      (cause : (socket.disconnect.version ≠ disconnectSeen ∧ socket.disconnect.value = true) ∨
        (socket.disconnect.version = disconnectSeen ∧ socket.close.version ≠ closeSeen ∧
          socket.close.value = true) ∨ socket.innerAlive = false) :
      WriteLoopStep socket index connection
        { connection with writeLoop := if socket.innerAlive then .publishing else .finished }
        (socket.leaveWriteLoop index connection)
  | sent (message : Message) (outgoing : Channel Message 1) (disconnectSeen closeSeen : Nat)
      (rests : connection.writeLoop = .sending message disconnectSeen closeSeen)
      (running : connection.ws.writeTask.running = true)
      (appended : outgoing.queue = connection.ws.outgoing.queue ++ [message]) :
      WriteLoopStep socket index connection
        { connection with
          ws := { connection.ws with outgoing := outgoing }
          writeLoop := .selecting disconnectSeen closeSeen }
        (socket.setConnection index { connection with
          ws := { connection.ws with outgoing := outgoing }
          writeLoop := .selecting disconnectSeen closeSeen })
  | refused (message : Message) (disconnectSeen closeSeen : Nat)
      (rests : connection.writeLoop = .sending message disconnectSeen closeSeen)
      (ended : connection.ws.writeTask.running = false) :
      WriteLoopStep socket index connection
        { connection with writeLoop := .requeuing message }
        (socket.setConnection index { connection with writeLoop := .requeuing message })
  | requeued (message : Message) (retry : Channel Message 1)
      (rests : connection.writeLoop = .requeuing message)
      (appended : retry.queue = socket.retry.queue ++ [message]) :
      WriteLoopStep socket index connection
        { connection with writeLoop := if socket.innerAlive then .publishing else .finished }
        ({ socket with retry := retry }.leaveWriteLoop index connection)
  | published (rests : connection.writeLoop = .publishing) :
      WriteLoopStep socket index connection
        { connection with writeLoop := .finished }
        ({ socket with disconnect := socket.disconnect.sendReplace true }.setConnection index
          { connection with writeLoop := .finished })

theorem writeLoop_step (polled : socket.writeLoop index connection = some after) :
    Exists fun replaced => WriteLoopStep socket index connection replaced after := by
  unfold writeLoop at polled
  cases rests : connection.writeLoop with
  | selecting disconnectSeen closeSeen =>
      cases again : socket.retry.tryRecv with
      | some pair =>
          rcases pair with ⟨message, retry⟩
          simp only [rests, again, Option.some.injEq] at polled
          subst polled
          exact ⟨_, .retried message retry disconnectSeen closeSeen rests
            ((Channel.tryRecv_eq_some_iff _ _ _).mp again)⟩
      | none =>
          have noRetry := (Channel.tryRecv_eq_none_iff _).mp again
          cases fresh : socket.outgoing.tryRecv with
          | some pair =>
              rcases pair with ⟨message, outgoing⟩
              simp only [rests, again, fresh, Option.some.injEq] at polled
              subst polled
              exact ⟨_, .took message outgoing disconnectSeen closeSeen rests noRetry
                ((Channel.tryRecv_eq_some_iff _ _ _).mp fresh)⟩
          | none =>
              have drained := And.intro noRetry ((Channel.tryRecv_eq_none_iff _).mp fresh)
              cases alive : socket.innerAlive with
              | false =>
                  simp only [rests, again, fresh, alive, Bool.false_eq_true, if_false,
                    Option.some.injEq] at polled
                  subst polled
                  exact ⟨_, .left disconnectSeen closeSeen rests drained
                    (Or.inr (Or.inr alive))⟩
              | true =>
                  rcases socket.disconnect.changed_cases true disconnectSeen with
                    ⟨changed, _⟩ | ⟨_, dead⟩ | changed
                  · rcases socket.close.changed_cases true closeSeen with
                      ⟨closing, _⟩ | ⟨_, dead⟩ | closing
                    · simp only [rests, again, fresh, alive, changed, closing, if_true,
                        reduceCtorEq] at polled
                    · cases dead
                    · cases flag : socket.close.value with
                      | true =>
                          simp only [rests, again, fresh, alive, changed, closing, flag, if_true,
                            Option.some.injEq] at polled
                          subst polled
                          have current := ((Watch.changed_eq_pending_iff _ _ _).mp changed).1
                          exact ⟨_, .left disconnectSeen closeSeen rests drained
                            (Or.inr (Or.inl ⟨current, Watch.changed_eq_ok closing, flag⟩))⟩
                      | false =>
                          simp only [rests, again, fresh, alive, changed, closing, flag, if_true,
                            Bool.false_eq_true, if_false, Option.some.injEq] at polled
                          subst polled
                          exact ⟨_, .noticed disconnectSeen closeSeen disconnectSeen _ rests⟩
                  · cases dead
                  · cases flag : socket.disconnect.value with
                    | true =>
                        simp only [rests, again, fresh, alive, changed, flag, if_true,
                          Option.some.injEq] at polled
                        subst polled
                        exact ⟨_, .left disconnectSeen closeSeen rests drained
                          (Or.inl ⟨Watch.changed_eq_ok changed, flag⟩)⟩
                    | false =>
                        simp only [rests, again, fresh, alive, changed, flag, if_true,
                          Bool.false_eq_true, if_false, Option.some.injEq] at polled
                        subst polled
                        exact ⟨_, .noticed disconnectSeen closeSeen _ closeSeen rests⟩
  | sending message disconnectSeen closeSeen =>
      cases answered : connection.ws.outgoingSend message with
      | pending => simp [rests, answered] at polled
      | ready answer =>
          cases answer with
          | error returned =>
              simp only [rests, answered, Option.some.injEq] at polled
              rcases WebSocketKeepAlive.outgoingSend_refused answered with ⟨same, ended⟩
              subst same
              subst polled
              exact ⟨_, .refused returned disconnectSeen closeSeen rests ended⟩
          | ok ws =>
              simp only [rests, answered, Option.some.injEq] at polled
              rcases WebSocketKeepAlive.outgoingSend_sent answered with
                ⟨running, outgoing, appended, same⟩
              subst same
              subst polled
              exact ⟨_, .sent message outgoing disconnectSeen closeSeen rests running appended⟩
  | requeuing message =>
      cases sent : socket.retry.trySend message with
      | none => simp [rests, sent] at polled
      | some retry =>
          simp only [rests, sent, Option.some.injEq] at polled
          subst polled
          exact ⟨_, .requeued message retry rests
            ((Channel.trySend_eq_some_iff _ _ _).mp sent).2⟩
  | publishing =>
      simp only [rests, Option.some.injEq] at polled
      subst polled
      exact ⟨_, .published rests⟩
  | finished => simp [rests] at polled

/-! ## Calls of `connect` -/

theorem connectCall_readLoop {call : ConnectCall}
    (called : socket.connectCall (.readLoop index) = some call) :
    Exists fun connection => socket.connections[index]? = some connection ∧
      connection.readLoop = .reconnecting call := by
  unfold connectCall at called
  cases present : socket.connections[index]? with
  | none => simp [present] at called
  | some connection =>
      cases rests : connection.readLoop <;> simp [present, rests] at called
      exact ⟨connection, rfl, called ▸ rests⟩

/-- What a call of `connect` goes through, from the call to its end. -/
inductive ConnectStep (maxRetries : Nat) (socket : ReconnectingWebSocket) :
    Action -> ReconnectingWebSocket -> Prop
  | called (handle : 0 < socket.handles) :
      ConnectStep maxRetries socket .connect
        ({ socket with connects := socket.connects ++ [ConnectCall.initiating 0] }.emit
          [.connecting])
  | cancelled (call : Nat) :
      ConnectStep maxRetries socket (.cancelConnect call)
        { socket with connects := socket.connects.eraseIdx call }
  | userConnected (call attempt : Nat)
      (called : socket.connects[call]? = some (.initiating attempt)) :
      ConnectStep maxRetries socket (.attempted (.user call) (.ok ()))
        ({ socket.initiated with connects := socket.connects.eraseIdx call }.emit
          [.connectReturned (.ok ())])
  | userFailed (call attempt : Nat) (error : Error)
      (called : socket.connects[call]? = some (.initiating attempt))
      (final : attempt = maxRetries ∨ error.isClientError = true) :
      ConnectStep maxRetries socket (.attempted (.user call) (.error error))
        ({ socket with connects := socket.connects.eraseIdx call }.emit
          [.connectReturned (.error error)])
  | userWaits (call attempt : Nat) (error : Error)
      (called : socket.connects[call]? = some (.initiating attempt))
      (retries : attempt ≠ maxRetries ∧ error.isClientError = false) :
      ConnectStep maxRetries socket (.attempted (.user call) (.error error))
        { socket with connects := socket.connects.set call (.sleeping attempt) }
  | userWoken (call attempt : Nat)
      (called : socket.connects[call]? = some (.sleeping attempt)) :
      ConnectStep maxRetries socket (.woken (.user call))
        ({ socket with connects := socket.connects.set call (.initiating (attempt + 1)) }.emit
          [.connecting])
  | reconnected (index attempt : Nat) (connection : Connection)
      (present : socket.connections[index]? = some connection)
      (rests : connection.readLoop = .reconnecting (.initiating attempt)) :
      ConnectStep maxRetries socket (.attempted (.readLoop index) (.ok ()))
        (socket.setConnection index { connection with readLoop := .finished }).initiated
  | gaveUp (index attempt : Nat) (connection : Connection) (error : Error)
      (present : socket.connections[index]? = some connection)
      (rests : connection.readLoop = .reconnecting (.initiating attempt))
      (final : attempt = maxRetries ∨ error.isClientError = true) :
      ConnectStep maxRetries socket (.attempted (.readLoop index) (.error error))
        (socket.setConnection index { connection with readLoop := .finished })
  | waits (index attempt : Nat) (connection : Connection) (error : Error)
      (present : socket.connections[index]? = some connection)
      (rests : connection.readLoop = .reconnecting (.initiating attempt))
      (retries : attempt ≠ maxRetries ∧ error.isClientError = false) :
      ConnectStep maxRetries socket (.attempted (.readLoop index) (.error error))
        (socket.setConnection index { connection with
          readLoop := .reconnecting (.sleeping attempt) })
  | woken (index attempt : Nat) (connection : Connection)
      (present : socket.connections[index]? = some connection)
      (rests : connection.readLoop = .reconnecting (.sleeping attempt)) :
      ConnectStep maxRetries socket (.woken (.readLoop index))
        ((socket.setConnection index { connection with
          readLoop := .reconnecting (.initiating (attempt + 1)) }).emit [.connecting])

theorem answered_error (maxRetries attempt : Nat) (error : Error) :
    (ConnectCall.answered maxRetries attempt (.error error) = .returned (.error error) ∧
        (attempt = maxRetries ∨ error.isClientError = true)) ∨
      (ConnectCall.answered maxRetries attempt (.error error) = .waiting (.sleeping attempt) ∧
        attempt ≠ maxRetries ∧ error.isClientError = false) := by
  unfold ConnectCall.answered
  by_cases last : attempt = maxRetries
  · exact Or.inl ⟨if_pos last, Or.inl last⟩
  · cases client : error.isClientError with
    | true => exact Or.inl ⟨by simp [last, client], Or.inr rfl⟩
    | false => exact Or.inr ⟨by simp [last, client], last, rfl⟩

/-- Ending the call of a read loop and spawning the next connection commute. -/
theorem endConnectCall_initiated {result : Except Error Unit}
    (present : socket.connections[index]? = some connection) :
    socket.initiated.endConnectCall (.readLoop index) result =
      (socket.setConnection index { connection with readLoop := .finished }).initiated := by
  have inside : index < socket.connections.length := (List.getElem?_eq_some_iff.mp present).1
  have found : socket.initiated.connections[index]? = some connection := by
    simp only [initiated, emit_connections, List.getElem?_append_left inside, present]
  simp only [endConnectCall, found]
  simp only [initiated, setConnection, emit, List.length_set, List.set_append_left _ _ inside]

theorem attempted_step {maxRetries : Nat} {caller : Caller} {outcome : Except Error Unit}
    (answered : socket.attempted maxRetries caller outcome = some after) :
    ConnectStep maxRetries socket (.attempted caller outcome) after := by
  unfold attempted at answered
  cases called : socket.connectCall caller with
  | none => simp [called] at answered
  | some call =>
      cases call with
      | sleeping attempt => simp [called] at answered
      | initiating attempt =>
          cases caller with
          | user position =>
              rcases outcome with error | _
              · rcases answered_error maxRetries attempt error with
                    ⟨returns, final⟩ | ⟨waiting, retries⟩
                · simp only [called, returns, Option.some.injEq] at answered
                  exact answered ▸ .userFailed position attempt error called final
                · simp only [called, waiting, Option.some.injEq] at answered
                  exact answered ▸ .userWaits position attempt error called retries
              · simp only [called, ConnectCall.answered, Option.some.injEq] at answered
                exact answered ▸ .userConnected position attempt called
          | readLoop index =>
              rcases connectCall_readLoop called with ⟨connection, present, rests⟩
              rcases outcome with error | _
              · rcases answered_error maxRetries attempt error with
                    ⟨returns, final⟩ | ⟨waiting, retries⟩
                · simp only [called, returns, endConnectCall, present, Option.some.injEq]
                    at answered
                  exact answered ▸ .gaveUp index attempt connection error present rests final
                · simp only [called, waiting, setConnectCall, present, Option.some.injEq]
                    at answered
                  exact answered ▸ .waits index attempt connection error present rests retries
              · simp only [called, ConnectCall.answered, endConnectCall_initiated present,
                  Option.some.injEq] at answered
                exact answered ▸ .reconnected index attempt connection present rests

theorem woken_step {maxRetries : Nat} {caller : Caller}
    (woke : socket.woken caller = some after) :
    ConnectStep maxRetries socket (.woken caller) after := by
  unfold woken at woke
  cases called : socket.connectCall caller with
  | none => simp [called] at woke
  | some call =>
      cases call with
      | initiating attempt => simp [called] at woke
      | sleeping attempt =>
          cases caller with
          | user position =>
              simp only [called, setConnectCall, Option.some.injEq] at woke
              exact woke ▸ .userWoken position attempt called
          | readLoop index =>
              rcases connectCall_readLoop called with ⟨connection, present, rests⟩
              simp only [called, setConnectCall, present, Option.some.injEq] at woke
              exact woke ▸ .woken index attempt connection present rests

/-! ## The other methods -/

/-- What a user does to a `ReconnectingWebSocket` besides connecting it. -/
inductive UserStep (socket : ReconnectingWebSocket) : Action -> ReconnectingWebSocket -> Prop
  | cloned (handle : 0 < socket.handles) :
      UserStep socket .clone { socket with handles := socket.handles + 1 }
  | dropped (able : 1 < socket.handles ∨ (socket.handles = 1 ∧ socket.idle = true)) :
      UserStep socket .drop { socket with handles := socket.handles - 1 }
  | closed (handle : 0 < socket.handles) :
      UserStep socket .close ({ socket with close := socket.close.sendReplace true }.emit [.closed])
  | sendRefused (message : Message) (flag : socket.close.value = true) :
      UserStep socket (.send message) (socket.emit [.refused .alreadyClosed])
  | sendCalled (message : Message) (handle : 0 < socket.handles)
      (unset : socket.close.value = false) :
      UserStep socket (.send message) { socket with sends := socket.sends ++ [message] }
  | accepted (call : Nat) (message : Message) (outgoing : Channel Message 1)
      (called : socket.sends[call]? = some message)
      (appended : outgoing.queue = socket.outgoing.queue ++ [message]) :
      UserStep socket (.pollSend call)
        ({ socket with outgoing := outgoing, sends := socket.sends.eraseIdx call }.emit
          [.accepted message])
  | sendFailed (call : Nat) (gone : socket.innerAlive = false) :
      UserStep socket (.pollSend call) ({ socket with sends := socket.sends.eraseIdx call }.emit
        [.refused .connectionClosed])
  | sendCancelled (call : Nat) :
      UserStep socket (.cancelSend call) { socket with sends := socket.sends.eraseIdx call }
  | recvCalled (handle : 0 < socket.handles) :
      UserStep socket .recv { socket with recvs := socket.recvs ++ [0] }
  | skipped (call : Nat) (item : Item) (incoming : Channel Item 1)
      (head : socket.incoming.queue = item :: incoming.queue) (reset : item.isReset = true) :
      UserStep socket (.pollRecv call) ({ socket with incoming := incoming }.emit [.delivered item])
  | received (call : Nat) (item : Item) (incoming : Channel Item 1)
      (head : socket.incoming.queue = item :: incoming.queue) (kept : item.isReset = false) :
      UserStep socket (.pollRecv call)
        (({ socket with incoming := incoming }.emit [.delivered item]).endRecv call (some item))
  | recvNoticed (call : Nat) (unset : socket.close.value = false) :
      UserStep socket (.pollRecv call)
        { socket with recvs := socket.recvs.set call socket.close.version }
  | recvEnded (call : Nat) (cause : socket.close.value = true ∨ socket.innerAlive = false) :
      UserStep socket (.pollRecv call) (socket.endRecv call none)
  | recvFailed (call closeSeen : Nat) (called : socket.recvs[call]? = some closeSeen)
      (gone : socket.innerAlive = false) :
      UserStep socket (.pollRecv call) (socket.endRecv call (some (.error .connectionClosed)))
  | recvCancelled (call : Nat) :
      UserStep socket (.cancelRecv call) { socket with recvs := socket.recvs.eraseIdx call }

theorem pollSend_step {call : Nat} (polled : socket.pollSend call = some after) :
    UserStep socket (.pollSend call) after := by
  unfold pollSend at polled
  cases called : socket.sends[call]? with
  | none => simp [called] at polled
  | some message =>
      cases alive : socket.innerAlive with
      | false =>
          simp only [called, alive, Bool.false_eq_true, if_false, Option.some.injEq] at polled
          exact polled ▸ .sendFailed call alive
      | true =>
          cases sent : socket.outgoing.trySend message with
          | none => simp [called, alive, sent] at polled
          | some outgoing =>
              simp only [called, alive, sent, if_true, Option.some.injEq] at polled
              exact polled ▸ .accepted call message outgoing called
                ((Channel.trySend_eq_some_iff _ _ _).mp sent).2

/-- Everything one poll of a call of `recv` can do, and what the call returns. -/
inductive RecvStep (socket : ReconnectingWebSocket) (call : Nat) :
    ReconnectingWebSocket -> Poll (Option Item) -> Prop
  | skipped (item : Item) (incoming : Channel Item 1)
      (head : socket.incoming.queue = item :: incoming.queue) (reset : item.isReset = true) :
      RecvStep socket call ({ socket with incoming := incoming }.emit [.delivered item]) .pending
  | received (item : Item) (incoming : Channel Item 1)
      (head : socket.incoming.queue = item :: incoming.queue) (kept : item.isReset = false) :
      RecvStep socket call
        (({ socket with incoming := incoming }.emit [.delivered item]).endRecv call (some item))
        (.ready (some item))
  | noticed (unset : socket.close.value = false) :
      RecvStep socket call { socket with recvs := socket.recvs.set call socket.close.version }
        .pending
  | ended (cause : socket.close.value = true ∨ socket.innerAlive = false) :
      RecvStep socket call (socket.endRecv call none) (.ready none)
  | failed (closeSeen : Nat) (called : socket.recvs[call]? = some closeSeen)
      (gone : socket.innerAlive = false) :
      RecvStep socket call (socket.endRecv call (some (.error .connectionClosed)))
        (.ready (some (.error .connectionClosed)))

theorem pollRecv_step {call : Nat} {answer : Poll (Option Item)}
    (polled : socket.pollRecv call = some (after, answer)) : RecvStep socket call after answer := by
  unfold pollRecv at polled
  cases called : socket.recvs[call]? with
  | none => simp [called] at polled
  | some closeSeen =>
      cases taken : socket.incoming.tryRecv with
      | some pair =>
          rcases pair with ⟨item, incoming⟩
          have head := (Channel.tryRecv_eq_some_iff _ _ _).mp taken
          cases kind : item.isReset with
          | true =>
              simp only [called, taken, kind, if_true, Option.some.injEq, Prod.mk.injEq] at polled
              rcases polled with ⟨rfl, rfl⟩
              exact .skipped item incoming head kind
          | false =>
              simp only [called, taken, kind, Bool.false_eq_true, if_false, Option.some.injEq,
                Prod.mk.injEq] at polled
              rcases polled with ⟨rfl, rfl⟩
              exact .received item incoming head kind
      | none =>
          cases alive : socket.innerAlive with
          | false =>
              simp only [called, taken, alive, Bool.false_eq_true, if_false, Option.some.injEq,
                Prod.mk.injEq] at polled
              rcases polled with ⟨rfl, rfl⟩
              exact .failed closeSeen called alive
          | true =>
              rcases socket.close.changed_cases true closeSeen with
                ⟨changed, _⟩ | ⟨_, dead⟩ | changed
              · simp only [called, taken, alive, changed, if_true, reduceCtorEq] at polled
              · cases dead
              · cases flag : socket.close.value with
                | true =>
                    simp only [called, taken, alive, changed, flag, if_true, Option.some.injEq,
                      Prod.mk.injEq] at polled
                    rcases polled with ⟨rfl, rfl⟩
                    exact .ended (Or.inl flag)
                | false =>
                    simp only [called, taken, alive, changed, flag, if_true, Bool.false_eq_true,
                      if_false, Option.some.injEq, Prod.mk.injEq] at polled
                    rcases polled with ⟨rfl, rfl⟩
                    exact .noticed flag

theorem RecvStep.user {call : Nat} {answer : Poll (Option Item)}
    (effect : RecvStep socket call after answer) : UserStep socket (.pollRecv call) after := by
  cases effect with
  | skipped item incoming head reset => exact .skipped call item incoming head reset
  | received item incoming head kept => exact .received call item incoming head kept
  | noticed unset => exact .recvNoticed call unset
  | ended cause => exact .recvEnded call cause
  | failed closeSeen called gone => exact .recvFailed call closeSeen called gone

/-! ## The machine -/

/-- The whole machine, action by action. -/
inductive Step (maxRetries : Nat) (socket : ReconnectingWebSocket) :
    Action -> ReconnectingWebSocket -> Prop
  | user {action : Action} {after : ReconnectingWebSocket} (effect : UserStep socket action after) :
      Step maxRetries socket action after
  | connect {action : Action} {after : ReconnectingWebSocket}
      (effect : ConnectStep maxRetries socket action after) : Step maxRetries socket action after
  | readLoop {index : Nat} {connection replaced : Connection} {after : ReconnectingWebSocket}
      (present : socket.connections[index]? = some connection)
      (effect : ReadLoopStep socket index connection replaced after) :
      Step maxRetries socket (.readLoop index) after
  | writeLoop {index : Nat} {connection replaced : Connection} {after : ReconnectingWebSocket}
      (present : socket.connections[index]? = some connection)
      (effect : WriteLoopStep socket index connection replaced after) :
      Step maxRetries socket (.writeLoop index) after
  | keepAliveRead {index : Nat} {connection : Connection} {stream : Poll (Option Item)}
      {ws : WebSocketKeepAlive} {events : List KeepAliveEvent}
      (present : socket.connections[index]? = some connection)
      (effect : connection.ws.ReadStep connection.held stream ws events) :
      Step maxRetries socket (.keepAliveRead index stream)
        ((socket.setConnection index { connection with ws := ws }).emit
          (events.map (.keepAlive index)))
  | keepAliveWrite {index : Nat} {connection : Connection} {timeout : Bool}
      {sink : Poll (Except Error Unit)} {ws : WebSocketKeepAlive} {events : List KeepAliveEvent}
      (present : socket.connections[index]? = some connection)
      (effect : connection.ws.WriteStep connection.held sink ws events) :
      Step maxRetries socket (.keepAliveWrite index timeout sink)
        ((socket.setConnection index { connection with ws := ws }).emit
          (events.map (.keepAlive index)))

theorem keepAlive_some {answer : Option (WebSocketKeepAlive × List KeepAliveEvent)}
    (polled : socket.keepAlive index connection answer = some after) :
    Exists fun ws => Exists fun events => answer = some (ws, events) ∧
      after = (socket.setConnection index { connection with ws := ws }).emit
        (events.map (.keepAlive index)) := by
  cases answer with
  | none => cases polled
  | some pair =>
      simp only [keepAlive, Option.some.injEq] at polled
      exact ⟨pair.1, pair.2, rfl, polled.symm⟩

theorem step_spec {maxRetries : Nat} {action : Action}
    (taken : step maxRetries socket action = some after) :
    Step maxRetries socket action after := by
  cases action with
  | clone =>
      by_cases handle : 0 < socket.handles
      · simp only [step, if_pos handle, Option.some.injEq] at taken
        exact taken ▸ .user (.cloned handle)
      · simp [step, handle] at taken
  | drop =>
      by_cases able : 1 < socket.handles ∨ (socket.handles = 1 ∧ socket.idle = true)
      · simp only [step, if_pos able, Option.some.injEq] at taken
        exact taken ▸ .user (.dropped able)
      · simp [step, able] at taken
  | close =>
      by_cases handle : 0 < socket.handles
      · simp only [step, if_pos handle, Option.some.injEq] at taken
        exact taken ▸ .user (.closed handle)
      · simp [step, handle] at taken
  | connect =>
      by_cases handle : 0 < socket.handles
      · simp only [step, if_pos handle, Option.some.injEq] at taken
        exact taken ▸ .connect (.called handle)
      · simp [step, handle] at taken
  | attempted caller outcome => exact .connect (attempted_step taken)
  | woken caller => exact .connect (woken_step taken)
  | cancelConnect call =>
      by_cases inside : call < socket.connects.length
      · simp only [step, if_pos inside, Option.some.injEq] at taken
        exact taken ▸ .connect (.cancelled call)
      · simp [step, inside] at taken
  | send message =>
      by_cases handle : 0 < socket.handles
      · simp only [step, if_pos handle, Option.some.injEq, send] at taken
        cases flag : socket.close.value with
        | true =>
            simp only [flag, if_true] at taken
            exact taken ▸ .user (.sendRefused message flag)
        | false =>
            simp only [flag, Bool.false_eq_true, if_false] at taken
            exact taken ▸ .user (.sendCalled message handle flag)
      · simp [step, handle] at taken
  | pollSend call => exact .user (pollSend_step taken)
  | cancelSend call =>
      by_cases inside : call < socket.sends.length
      · simp only [step, if_pos inside, Option.some.injEq] at taken
        exact taken ▸ .user (.sendCancelled call)
      · simp [step, inside] at taken
  | recv =>
      by_cases handle : 0 < socket.handles
      · simp only [step, if_pos handle, Option.some.injEq] at taken
        exact taken ▸ .user (.recvCalled handle)
      · simp [step, handle] at taken
  | pollRecv call =>
      rcases Option.map_eq_some_iff.mp taken with ⟨⟨polled, answer⟩, some, same⟩
      exact same ▸ .user (pollRecv_step some).user
  | cancelRecv call =>
      by_cases inside : call < socket.recvs.length
      · simp only [step, if_pos inside, Option.some.injEq] at taken
        exact taken ▸ .user (.recvCancelled call)
      · simp [step, inside] at taken
  | readLoop index =>
      cases present : socket.connections[index]? with
      | none => simp [step, present] at taken
      | some connection =>
          simp only [step, present] at taken
          rcases readLoop_step taken with ⟨replaced, effect⟩
          exact .readLoop present effect
  | writeLoop index =>
      cases present : socket.connections[index]? with
      | none => simp [step, present] at taken
      | some connection =>
          simp only [step, present] at taken
          rcases writeLoop_step taken with ⟨replaced, effect⟩
          exact .writeLoop present effect
  | keepAliveRead index stream =>
      cases present : socket.connections[index]? with
      | none => simp [step, present] at taken
      | some connection =>
          simp only [step, present] at taken
          rcases keepAlive_some taken with ⟨ws, events, polled, same⟩
          exact same ▸ .keepAliveRead present (WebSocketKeepAlive.readLoop_step polled)
  | keepAliveWrite index timeout sink =>
      cases present : socket.connections[index]? with
      | none => simp [step, present] at taken
      | some connection =>
          simp only [step, present] at taken
          rcases keepAlive_some taken with ⟨ws, events, polled, same⟩
          exact same ▸ .keepAliveWrite present (WebSocketKeepAlive.writeLoop_step polled)

end ReconnectingWebSocket
end WebSocket
end Fpd
