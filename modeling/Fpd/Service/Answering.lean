import Fpd.Service.Delivery
import Fpd.WebSocket.Draining

namespace Fpd
namespace Service

open Async WebSocket

/-!
# Answers on their way to the relay

The answer of a handler goes through the channel of the outgoing task, which
passes one message at a time to the websocket, and then stands in line for the
sink of a connection.  As long as the outgoing task runs and a connection is up,
nothing on that way waits for anybody else, so a request can always be answered
through to the relay, after what stands in line before it.
-/

namespace Daemon

variable {service : ProxyService} {codec : Codec} {daemon : Daemon} {index : Nat}
  {connection : Connection}

/-- A step with which the outgoing task and a connection pass messages on. -/
inductive Passes (index : Nat) : Action -> Prop
  | taken : Passes index .taken
  | sent : Passes index .sent
  | webSocket (call : ReconnectingWebSocket.Action)
      (poll : ReconnectingWebSocket.WritePoll index call) : Passes index (.webSocket call)

/-- All that stands in line for the sink of the connection. -/
def inLine (codec : Codec) (daemon : Daemon) (connection : Connection) : List Message :=
  daemon.ws.inLine connection ++ daemon.ws.sends ++ daemon.queue.map (Outgoing.encode codec)

/-- The outgoing task runs and the connection is up.  `line` is what its sink
has got and what stands in line for it. -/
structure Passing (service : ProxyService) (codec : Codec) (index : Nat) (line : List Message)
    (daemon : Daemon) : Prop where
  reached : Reaches (step service codec) anyStep initial daemon
  running : daemon.outgoing.running = true
  up : Exists fun connection => daemon.ws.connections[index]? = some connection ∧ connection.Up ∧
    ReconnectingWebSocket.sinkWritten index daemon.ws ++ daemon.inLine codec connection = line

/-- How many steps it takes at most to pass everything on. -/
def toPass (index : Nat) (daemon : Daemon) : Nat :=
  20 * daemon.queue.length + 10 * daemon.ws.sends.length +
    daemon.ws.connections[index]?.elim 0 daemon.ws.toWrite

/-! ## One step on -/

theorem callWebSocket_of_step {call : ReconnectingWebSocket.Action} {ws : ReconnectingWebSocket}
    (called : ReconnectingWebSocket.step service.maxRetries daemon.ws call = some ws) :
    daemon.callWebSocket service [call] = some { daemon with ws := ws } := by
  rw [callWebSocket, run, if_pos (show anyStep daemon.ws call from trivial), called]
  rfl

theorem autonomous_of_writePoll {call : ReconnectingWebSocket.Action}
    (poll : ReconnectingWebSocket.WritePoll index call) : autonomous call = true := by
  cases poll <;> rfl

variable {line : List Message}

namespace Passing

/-- The outgoing task holds a handle of the websocket. -/
theorem used (passing : Passing service codec index line daemon) : 0 < daemon.ws.handles := by
  have handles := (counted_of_reaches passing.reached).handles
  rw [passing.running, Bool.toNat_true] at handles
  omega

/-- The connection writes what it has. -/
theorem of_waiting (passing : Passing service codec index line daemon)
    (present : daemon.ws.connections[index]? = some connection)
    (waiting : daemon.ws.inLine connection ≠ []) : Exists fun action => Exists fun next =>
      Passes index action ∧ step service codec daemon action = some next ∧
        Passing service codec index line next ∧ next.toPass index < daemon.toPass index := by
  obtain ⟨found, located, up, inOrder⟩ := passing.up
  rw [present, Option.some.injEq] at located
  subst located
  have inside : Reaches (ReconnectingWebSocket.step service.maxRetries) anyStep .build daemon.ws :=
    webSocket_of_reaches passing.reached (fun _ _ _ => trivial) (fun _ _ _ => trivial)
  rcases ReconnectingWebSocket.writePoll_advances inside present up waiting with
    ⟨call, ws, moved, poll, called, advances⟩
  have taken : step service codec daemon (.webSocket call) = some { daemon with ws := ws } := by
    rw [step, if_pos (autonomous_of_writePoll poll)]
    exact callWebSocket_of_step called
  refine ⟨_, _, .webSocket call poll, taken, ?_, ?_⟩
  · refine ⟨.tail passing.reached trivial taken, passing.running, moved, advances.present,
      advances.up, ?_⟩
    have whole := congrArg
      (· ++ (daemon.ws.sends ++ daemon.queue.map (Outgoing.encode codec))) advances.line
    simpa only [inLine, advances.sends, List.append_assoc] using whole.trans (by
      simpa only [inLine, List.append_assoc] using inOrder)
  · simp only [toPass, advances.present, present, advances.sends, Option.elim_some]
    exact Nat.add_lt_add_left advances.less _

/-- There is room in the websocket for the message that the outgoing task sends. -/
theorem of_sending {receiver : Nat} (passing : Passing service codec index line daemon)
    (present : daemon.ws.connections[index]? = some connection)
    (rests : daemon.outgoing = .sending receiver)
    (drained : daemon.ws.inLine connection = []) : Exists fun next =>
      step service codec daemon .sent = some next ∧ Passing service codec index line next ∧
        next.toPass index < daemon.toPass index := by
  obtain ⟨found, located, up, inOrder⟩ := passing.up
  rw [present, Option.some.injEq] at located
  subst located
  have awaits := (delivers_of_reaches passing.reached).awaits
  rw [rests] at awaits
  obtain ⟨message, alone⟩ := List.length_eq_one_iff.mp awaits
  have alive := ReconnectingWebSocket.innerAlive_of_handle passing.used
  simp only [ReconnectingWebSocket.inLine, List.append_eq_nil_iff] at drained
  cases accepted : daemon.ws.outgoing.trySend message with
  | none =>
      have room : daemon.ws.outgoing.queue.length < 1 := by
        rw [drained.2]
        exact Nat.one_pos
      simp [Channel.trySend, room] at accepted
  | some outgoing =>
      have appended := ((Channel.trySend_eq_some_iff _ _ _).mp accepted).2
      rw [drained.2, List.nil_append] at appended
      have called : ReconnectingWebSocket.step service.maxRetries daemon.ws (.pollSend 0) =
          some ({ daemon.ws with outgoing := outgoing, sends := [] }.emit [.accepted message]) := by
        simp only [ReconnectingWebSocket.step, ReconnectingWebSocket.pollSend, alone, alive,
          accepted, List.getElem?_cons_zero, List.eraseIdx_cons_zero, if_true]
      have taken : step service codec daemon .sent = some { daemon with
          ws := { daemon.ws with outgoing := outgoing, sends := [] }.emit [.accepted message]
          outgoing := .selecting receiver } := by
        simp only [step, sent, rests, callWebSocket_of_step called, Option.map_some]
      refine ⟨_, taken, ?_, ?_⟩
      · refine ⟨.tail passing.reached trivial taken, rfl, connection, present, up, ?_⟩
        rw [← inOrder]
        simp [inLine, ReconnectingWebSocket.inLine, ReconnectingWebSocket.sinkWritten,
          ReconnectingWebSocket.keepAliveEvents, drained, appended, alone]
      · simp only [toPass, ReconnectingWebSocket.emit_connections,
          ReconnectingWebSocket.emit_sends, present, Option.elim_some, alone, List.length_nil,
          List.length_singleton, ReconnectingWebSocket.toWrite,
          ReconnectingWebSocket.emit_outgoing, ReconnectingWebSocket.emit_retry, appended,
          drained.2]
        omega

/-- The outgoing task passes the next message to the websocket, which is not
closed. -/
theorem of_selecting {receiver : Nat} {message : Outgoing} {queue : List Outgoing}
    (passing : Passing service codec index line daemon)
    (rests : daemon.outgoing = .selecting receiver) (head : daemon.queue = message :: queue) :
    Exists fun next => step service codec daemon .taken = some next ∧
      Passing service codec index line next ∧ next.toPass index < daemon.toPass index := by
  obtain ⟨connection, present, up, inOrder⟩ := passing.up
  have awaits := (delivers_of_reaches passing.reached).awaits
  rw [rests] at awaits
  have idle := List.length_eq_zero_iff.mp awaits
  have unset := unclosed_of_reaches passing.reached
  have called : ReconnectingWebSocket.step service.maxRetries daemon.ws
      (.send (message.encode codec)) = some { daemon.ws with sends := [message.encode codec] } := by
    simp only [ReconnectingWebSocket.step, if_pos passing.used, ReconnectingWebSocket.send, unset,
      Bool.false_eq_true, if_false, idle, List.nil_append]
  have taken : step service codec daemon .taken = some { daemon with
      ws := { daemon.ws with sends := [message.encode codec] }
      outgoing := .sending receiver
      queue := queue
      passed := daemon.passed ++ [message] } := by
    have asked := callWebSocket_of_step called
    rw [Outgoing.encode] at asked
    simp only [step, Daemon.taken, rests, head, asked, Option.map_some, unset,
      Bool.false_eq_true, if_false]
    rfl
  refine ⟨_, taken, ?_, ?_⟩
  · refine ⟨.tail passing.reached trivial taken, rfl, connection, present, up, ?_⟩
    rw [← inOrder]
    simp [inLine, ReconnectingWebSocket.inLine, ReconnectingWebSocket.sinkWritten, idle, head]
  · simp only [toPass, present, Option.elim_some, ReconnectingWebSocket.toWrite, head, idle,
      List.length_cons, List.length_nil]
    omega

/-- As long as something stands in line, some step passes it on. -/
theorem goesOn (passing : Passing service codec index line daemon) :
    (daemon.queue = [] ∧ ReconnectingWebSocket.sinkWritten index daemon.ws = line) ∨
      Exists fun action => Exists fun next => Passes index action ∧
        step service codec daemon action = some next ∧
          Passing service codec index line next ∧ next.toPass index < daemon.toPass index := by
  obtain ⟨connection, present, up, inOrder⟩ := passing.up
  by_cases drained : daemon.ws.inLine connection = []
  · cases rests : daemon.outgoing with
    | selecting receiver =>
        cases head : daemon.queue with
        | nil =>
            have awaits := (delivers_of_reaches passing.reached).awaits
            rw [rests] at awaits
            rw [inLine, drained, List.length_eq_zero_iff.mp awaits, head] at inOrder
            exact Or.inl ⟨rfl, (List.append_nil _).symm.trans inOrder⟩
        | cons message queue =>
            rcases passing.of_selecting rests head with ⟨next, taken, goesOn, less⟩
            exact Or.inr ⟨_, next, .taken, taken, goesOn, less⟩
    | sending receiver =>
        rcases passing.of_sending present rests drained with ⟨next, taken, goesOn, less⟩
        exact Or.inr ⟨_, next, .sent, taken, goesOn, less⟩
    | _ =>
        have running := passing.running
        rw [rests] at running
        cases running
  · exact Or.inr (passing.of_waiting present drained)

end Passing

/-- A step with which a request is answered through to the relay: its handler
runs to its end, and its answer is passed on. -/
inductive Answers (index handler : Nat) (provider : Provider) : Action -> Prop
  | handled : Answers index handler provider (.handled handler provider)
  | passes {action : Action} (passes : Passes index action) :
      Answers index handler provider action

/-- The handler of a request runs to its end. -/
theorem Passing.of_handled {handler : Nat} {message : ServerMessage} (provider : Provider)
    (passing : Passing service codec index line daemon)
    (waits : daemon.handling.handlers[handler]? = some (.received message)) :
    Exists fun next => step service codec daemon (.handled handler provider) = some next ∧
      Passing service codec index (line ++
        (Handling.sent (service.handleMessageInner codec provider message)).map
          fun answer => .binary (codec.serializeMsgpack answer)) next := by
  obtain ⟨connection, present, up, inOrder⟩ := passing.up
  have unstopped : daemon.outgoing ≠ .stopped := by
    intro stopped
    have running := passing.running
    rw [stopped] at running
    cases running
  have taken : Exists fun handling => step service codec daemon (.handled handler provider) =
      some { daemon with
        handling := handling
        queue := daemon.queue ++
          (Handling.sent (service.handleMessageInner codec provider message)).map
            fun answer => (.reply handler, answer) } := by
    refine ⟨{ handlers := daemon.handling.handlers.set handler (.ended message provider)
              replies := daemon.handling.replies ++
                (Handling.sent (service.handleMessageInner codec provider message)).map
                  (handler, ·) }, ?_⟩
    simp only [step, Handling.step, waits, Option.map_some, enqueue, if_neg unstopped, replies,
      List.drop_left', List.map_map]
    rfl
  obtain ⟨handling, taken⟩ := taken
  refine ⟨_, taken, .tail passing.reached trivial taken, passing.running, connection, present, up,
    ?_⟩
  rw [← inOrder]
  simp [inLine, Outgoing.encode]

/-- While the outgoing task runs and a connection is up, every request that waits
for its provider can be answered through to the sink of that connection, once the
call of the provider has returned, after what stands in line for it, and as it
should be, unless the provider lists query types that do not decode. -/
theorem request_can_be_answered (wasmDir : WasmDir) (dataSources : List ProxyDataSource)
    (maxRetries : Nat) (listenAddress : Option String) (statusCheckInterval : Duration)
    (codec : Codec) (daemon : Daemon)
    (reached : Reaches (step (.init wasmDir dataSources maxRetries listenAddress
      statusCheckInterval) codec) anyStep initial daemon)
    (running : daemon.outgoing.running = true) (index : Nat) (connection : Connection)
    (present : daemon.ws.connections[index]? = some connection) (up : connection.Up)
    (handler : Nat) (message : ServerMessage)
    (waits : daemon.handling.handlers[handler]? = some (.received message)) (provider : Provider)
    (decodable : ¬ Undecodable (.init wasmDir dataSources maxRetries listenAddress
      statusCheckInterval) codec provider message) :
    Exists fun answers => Answered message answers ∧ Exists fun last =>
      Reaches (step (.init wasmDir dataSources maxRetries listenAddress statusCheckInterval) codec)
        (fun _ => Answers index handler provider) daemon last ∧
      last.queue = [] ∧ ReconnectingWebSocket.sinkWritten index last.ws =
        ReconnectingWebSocket.sinkWritten index daemon.ws ++ daemon.inLine codec connection ++
          answers.map fun answer => .binary (codec.serializeMsgpack answer) := by
  have passing : Passing (.init wasmDir dataSources maxRetries listenAddress statusCheckInterval)
      codec index _ daemon := ⟨reached, running, connection, present, up, rfl⟩
  rcases passing.of_handled provider waits with ⟨next, taken, handled⟩
  refine ⟨_, (answered_sent_iff (ProxyService.init_complete _ _ _ _ _)).mpr decodable, ?_⟩
  rcases exists_reaches_of_weight (toPass index)
    (fun current (passing : Passing _ _ _ _ current) => passing.goesOn) handled with
    ⟨last, onwards, done⟩
  exact ⟨last, (Reaches.tail .refl .handled taken).trans
    (onwards.mono fun _ _ passes => .passes passes), done⟩

/-! ## A request whose provider is being asked -/

/-- The answer to another request stands in line for the connection. -/
def asked : Daemon :=
  (run (step plainService askingCodec) anyStep initial
    (toFirstRound ++ deliver (.ok (.binary [1])) ++
      [.received, .webSocket (.keepAliveRead 0 (.ready (some (.ok (.binary [2]))))),
        .webSocket (.keepAliveRead 0 .pending), .webSocket (.readLoop 0), .webSocket (.readLoop 0),
        .subscribed, .received, .handled 0 Handling.plainProvider])).get rfl

theorem asked_reached : Reaches (step plainService askingCodec) anyStep initial asked :=
  reaches_get_run _ rfl

theorem request_can_be_answered_asked : Exists fun last =>
    Reaches (step plainService askingCodec) (fun _ => Answers 0 1 Handling.plainProvider) asked
      last ∧ ReconnectingWebSocket.sinkWritten 0 last.ws = [.binary [1], .binary [2]] := by
  rcases request_can_be_answered Handling.plainDir [Handling.plainSource] 3 none 60 askingCodec
    asked asked_reached rfl 0 (asked.ws.connections.head (by decide)) rfl ⟨rfl, rfl, rfl⟩ 1
    ⟨some 2, "metrics", 2, .getConfigSchema⟩ rfl Handling.plainProvider
    (fun undecodable => by cases undecodable.2.2.1) with
    ⟨answers, ⟨response, rfl, opId, _⟩, last, onwards, _, written⟩
  simp only [List.map_singleton, askingCodec, opId] at written
  exact ⟨last, onwards, written⟩

end Daemon
end Service
end Fpd
