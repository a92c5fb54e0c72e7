import Fpd.Service.Shutdown
import Fpd.WebSocket.Ending
import Fpd.WebSocket.Provenance

namespace Fpd
namespace Service
namespace Daemon

open Async WebSocket

/-!
# Connection failures and the service

The websocket reconnects after any failure of a connection.  The error that
announced the failure still travels to the service, which takes every error
for the end: `recv` keeps back only the reset without a closing handshake.

So the law that a failure does not end the service fails for any other error,
even when the next connection has already been made.  It holds on the runs
whose streams yield no error but that one before a Close frame.  What comes
after a Close frame gets past no read loop.
-/

variable {service : ProxyService} {codec : Codec} {daemon after : Daemon} {action : Action}

/-- The shutdown was sent, the websocket was closed or there will be no other
connection. -/
def MayReturn (daemon : Daemon) : Prop :=
  0 < daemon.shutdown.sent ∨ daemon.ws.close.value = true ∨
    ReconnectingWebSocket.ChainEnded daemon.ws

/-- The item is a message or the error that `recv` keeps back. -/
def harmless (item : Item) : Bool :=
  !item.isError || item.isReset

/-- A stream that has yielded no Close frame yields an error that `recv` passes
on. -/
def yieldsFailure (daemon : Daemon) : Action -> Bool
  | .webSocket (.keepAliveRead index (.ready (some item))) =>
      !harmless item && ReconnectingWebSocket.unclosed index daemon.ws.log
  | _ => false

def YieldsNoFailure (daemon : Daemon) (action : Action) : Prop :=
  daemon.yieldsFailure action = false

instance : Decidable (YieldsNoFailure daemon action) :=
  inferInstanceAs (Decidable (_ = false))

/-- Seen from the websocket, its streams yield messages and resets. -/
theorem yields_of_reaches (reached : Reaches (step service codec) YieldsNoFailure initial daemon) :
    Reaches (ReconnectingWebSocket.step service.maxRetries)
      (ReconnectingWebSocket.Yields fun item => harmless item = true)
      ReconnectingWebSocket.build daemon.ws := by
  apply webSocket_of_reaches reached
  · rintro before _ permitted index item rfl unclosed
    simpa [YieldsNoFailure, yieldsFailure, unclosed] using permitted
  · rintro ws _ user index item rfl
    cases user

/-- Nothing but the signal or the closing of the websocket ends the loop. -/
theorem Returns.excused {result : Except WebSocket.Error Unit} (cause : Returns daemon result)
    (reached : Reaches (step service codec) YieldsNoFailure initial daemon) :
    0 < daemon.shutdown.sent ∨ daemon.ws.close.value = true := by
  have yields := yields_of_reaches reached
  cases cause with
  | shutDown receiver holds => exact Or.inl (Nat.zero_lt_of_lt (of_decide_eq_true holds))
  | disconnected polled answer =>
      rcases ReconnectingWebSocket.pollRecv_ready yields answer with ⟨_, impossible, _⟩ | ⟨_, flag⟩
      · cases impossible
      · exact Or.inr flag
  | failed error polled answer =>
      rcases ReconnectingWebSocket.pollRecv_ready yields answer with
        ⟨item, same, benign, kept⟩ | ⟨impossible, _⟩
      · cases same
        simp only [harmless, kept, Item.isError, Bool.not_true, Bool.or_self,
          reduceCtorEq] at benign
      · cases impossible

theorem LoopStep.excused (effect : LoopStep daemon after action)
    (ws : daemon.ws.close.value = true -> after.ws.close.value = true)
    (reached : Reaches (step service codec) YieldsNoFailure initial daemon)
    (excused : forall result, daemon.main = .returned result ->
      0 < daemon.shutdown.sent ∨ daemon.ws.close.value = true)
    {result : Except WebSocket.Error Unit} (returned : after.main = .returned result) :
    0 < after.shutdown.sent ∨ after.ws.close.value = true := by
  cases effect with
  | same main shutdown =>
      rw [shutdown]
      exact (excused result (main ▸ returned)).imp id ws
  | signalled main sent =>
      rw [(Broadcast.send_eq_some_iff.mp sent).2]
      exact Or.inl (Nat.succ_pos _)
  | outside _ _ runs => exact absurd returned (runs result)
  | subscribed _ main =>
      rw [main] at returned
      cases returned
  | continued _ _ _ _ _ main =>
      rw [main] at returned
      cases returned
  | returned _ _ shutdown cause =>
      rw [shutdown]
      exact (cause.excused reached).imp id ws

/-- When the main loop has returned, the shutdown was sent, the websocket was
closed or reconnecting was given up. -/
theorem mayReturn_of_yieldsNoFailure (service : ProxyService) (codec : Codec) (daemon : Daemon)
    (reached : Reaches (step service codec) YieldsNoFailure initial daemon)
    (result : Except WebSocket.Error Unit) (returned : daemon.main = .returned result) :
    MayReturn daemon := by
  have excused : forall result, daemon.main = .returned result ->
      0 < daemon.shutdown.sent ∨ daemon.ws.close.value = true := by
    apply reached.invariant
    · intro result impossible
      cases impossible
    · intro before action after earlier excused permitted taken result returned
      have effect := step_spec taken
      exact effect.loop.excused (ReconnectingWebSocket.closed_of_reaches effect.webSocketRun)
        earlier excused returned
  rcases excused result returned with signal | flag
  · exact Or.inl signal
  · exact Or.inr (Or.inl flag)

/-- The stream of the first connection ends and its read loop reconnects. -/
def reconnect : List Action :=
  [.webSocket (.keepAliveRead 0 (.ready none)), .webSocket (.keepAliveRead 0 .pending),
    .webSocket (.readLoop 0), .webSocket (.readLoop 0),
    .webSocket (.attempted (.readLoop 0) (.ok ())), .webSocket (.readLoop 1),
    .webSocket (.readLoop 1)]

/-- After a reset and a reconnection the loop goes on until the signal. -/
theorem mayReturn_of_yieldsNoFailure_reset :
    MayReturn ((run (step plainService Handling.plainCodec) YieldsNoFailure initial
      (toFirstRound ++ deliver (.error (.protocol .resetWithoutClosingHandshake)) ++ reconnect ++
        [.received, .signalled, .shutDown])).get rfl) :=
  mayReturn_of_yieldsNoFailure _ _ _ (reaches_get_run _ rfl) (.ok ()) rfl

/-- The connection is reset by its peer and the next one has been made, and
then the service takes the error and ends. -/
theorem failure_ends_service : ¬ forall (service : ProxyService) (codec : Codec) (daemon : Daemon),
    Reaches (step service codec) anyStep initial daemon ->
      forall result, daemon.main = .returned result -> MayReturn daemon := by
  intro law
  have reached := @reaches_get_run _ _ (step plainService Handling.plainCodec) anyStep initial _
    (toFirstRound ++ deliver (.error (.io "connection reset by peer")) ++ reconnect ++
      [.received]) rfl
  rcases law _ _ _ reached (.error (.io "connection reset by peer")) rfl with
    signal | flag | ended
  · cases signal
  · cases flag
  · cases ended.2 _ (List.mem_of_mem_getLast? rfl)

end Daemon
end Service
end Fpd
