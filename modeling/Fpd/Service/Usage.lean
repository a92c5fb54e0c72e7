import Fpd.Async.Simulation
import Fpd.Service.Release
import Fpd.Service.Shutdown
import Fpd.WebSocket.Receiving

namespace Fpd
namespace Service
namespace Daemon

open Async WebSocket

/-!
# What the service asks of its websocket

The service calls `connect` once, on a websocket that nobody has used before.
It never calls `close`, and it waits for every call of `send` and `connect` to
return.  So what holds of a websocket that is used in this way holds of the
service's own, and the only thing that makes its main loop return without an
error is the shutdown signal.  An error with which it returns was yielded by
the stream of a connection.
-/

variable {service : ProxyService} {codec : Codec} {daemon after : Daemon} {action : Action}

/-- What the service calls at any time, and what the websocket does alone. -/
def asks : ReconnectingWebSocket.Action -> Bool
  | .connect => false
  | .close => false
  | .cancelConnect _ => false
  | .cancelSend _ => false
  | _ => true

theorem asks_of_autonomous {called : ReconnectingWebSocket.Action}
    (alone : autonomous called = true) : asks called = true := by
  cases called <;> first | rfl | cases alone

theorem asks_dropped (called : ReconnectingWebSocket.Action) (member : called ∈ dropped service) :
    asks called = true := by
  unfold dropped at member
  by_cases moved : service.listenAddress.isSome = true
  · rw [if_pos moved, List.mem_singleton] at member
    rw [member]
    rfl
  · rw [if_neg moved] at member
    simp only [List.mem_cons, List.not_mem_nil, or_false, or_self] at member
    rw [member]
    rfl

/-- After `connect` has been called, it is not called again. -/
theorem Step.asks (effect : Step service codec daemon action after)
    (later : action ≠ .connecting) :
    Reaches (ReconnectingWebSocket.step service.maxRetries) (fun _ called => asks called = true)
      daemon.ws after.ws := by
  have polls {ws : ReconnectingWebSocket} {answer : Poll (Option Item)}
      (polled : daemon.ws.pollRecv 0 = some (ws, answer)) :
      Reaches (ReconnectingWebSocket.step service.maxRetries)
        (fun _ called => Daemon.asks called = true) daemon.ws ws := by
    have taken : ReconnectingWebSocket.step service.maxRetries daemon.ws (.pollRecv 0) =
        some ws := by
      simp only [ReconnectingWebSocket.step, polled, Option.map_some]
    exact .single rfl taken
  cases effect with
  | signalled => exact .refl
  | bound => exact .refl
  | spawnedStatus => exact .refl
  | status => exact .refl
  | handled => exact .refl
  | webSocket own ws alone calls => exact .single (asks_of_autonomous alone) calls.single
  | connecting => exact absurd rfl later
  | waiting _ _ _ _ calls => exact calls.reaches (by simp [Daemon.asks])
  | refused _ _ _ _ _ calls => exact calls.reaches (by simp [Daemon.asks])
  | connected _ _ _ _ calls => exact calls.reaches (by simp [Daemon.asks])
  | bindFailed _ _ _ calls => exact calls.reaches (by simp [Daemon.asks])
  | spawnedOutgoing _ _ calls => exact calls.reaches (by simp [Daemon.asks])
  | subscribed _ _ calls => exact calls.reaches (by simp [Daemon.asks])
  | polled _ _ _ answer => exact polls answer
  | continued _ _ _ _ _ answer => exact polls answer
  | failed _ _ _ _ _ answer calls => exact (polls answer).trans (calls.reaches asks_dropped)
  | disconnected _ _ _ _ answer calls => exact (polls answer).trans (calls.reaches asks_dropped)
  | shutDown _ _ _ _ calls =>
      apply calls.reaches
      intro called member
      rcases List.mem_cons.mp member with rfl | dropping
      · rfl
      · exact asks_dropped called dropping
  | taken _ _ _ _ _ _ calls => exact calls.reaches (by simp [Daemon.asks])
  | sent _ _ _ calls => exact calls.reaches (by simp [Daemon.asks])
  | outgoingStopped _ _ _ _ calls => exact calls.reaches (by simp [Daemon.asks])
  | accepted _ _ calls => exact calls.reaches (by simp [Daemon.asks])
  | acceptFailed _ _ calls => exact calls.reaches (by simp [Daemon.asks])
  | served _ _ calls => exact calls.reaches (by simp [Daemon.asks])

/-! ## One call of `connect` -/

/-- A websocket without connections and calls does nothing alone. -/
theorem autonomous_build {maxRetries : Nat} {called : ReconnectingWebSocket.Action}
    (alone : autonomous called = true) :
    ReconnectingWebSocket.step maxRetries .build called = none := by
  cases called with
  | attempted caller outcome => cases caller <;> rfl
  | woken caller => cases caller <;> rfl
  | readLoop index => rfl
  | writeLoop index => rfl
  | keepAliveRead index stream => rfl
  | keepAliveWrite index timeout sink => rfl
  | _ => cases alone

/-- Before `connect` is called nothing happens to the websocket. -/
theorem Step.unused (effect : Step service codec daemon action after)
    (counted : Counted service daemon)
    (unused : daemon.main = .called -> daemon.ws = .build) :
    after.main = .called -> after.ws = .build := by
  intro early
  have idle (called : daemon.main = .called) : daemon.outgoing.running = false :=
    counted.unspawned (by rw [called]; rfl)
  have unbound (called : daemon.main = .called) : daemon.healthCheck = ⟨false, 0⟩ :=
    counted.bound (Or.inl (by rw [called]; rfl))
  cases effect with
  | signalled => exact unused early
  | status => exact unused early
  | handled => exact unused early
  | webSocket own ws alone calls =>
      have taken := calls.single
      rw [unused early, autonomous_build alone] at taken
      cases taken
  | waiting outcome connId ws rests => cases rests.symm.trans early
  | polled receiver ws rests => cases rests.symm.trans early
  | connected =>
      dsimp only at early
      split at early <;> cases early
  | taken receiver message queue ws rests =>
      have running := idle early
      rw [rests] at running
      cases running
  | sent receiver ws rests =>
      have running := idle early
      rw [rests] at running
      cases running
  | outgoingStopped receiver ws rests =>
      have running := idle early
      rw [rests] at running
      cases running
  | accepted ws accepting =>
      rw [unbound early] at accepting
      cases accepting
  | acceptFailed ws accepting =>
      rw [unbound early] at accepting
      cases accepting
  | served ws serving =>
      rw [unbound early] at serving
      cases serving
  | _ => cases early

theorem unused_of_reaches {allowed : Daemon -> Action -> Prop}
    (reached : Reaches (step service codec) allowed initial daemon) :
    daemon.main = .called -> daemon.ws = .build := by
  apply reached.invariant (fun _ => rfl)
  intro before action after earlier unused _ taken
  exact (step_spec taken).unused (counted_of_reaches earlier) unused

/-- A condition on the actions of the websocket that every other call of the
service meets, and `connect` on a new websocket, holds all along. -/
theorem usage_of_reaches {allowed : Daemon -> Action -> Prop}
    {holds : ReconnectingWebSocket -> ReconnectingWebSocket.Action -> Prop}
    (reached : Reaches (step service codec) allowed initial daemon)
    (connects : holds .build .connect)
    (others : forall ws called, asks called = true -> holds ws called) :
    Reaches (ReconnectingWebSocket.step service.maxRetries) holds .build daemon.ws := by
  apply reached.invariant .refl
  intro before action after earlier inside _ taken
  by_cases connecting : action = .connecting
  · subst connecting
    cases step_spec taken with
    | connecting ws rests calls =>
        have new := unused_of_reaches earlier rests
        rw [new] at calls
        exact .single connects calls.single
  · exact inside.trans (((step_spec taken).asks connecting).mono others)

/-- The service uses its websocket as one that is connected once. -/
theorem oneConnect_of_reaches {allowed : Daemon -> Action -> Prop}
    (reached : Reaches (step service codec) allowed initial daemon) :
    Reaches (ReconnectingWebSocket.step service.maxRetries) ReconnectingWebSocket.OneConnect
      .build daemon.ws := by
  apply usage_of_reaches reached
  · exact fun _ => List.not_mem_nil
  · rintro ws called asked rfl
    cases asked

/-! ## Why `connect` returns -/

/-- Nothing but `close` sets the close flag. -/
theorem close_of_step {maxRetries : Nat} {ws called : ReconnectingWebSocket}
    {call : ReconnectingWebSocket.Action}
    (taken : ReconnectingWebSocket.step maxRetries ws call = some called)
    (other : call ≠ .close) : called.close = ws.close := by
  cases ReconnectingWebSocket.step_spec taken with
  | user effect =>
      cases effect with
      | closed => exact absurd rfl other
      | _ => rfl
  | connect effect => exact effect.frame.close
  | readLoop present effect => exact (effect.replaces present).1.close
  | writeLoop present effect => exact (effect.replaces present).1.close
  | keepAliveRead => rfl
  | keepAliveWrite => rfl

theorem unclosed_of_otherCalls {maxRetries : Nat} {ws : ReconnectingWebSocket}
    (reached : Reaches (ReconnectingWebSocket.step maxRetries) (fun _ called => called ≠ .close)
      .build ws) : ws.close.value = false := by
  apply reached.invariant
  · rfl
  · intro before called after _ unset other taken
    rw [close_of_step taken other]
    exact unset

theorem unclosed_of_reaches {allowed : Daemon -> Action -> Prop}
    (reached : Reaches (step service codec) allowed initial daemon) :
    daemon.ws.close.value = false := by
  have inside : Reaches (ReconnectingWebSocket.step service.maxRetries)
      (fun _ called => called ≠ .close) .build daemon.ws := by
    apply usage_of_reaches reached
    · simp
    · rintro ws called asked rfl
      cases asked
  exact unclosed_of_otherCalls inside

/-- While `connect` is in its main loop, the websocket is in use. -/
theorem innerAlive_of_selecting {receiver : Nat} (counted : Counted service daemon)
    (rests : daemon.main = .selecting receiver) : daemon.ws.innerAlive = true := by
  have own : 0 < mainHandles service (.selecting receiver) := by
    change 0 < if service.listenAddress.isSome then 1 else 2
    split <;> omega
  apply ReconnectingWebSocket.innerAlive_of_handle
  have handles := counted.handles
  rw [rests] at handles
  omega

/-- Of the item with which `recv` answers the main loop the log says that it
was received. -/
theorem received_of_pollRecv {ws : ReconnectingWebSocket} {result : Option Item}
    (alive : daemon.ws.innerAlive = true) (unset : daemon.ws.close.value = false)
    (polled : daemon.ws.pollRecv 0 = some (ws, .ready result)) :
    Exists fun item => result = some item ∧
      ReconnectingWebSocket.received ws.log =
        ReconnectingWebSocket.received daemon.ws.log ++ [item] := by
  cases ReconnectingWebSocket.pollRecv_step polled with
  | received item incoming head kept =>
      exact ⟨item, rfl, by simp [ReconnectingWebSocket.endRecv, ReconnectingWebSocket.received]⟩
  | ended cause =>
      rcases cause with flag | gone
      · rw [unset] at flag
        cases flag
      · rw [alive] at gone
        cases gone
  | failed closeSeen called gone =>
      rw [alive] at gone
      cases gone

/-- What `connect` has returned is explained: it handled the signal, or the
error was received. -/
def Explained (daemon : Daemon) (result : Except WebSocket.Error Unit) : Prop :=
  match result with
  | .ok () => 0 < daemon.shutdown.sent
  | .error error => .error error ∈ ReconnectingWebSocket.received daemon.ws.log

theorem received_of_reaches {maxRetries : Nat} {ws later : ReconnectingWebSocket} {item : Item}
    {holds : ReconnectingWebSocket -> ReconnectingWebSocket.Action -> Prop}
    (onwards : Reaches (ReconnectingWebSocket.step maxRetries) holds ws later)
    (earlier : item ∈ ReconnectingWebSocket.received ws.log) :
    item ∈ ReconnectingWebSocket.received later.log := by
  apply onwards.invariant
  · exact earlier
  · intro before called after _ member _ taken
    rcases (ReconnectingWebSocket.step_spec taken).log with ⟨events, log⟩
    rw [← log, ReconnectingWebSocket.received_append]
    exact List.mem_append_left _ member

theorem Step.explained (effect : Step service codec daemon action after)
    (counted : Counted service daemon) (unset : daemon.ws.close.value = false)
    (explained : forall result, daemon.main = .returned result -> Explained daemon result) :
    forall result, after.main = .returned result -> Explained after result := by
  -- A step after the return takes nothing back.
  have later (main : after.main = daemon.main)
      (shutdown : daemon.shutdown.sent ≤ after.shutdown.sent)
      (result : Except WebSocket.Error Unit) (returned : after.main = .returned result) :
      Explained after result := by
    have before := explained result (main ▸ returned)
    cases result with
    | ok => exact Nat.lt_of_lt_of_le before shutdown
    | error error => exact received_of_reaches effect.webSocketRun before
  intro result returned
  cases effect with
  | signalled shutdown sent =>
      refine later rfl ?_ result returned
      rw [(Broadcast.send_eq_some_iff.mp sent).2]
      exact Nat.le_succ _
  | failed receiver error polled ws rests answer calls =>
      cases returned
      rcases received_of_pollRecv (innerAlive_of_selecting counted rests) unset answer with
        ⟨item, same, log⟩
      cases same
      apply received_of_reaches (calls.reaches asks_dropped)
      rw [log]
      exact List.mem_append_right _ (List.mem_singleton_self _)
  | disconnected receiver polled ws rests answer calls =>
      rcases received_of_pollRecv (innerAlive_of_selecting counted rests) unset answer with
        ⟨item, same, _⟩
      cases same
  | shutDown receiver ws rests holds calls =>
      cases returned
      exact Nat.zero_lt_of_lt (of_decide_eq_true holds)
  | connected =>
      dsimp only at returned
      split at returned <;> cases returned
  | connecting => cases returned
  | refused => cases returned
  | bindFailed => cases returned
  | bound => cases returned
  | spawnedStatus => cases returned
  | spawnedOutgoing => cases returned
  | subscribed => cases returned
  | continued => cases returned
  | _ => exact later rfl (Nat.le_refl _) result returned

theorem explained_of_reaches {allowed : Daemon -> Action -> Prop}
    (reached : Reaches (step service codec) allowed initial daemon) :
    forall result, daemon.main = .returned result -> Explained daemon result := by
  apply reached.invariant (fun _ impossible => by cases impossible)
  intro before action after earlier explained _ taken
  exact (step_spec taken).explained (counted_of_reaches earlier) (unclosed_of_reaches earlier)
    explained

/-- What calls of `recv` hand out was yielded by the stream of a connection
before its first Close frame. -/
theorem beforeClose_of_received {item : Item} {allowed : Daemon -> Action -> Prop}
    (reached : Reaches (step service codec) allowed initial daemon)
    (received : item ∈ ReconnectingWebSocket.received daemon.ws.log) :
    item.isReset = false ∧ Exists fun index =>
      item ∈ ReconnectingWebSocket.beforeClose index daemon.ws.log := by
  have once := oneConnect_of_reaches reached
  have queued := ReconnectingWebSocket.queued_of_reaches once
  rw [queued.handed, List.mem_filter, Bool.not_eq_true'] at received
  refine ⟨received.2, ?_⟩
  have forwarded : item ∈ ReconnectingWebSocket.forwardedByConnection daemon.ws := by
    rw [← queued.turns, queued.fifo]
    exact List.mem_append_left _ received.1
  rcases List.mem_flatMap.mp forwarded with ⟨index, _, own⟩
  have pipelines := ReconnectingWebSocket.pipelines_of_reaches once
  exact ⟨index, (ReconnectingWebSocket.forwardedFrom_beforeClose pipelines index).subset own⟩

/-- `connect` returns without an error only after the shutdown signal, and with
an error only one that the stream of some connection yielded before a Close
frame.  The error for a reset without closing handshake is never among them. -/
theorem connect_returns (service : ProxyService) (codec : Codec) (daemon : Daemon)
    (reached : Reaches (step service codec) anyStep initial daemon)
    (result : Except WebSocket.Error Unit) (returned : daemon.main = .returned result) :
    match result with
    | .ok () => 0 < daemon.shutdown.sent
    | .error error => Item.isReset (.error error) = false ∧ Exists fun index =>
        .error error ∈ ReconnectingWebSocket.beforeClose index daemon.ws.log := by
  have explained := explained_of_reaches reached result returned
  cases result with
  | ok => exact explained
  | error error => exact beforeClose_of_received reached explained

/-- A connection is reset by its peer, and `connect` returns the error. -/
theorem connect_returns_reset : Exists fun index =>
    .error (.io "connection reset by peer") ∈ ReconnectingWebSocket.beforeClose index
      ((run (step plainService Handling.plainCodec) anyStep initial
        (toFirstRound ++ deliver (.error (.io "connection reset by peer")) ++
          [.received])).get rfl).ws.log :=
  (connect_returns _ _ _ (reaches_get_run _ rfl) (.error (.io "connection reset by peer")) rfl).2

end Daemon
end Service
end Fpd
