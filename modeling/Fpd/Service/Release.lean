import Fpd.Service.Steps
import Fpd.WebSocket.Orphans

namespace Fpd
namespace Service
namespace Daemon

open Async WebSocket

/-!
# Letting go of the websocket

`connect` closes its websocket by letting go of it: the main loop and the
outgoing task drop their handles when they handle the shutdown signal.  The
health check endpoint holds one handle in the task that accepts connections and
one in each connection it serves, and none of them listens to the signal.

The handles are counted in every run.  So the websocket is released exactly
where no endpoint runs, and from there its connections wind up on their own.
-/

variable {service : ProxyService} {codec : Codec} {daemon after : Daemon} {action : Action}

/-! ## The number of handles -/

/-- The handles that an action of the websocket leaves. -/
def handlesAfter (handles : Nat) : ReconnectingWebSocket.Action -> Nat
  | .clone => handles + 1
  | .drop => handles - 1
  | _ => handles

theorem handles_of_step {maxRetries : Nat} {ws called : ReconnectingWebSocket}
    {call : ReconnectingWebSocket.Action}
    (taken : ReconnectingWebSocket.step maxRetries ws call = some called) :
    called.handles = handlesAfter ws.handles call := by
  cases ReconnectingWebSocket.step_spec taken with
  | user effect => cases effect <;> rfl
  | connect effect =>
      rw [effect.frame.handles]
      cases effect <;> rfl
  | readLoop present effect => exact (effect.replaces present).1.handles
  | writeLoop present effect => exact (effect.replaces present).1.handles
  | keepAliveRead => rfl
  | keepAliveWrite => rfl

theorem Calls.handles {ws called : ReconnectingWebSocket}
    {actions : List ReconnectingWebSocket.Action} (calls : Calls service ws actions called) :
    called.handles = actions.foldl handlesAfter ws.handles := by
  induction actions generalizing ws with
  | nil =>
      cases calls
      rfl
  | cons action actions inductionHypothesis =>
      rcases run_cons_eq_some_iff.mp calls with ⟨next, _, taken, onwards⟩
      rw [inductionHypothesis onwards, handles_of_step taken, List.foldl_cons]

theorem handles_of_pollRecv {ws polled : ReconnectingWebSocket} {answer : Poll (Option Item)}
    (answered : ws.pollRecv 0 = some (polled, answer)) : polled.handles = ws.handles := by
  have taken : ReconnectingWebSocket.step 0 ws (.pollRecv 0) = some polled := by
    simp only [ReconnectingWebSocket.step, answered, Option.map_some]
  exact handles_of_step taken

/-- The handles of `connect` itself.  The one for the health check goes to the
task that accepts connections, or stays until `connect` returns. -/
def mainHandles (service : ProxyService) : Main -> Nat
  | .called => 1
  | .connecting => 1
  | .binding => 2
  | .failed _ => 0
  | .returned _ => 0
  | _ => if service.listenAddress.isSome then 1 else 2

/-- `connect` has not bound the address of the health check. -/
def unbound : Main -> Bool
  | .called => true
  | .connecting => true
  | .binding => true
  | _ => false

/-- Every handle is one of `connect`, of the outgoing task or of the health
check, which there is only after its address has been bound. -/
structure Counted (service : ProxyService) (daemon : Daemon) : Prop where
  handles : daemon.ws.handles = mainHandles service daemon.main + daemon.outgoing.running.toNat +
    daemon.healthCheck.accepting.toNat + daemon.healthCheck.connections
  binding : daemon.main = .binding -> service.listenAddress.isSome = true
  unspawned : daemon.main.entered = false -> daemon.outgoing.running = false
  bound : unbound daemon.main = true ∨ service.listenAddress = none ->
    daemon.healthCheck = ⟨false, 0⟩

namespace Counted

theorem of_same (counted : Counted service daemon) (handles : after.ws.handles = daemon.ws.handles)
    (main : after.main = daemon.main)
    (outgoing : after.outgoing.running = daemon.outgoing.running)
    (healthCheck : after.healthCheck = daemon.healthCheck) : Counted service after := by
  constructor
  · rw [handles, main, outgoing, healthCheck]
    exact counted.handles
  · rw [main]
    exact counted.binding
  · rw [main, outgoing]
    exact counted.unspawned
  · rw [main, healthCheck]
    exact counted.bound

/-- `connect` goes on, and with it the number of its handles. -/
theorem of_main (counted : Counted service daemon) {main next : Main} (rests : daemon.main = main)
    (moved : after.main = next) (outgoing : after.outgoing = daemon.outgoing)
    (healthCheck : after.healthCheck = daemon.healthCheck)
    (handles : after.ws.handles + mainHandles service main =
      daemon.ws.handles + mainHandles service next)
    (binding : next = .binding -> service.listenAddress.isSome = true)
    (entered : next.entered = false -> main.entered = false)
    (bound : unbound next = true -> unbound main = true) : Counted service after := by
  subst rests moved
  constructor
  · have before := counted.handles
    rw [outgoing, healthCheck]
    omega
  · exact binding
  · rw [outgoing]
    exact fun early => counted.unspawned (entered early)
  · rw [healthCheck]
    exact fun without => counted.bound (without.imp_left bound)

/-- `connect` drops all its handles. -/
theorem of_dropped (counted : Counted service daemon) {main next : Main}
    (rests : daemon.main = main) (moved : after.main = next)
    (outgoing : after.outgoing = daemon.outgoing)
    (healthCheck : after.healthCheck = daemon.healthCheck) (none : mainHandles service next = 0)
    (fewer : after.ws.handles = daemon.ws.handles - mainHandles service main)
    (unbinding : next ≠ .binding) (entered : next.entered = false -> main.entered = false)
    (bound : unbound next = false) : Counted service after := by
  apply counted.of_main rests moved outgoing healthCheck
  · have before := counted.handles
    rw [rests] at before
    omega
  · exact fun same => absurd same unbinding
  · exact entered
  · intro early
    rw [bound] at early
    cases early

end Counted

theorem foldl_dropped (handles : Nat) : (dropped service).foldl handlesAfter handles =
    handles - if service.listenAddress.isSome then 1 else 2 := by
  unfold dropped
  split <;> rfl

/-- What `connect` drops when its main loop ends are all its handles. -/
theorem handles_of_dropped {ws called : ReconnectingWebSocket} (receiver : Nat)
    (calls : Calls service ws (dropped service) called) :
    called.handles = ws.handles - mainHandles service (.selecting receiver) := by
  rw [calls.handles, foldl_dropped]
  rfl

/-- A handle is taken or given back by a task of the health check. -/
theorem Counted.of_healthCheck (counted : Counted service daemon) {ws : ReconnectingWebSocket}
    {healthCheck : HealthCheck} (runs : daemon.healthCheck ≠ ⟨false, 0⟩)
    (handles : ws.handles + daemon.healthCheck.accepting.toNat + daemon.healthCheck.connections =
      daemon.ws.handles + healthCheck.accepting.toNat + healthCheck.connections) :
    Counted service { daemon with ws := ws, healthCheck := healthCheck } := by
  refine ⟨?_, counted.binding, counted.unspawned, fun without => ?_⟩
  · have before := counted.handles
    dsimp only
    omega
  · exact absurd (counted.bound without) runs

theorem Step.counted (effect : Step service codec daemon action after)
    (counted : Counted service daemon) : Counted service after := by
  have before := counted.handles
  cases effect with
  | signalled => exact counted.of_same rfl rfl rfl rfl
  | webSocket action ws alone calls =>
      refine counted.of_same ?_ rfl rfl rfl
      rw [calls.handles]
      cases action <;> first | rfl | cases alone
  | connecting ws rests calls =>
      exact counted.of_main rests rfl rfl rfl (congrArg (· + 1) calls.handles) nofun
        (fun _ => rfl) (fun _ => rfl)
  | waiting outcome connId ws rests calls => exact counted.of_same calls.handles rfl rfl rfl
  | refused outcome connId ws failure rests calls =>
      exact counted.of_dropped rests rfl rfl rfl rfl calls.handles nofun (fun _ => rfl) rfl
  | connected outcome connId ws rests calls =>
      refine counted.of_main rests rfl rfl rfl ?_ ?_ (fun _ => rfl) (fun _ => rfl)
      · rw [calls.handles]
        cases set : service.listenAddress <;> simp [mainHandles, set, handlesAfter]
      · intro binding
        by_contra unset
        rw [if_neg unset] at binding
        cases binding
  | bindFailed description ws rests calls =>
      exact counted.of_dropped rests rfl rfl rfl rfl calls.handles nofun (fun _ => rfl) rfl
  | bound rests =>
      have set := counted.binding rests
      have idle := counted.bound (Or.inl (by rw [rests]; rfl))
      refine ⟨?_, nofun, fun _ => counted.unspawned (by rw [rests]; rfl), ?_⟩
      · rw [rests, idle] at before
        simp only [mainHandles, set, if_true, Bool.toNat_true, Bool.toNat_false] at before ⊢
        omega
      · rintro (early | unset)
        · cases early
        · rw [unset] at set
          cases set
  | spawnedStatus rests =>
      exact counted.of_main rests rfl rfl rfl rfl nofun (fun _ => rfl) nofun
  | spawnedOutgoing ws rests calls =>
      have idle := counted.unspawned (by rw [rests]; rfl)
      have more : ws.handles = daemon.ws.handles + 1 := calls.handles
      have own : mainHandles service .spawningOutgoing = mainHandles service .subscribing := rfl
      refine ⟨?_, nofun, nofun, fun without => counted.bound (without.imp_left nofun)⟩
      rw [rests, idle, own] at before
      simp only [OutgoingTask.running, Bool.toNat_true, Bool.toNat_false] at before ⊢
      omega
  | subscribed ws rests calls =>
      exact counted.of_main rests rfl rfl rfl (congrArg (· + _) calls.handles) nofun nofun nofun
  | polled receiver ws rests answer =>
      exact counted.of_same (handles_of_pollRecv answer) rfl rfl rfl
  | continued receiver message ws handling rests answer =>
      exact counted.of_main rests rfl rfl rfl (congrArg (· + _) (handles_of_pollRecv answer))
        nofun nofun nofun
  | failed receiver error polled ws rests answer calls =>
      refine counted.of_dropped rests rfl rfl rfl rfl ?_ nofun nofun rfl
      exact handles_of_pollRecv answer ▸ handles_of_dropped receiver calls
  | disconnected receiver polled ws rests answer calls =>
      refine counted.of_dropped rests rfl rfl rfl rfl ?_ nofun nofun rfl
      exact handles_of_pollRecv answer ▸ handles_of_dropped receiver calls
  | shutDown receiver ws rests holds calls =>
      exact counted.of_dropped rests rfl rfl rfl rfl (calls.handles.trans (foldl_dropped _))
        nofun nofun rfl
  | status => exact counted.of_same rfl rfl rfl rfl
  | taken receiver message queue ws rests head calls =>
      refine counted.of_same calls.handles rfl ?_ rfl
      dsimp only
      rw [rests]
      split <;> rfl
  | sent receiver ws rests calls =>
      refine counted.of_same calls.handles rfl ?_ rfl
      rw [rests]
      rfl
  | outgoingStopped receiver ws rests holds calls =>
      have fewer : ws.handles = daemon.ws.handles - 1 := calls.handles
      refine ⟨?_, counted.binding, fun _ => rfl, counted.bound⟩
      rw [rests] at before
      simp only [OutgoingTask.running, Bool.toNat_true, Bool.toNat_false] at before ⊢
      omega
  | accepted ws accepting calls =>
      have more : ws.handles = daemon.ws.handles + 1 := calls.handles
      apply counted.of_healthCheck
      · intro idle
        rw [idle] at accepting
        cases accepting
      · dsimp only
        omega
  | acceptFailed ws accepting calls =>
      have fewer : ws.handles = daemon.ws.handles - 1 := calls.handles
      apply counted.of_healthCheck
      · intro idle
        rw [idle] at accepting
        cases accepting
      · rw [accepting] at before ⊢
        simp only [Bool.toNat_true, Bool.toNat_false] at before ⊢
        omega
  | served ws serving calls =>
      have fewer : ws.handles = daemon.ws.handles - 1 := calls.handles
      apply counted.of_healthCheck
      · intro idle
        rw [idle] at serving
        cases serving
      · dsimp only
        omega
  | handled => exact counted.of_same rfl rfl rfl rfl

theorem counted_of_reaches {allowed : Daemon -> Action -> Prop}
    (reached : Reaches (step service codec) allowed initial daemon) : Counted service daemon := by
  apply reached.invariant
  · exact ⟨rfl, nofun, fun _ => rfl, fun _ => rfl⟩
  · intro before action after _ counted _ taken
    exact (step_spec taken).counted counted

/-! ## After the shutdown -/

/-- The tasks that subscribed to the shutdown have handled it, and `connect` has
returned, possibly before it spawned them. -/
structure HasShutDown (daemon : Daemon) : Prop where
  status : daemon.status.task = .unspawned ∨ daemon.status.task = .stopped
  outgoing : daemon.outgoing = .unspawned ∨ daemon.outgoing = .stopped
  main : (Exists fun result => daemon.main = .returned result) ∨
    Exists fun failure => daemon.main = .failed failure

/-- Nobody holds a handle of the websocket.  So `Inner` goes, unless a loop is
connecting again, and once it is gone each connection winds up: its loops can
leave, and its sink gets closed. -/
structure Released (service : ProxyService) (ws : ReconnectingWebSocket) : Prop where
  handles : ws.handles = 0
  dropped : ws.Settles -> Exists fun later =>
    Reaches (ReconnectingWebSocket.step service.maxRetries)
      (fun _ => ReconnectingWebSocket.LoopPoll) ws later ∧ later.innerAlive = false
  windsUp : forall later,
    Reaches (ReconnectingWebSocket.step service.maxRetries) anyStep ws later ->
      later.innerAlive = false -> forall (index : Nat) (connection : Connection),
        later.connections[index]? = some connection ->
          ReconnectingWebSocket.WindsUp service.maxRetries later index connection

/-- After the shutdown the handles left are those of the health check. -/
theorem handles_of_hasShutDown (counted : Counted service daemon) (shutDown : HasShutDown daemon) :
    daemon.ws.handles =
      daemon.healthCheck.accepting.toNat + daemon.healthCheck.connections := by
  have main : mainHandles service daemon.main = 0 := by
    rcases shutDown.main with ⟨result, returned⟩ | ⟨failure, failed⟩
    · rw [returned]
      rfl
    · rw [failed]
      rfl
  have outgoing : daemon.outgoing.running = false := by
    rcases shutDown.outgoing with unspawned | stopped
    · rw [unspawned]
      rfl
    · rw [stopped]
      rfl
  rw [counted.handles, main, outgoing, Bool.toNat_false, Nat.zero_add]

/-- A shutdown releases the websocket exactly if there is no health check: the
address for it is not set, or its task has failed and serves no connection any
more. -/
theorem released_iff_noHealthCheck (service : ProxyService) (codec : Codec) (daemon : Daemon)
    (reached : Reaches (step service codec) anyStep initial daemon)
    (shutDown : HasShutDown daemon) :
    Released service daemon.ws ↔
      service.listenAddress = none ∨ daemon.healthCheck = ⟨false, 0⟩ := by
  have counted := counted_of_reaches reached
  have left := handles_of_hasShutDown counted shutDown
  constructor
  · intro released
    rw [released.handles] at left
    apply Or.inr
    rcases check : daemon.healthCheck with ⟨accepting, connections⟩
    rw [check] at left
    cases accepting <;> simp only [Bool.toNat_true, Bool.toNat_false] at left ⊢
    · rw [HealthCheck.mk.injEq]
      exact ⟨rfl, by omega⟩
    · omega
  · intro without
    have idle : daemon.healthCheck = ⟨false, 0⟩ :=
      without.elim (fun unset => counted.bound (Or.inr unset)) id
    have none : daemon.ws.handles = 0 := by
      rw [left, idle]
      rfl
    have run : Reaches (ReconnectingWebSocket.step service.maxRetries) anyStep
        ReconnectingWebSocket.build daemon.ws :=
      webSocket_of_reaches reached (fun _ _ _ => trivial) (fun _ _ _ => trivial)
    refine ⟨none, ReconnectingWebSocket.drops_inner none, ?_⟩
    intro later onwards dead index connection present
    exact ReconnectingWebSocket.windsUp (run.trans onwards) dead present

/-- The three tasks handle the signal. -/
def shuttingDown : List Action :=
  [.signalled, .status .stopped, .outgoingStopped, .shutDown]

theorem released_iff_noHealthCheck_plain :
    Released plainService ((run (step plainService Handling.plainCodec) anyStep initial
      (toFirstRound ++ shuttingDown)).get rfl).ws ↔
        plainService.listenAddress = none ∨
          ((run (step plainService Handling.plainCodec) anyStep initial
            (toFirstRound ++ shuttingDown)).get rfl).healthCheck = ⟨false, 0⟩ :=
  released_iff_noHealthCheck _ _ _ (reaches_get_run _ rfl) ⟨Or.inr rfl, Or.inr rfl, Or.inl ⟨_, rfl⟩⟩

/-- The same daemon with a health check. -/
def listeningService : ProxyService :=
  .init Handling.plainDir [Handling.plainSource] 3 (some "127.0.0.1:3000") 60

/-- The task that accepts connections keeps its handle. -/
theorem healthCheck_keeps_webSocket : ¬ forall (service : ProxyService) (codec : Codec)
    (daemon : Daemon), Reaches (step service codec) anyStep initial daemon ->
      HasShutDown daemon -> Released service daemon.ws := by
  intro law
  have reached := @reaches_get_run _ _ (step listeningService Handling.plainCodec) anyStep initial _
    ([.connecting, .attempted (.ok ()) (some "1"), .bound (.ok ()), .spawnedStatus,
      .spawnedOutgoing, .subscribed] ++ shuttingDown) rfl
  cases (law _ _ _ reached ⟨Or.inr rfl, Or.inr rfl, Or.inl ⟨_, rfl⟩⟩).handles

end Daemon
end Service
end Fpd
