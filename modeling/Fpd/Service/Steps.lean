import Fpd.Service.Connect

namespace Fpd
namespace Service
namespace Daemon

open Async WebSocket

/-!
# What the steps of the daemon can do

The step function is unfolded once, into the list of its effects.  What a step
does to the websocket is in that list as a run of the websocket's machine, and
these runs are joined below: seen from the websocket, the daemon is one of its
users, and every law about all runs of the websocket holds in the daemon.
-/

variable {service : ProxyService} {codec : Codec} {daemon after : Daemon} {action : Action}

/-- The websocket goes through these actions. -/
def Calls (service : ProxyService) (ws : ReconnectingWebSocket)
    (actions : List ReconnectingWebSocket.Action) (called : ReconnectingWebSocket) : Prop :=
  run (ReconnectingWebSocket.step service.maxRetries) anyStep ws actions = some called

namespace Calls

variable {ws between called : ReconnectingWebSocket}
  {actions others : List ReconnectingWebSocket.Action}

theorem append (calls : Calls service ws actions between)
    (onwards : Calls service between others called) : Calls service ws (actions ++ others) called :=
  (run_append actions others calls).trans onwards

theorem single {action : ReconnectingWebSocket.Action}
    (calls : Calls service ws [action] called) :
    ReconnectingWebSocket.step service.maxRetries ws action = some called := by
  rcases run_cons_eq_some_iff.mp calls with ⟨next, _, taken, last⟩
  exact taken.trans last

theorem reaches {holds : ReconnectingWebSocket.Action -> Prop}
    (calls : Calls service ws actions called)
    (every : forall action, action ∈ actions -> holds action) :
    Reaches (ReconnectingWebSocket.step service.maxRetries) (fun _ => holds) ws called :=
  reaches_of_run_of_forall actions calls every

end Calls

theorem callWebSocket_some {actions : List ReconnectingWebSocket.Action}
    (called : daemon.callWebSocket service actions = some after) :
    Exists fun ws => Calls service daemon.ws actions ws ∧ after = { daemon with ws := ws } := by
  rcases Option.map_eq_some_iff.mp called with ⟨ws, calls, same⟩
  exact ⟨ws, calls, same.symm⟩

/-- A step that calls the websocket and then changes the rest. -/
theorem callWebSocket_map {actions : List ReconnectingWebSocket.Action} {change : Daemon -> Daemon}
    (called : (daemon.callWebSocket service actions).map change = some after) :
    Exists fun ws => Calls service daemon.ws actions ws ∧
      after = change { daemon with ws := ws } := by
  rcases Option.map_eq_some_iff.mp called with ⟨between, some, same⟩
  rcases callWebSocket_some some with ⟨ws, calls, rfl⟩
  exact ⟨ws, calls, same.symm⟩

/-- Everything one step of the daemon can do. -/
inductive Step (service : ProxyService) (codec : Codec) (daemon : Daemon) :
    Action -> Daemon -> Prop
  | signalled (shutdown : Broadcast) (sent : daemon.shutdown.send daemon.listened = some shutdown) :
      Step service codec daemon .signalled { daemon with shutdown := shutdown }
  | webSocket (action : ReconnectingWebSocket.Action) (ws : ReconnectingWebSocket)
      (alone : autonomous action = true) (calls : Calls service daemon.ws [action] ws) :
      Step service codec daemon (.webSocket action) { daemon with ws := ws }
  | connecting (ws : ReconnectingWebSocket) (rests : daemon.main = .called)
      (calls : Calls service daemon.ws [.connect] ws) :
      Step service codec daemon .connecting { daemon with ws := ws, main := .connecting }
  | waiting (outcome : Except WebSocket.Error Unit) (connId : Option String)
      (ws : ReconnectingWebSocket) (rests : daemon.main = .connecting)
      (calls : Calls service daemon.ws [.attempted (.user 0) outcome] ws) :
      Step service codec daemon (.attempted outcome connId) { daemon with ws := ws }
  | refused (outcome : Except WebSocket.Error Unit) (connId : Option String)
      (ws : ReconnectingWebSocket) (failure : ConnectFailure) (rests : daemon.main = .connecting)
      (calls : Calls service daemon.ws [.attempted (.user 0) outcome, .drop] ws) :
      Step service codec daemon (.attempted outcome connId)
        { daemon with ws := ws, main := .failed failure }
  | connected (outcome : Except WebSocket.Error Unit) (connId : Option String)
      (ws : ReconnectingWebSocket) (rests : daemon.main = .connecting)
      (calls : Calls service daemon.ws [.attempted (.user 0) outcome, .clone] ws) :
      Step service codec daemon (.attempted outcome connId)
        { daemon with
          ws := ws, main := if service.listenAddress.isSome then .binding else .spawningStatus }
  | bindFailed (description : String) (ws : ReconnectingWebSocket) (rests : daemon.main = .binding)
      (calls : Calls service daemon.ws [.drop, .drop] ws) :
      Step service codec daemon (.bound (.error description))
        { daemon with ws := ws, main := .failed (.bind description) }
  | bound (rests : daemon.main = .binding) :
      Step service codec daemon (.bound (.ok ()))
        { daemon with main := .spawningStatus, healthCheck := ⟨true, 0⟩ }
  | spawnedStatus (rests : daemon.main = .spawningStatus) :
      Step service codec daemon .spawnedStatus { daemon with
        main := .spawningOutgoing
        status := { daemon.status with
          task := if service.statusCheckInterval = 0 then .panicked
            else .selecting daemon.shutdown.subscribe } }
  | spawnedOutgoing (ws : ReconnectingWebSocket) (rests : daemon.main = .spawningOutgoing)
      (calls : Calls service daemon.ws [.clone] ws) :
      Step service codec daemon .spawnedOutgoing { daemon with
        ws := ws, main := .subscribing, outgoing := .selecting daemon.shutdown.subscribe }
  | subscribed (ws : ReconnectingWebSocket) (rests : daemon.main = .subscribing)
      (calls : Calls service daemon.ws [.recv] ws) :
      Step service codec daemon .subscribed
        { daemon with ws := ws, main := .selecting daemon.shutdown.subscribe }
  | polled (receiver : Nat) (ws : ReconnectingWebSocket) (rests : daemon.main = .selecting receiver)
      (answer : daemon.ws.pollRecv 0 = some (ws, .pending)) :
      Step service codec daemon .received { daemon with ws := ws }
  | continued (receiver : Nat) (message : Message) (ws : ReconnectingWebSocket)
      (handling : Handling) (rests : daemon.main = .selecting receiver)
      (answer : daemon.ws.pollRecv 0 = some (ws, .ready (some (.ok message))))
      (handled : handling = daemon.handling ∨ Exists fun message =>
        daemon.handling.step service codec (.received message) = some handling) :
      Step service codec daemon .received
        { daemon with ws := ws, main := .subscribing, handling := handling }
  | failed (receiver : Nat) (error : WebSocket.Error) (polled ws : ReconnectingWebSocket)
      (rests : daemon.main = .selecting receiver)
      (answer : daemon.ws.pollRecv 0 = some (polled, .ready (some (.error error))))
      (calls : Calls service polled (dropped service) ws) :
      Step service codec daemon .received
        { daemon with ws := ws, main := .returned (.error error) }
  | disconnected (receiver : Nat) (polled ws : ReconnectingWebSocket)
      (rests : daemon.main = .selecting receiver)
      (answer : daemon.ws.pollRecv 0 = some (polled, .ready none))
      (calls : Calls service polled (dropped service) ws) :
      Step service codec daemon .received { daemon with ws := ws, main := .returned (.ok ()) }
  | shutDown (receiver : Nat) (ws : ReconnectingWebSocket)
      (rests : daemon.main = .selecting receiver)
      (holds : daemon.shutdown.holds receiver = true)
      (calls : Calls service daemon.ws (.cancelRecv 0 :: dropped service) ws) :
      Step service codec daemon .shutDown { daemon with ws := ws, main := .returned (.ok ()) }
  | status (action : Status.Action) (status : Status) (messages : List Outgoing)
      (answer : daemon.status.step service codec daemon.shutdown action = some (status, messages)) :
      Step service codec daemon (.status action)
        ({ daemon with status := status }.enqueue messages)
  | taken (receiver : Nat) (message : Outgoing) (queue : List Outgoing)
      (ws : ReconnectingWebSocket) (rests : daemon.outgoing = .selecting receiver)
      (head : daemon.queue = message :: queue)
      (calls : Calls service daemon.ws [.send (.binary (codec.serializeMsgpack message.2))] ws) :
      Step service codec daemon .taken { daemon with
        ws := ws
        outgoing := if ws.close.value then .selecting receiver else .sending receiver
        queue := queue
        passed := daemon.passed ++ [message] }
  | sent (receiver : Nat) (ws : ReconnectingWebSocket) (rests : daemon.outgoing = .sending receiver)
      (calls : Calls service daemon.ws [.pollSend 0] ws) :
      Step service codec daemon .sent { daemon with ws := ws, outgoing := .selecting receiver }
  | outgoingStopped (receiver : Nat) (ws : ReconnectingWebSocket)
      (rests : daemon.outgoing = .selecting receiver)
      (holds : daemon.shutdown.holds receiver = true)
      (calls : Calls service daemon.ws [.drop] ws) :
      Step service codec daemon .outgoingStopped
        { daemon with ws := ws, outgoing := .stopped, queue := [] }
  | accepted (ws : ReconnectingWebSocket) (accepting : daemon.healthCheck.accepting = true)
      (calls : Calls service daemon.ws [.clone] ws) :
      Step service codec daemon .accepted { daemon with
        ws := ws
        healthCheck := { daemon.healthCheck with
          connections := daemon.healthCheck.connections + 1 } }
  | acceptFailed (ws : ReconnectingWebSocket) (accepting : daemon.healthCheck.accepting = true)
      (calls : Calls service daemon.ws [.drop] ws) :
      Step service codec daemon .acceptFailed { daemon with
        ws := ws, healthCheck := { daemon.healthCheck with accepting := false } }
  | served (ws : ReconnectingWebSocket) (serving : 0 < daemon.healthCheck.connections)
      (calls : Calls service daemon.ws [.drop] ws) :
      Step service codec daemon .served { daemon with
        ws := ws
        healthCheck := { daemon.healthCheck with
          connections := daemon.healthCheck.connections - 1 } }
  | handled (index : Nat) (provider : Provider) (handling : Handling)
      (answer : daemon.handling.step service codec (.handled index provider) = some handling) :
      Step service codec daemon (.handled index provider)
        ({ daemon with handling := handling }.enqueue (replies daemon.handling handling))

/-! ## The functions of the main task -/

theorem attempted_step {outcome : Except WebSocket.Error Unit} {connId : Option String}
    (taken : daemon.attempted service outcome connId = some after) :
    Step service codec daemon (.attempted outcome connId) after := by
  unfold attempted at taken
  cases rests : daemon.main <;> simp only [rests, reduceCtorEq] at taken
  cases called : daemon.callWebSocket service [.attempted (.user 0) outcome] with
  | none => simp only [called, reduceCtorEq] at taken
  | some between =>
      rcases callWebSocket_some called with ⟨ws, calls, rfl⟩
      simp only [called] at taken
      by_cases answered : ws.connects.isEmpty = true
      · rw [if_pos answered] at taken
        unfold connected at taken
        rcases outcome with error | _
        · rcases callWebSocket_map taken with ⟨later, dropped, rfl⟩
          exact .refused _ _ later _ rests (calls.append dropped)
        · cases connId with
          | none =>
              rcases callWebSocket_map taken with ⟨later, dropped, rfl⟩
              exact .refused _ _ later _ rests (calls.append dropped)
          | some id =>
              rcases callWebSocket_map taken with ⟨later, cloned, rfl⟩
              exact .connected _ _ later rests (calls.append cloned)
      · rw [if_neg answered, Option.some.injEq] at taken
        exact taken ▸ .waiting outcome connId ws rests calls

theorem bound_step {result : Except String Unit}
    (taken : daemon.bound service result = some after) :
    Step service codec daemon (.bound result) after := by
  unfold bound at taken
  cases rests : daemon.main <;> simp only [rests, reduceCtorEq] at taken
  rcases result with description | _
  · rcases callWebSocket_map taken with ⟨ws, calls, rfl⟩
    exact .bindFailed description ws rests calls
  · simp only [Option.some.injEq] at taken
    exact taken ▸ .bound rests

theorem returned_some {result : Except WebSocket.Error Unit}
    (taken : daemon.returned service result = some after) :
    Exists fun ws => Calls service daemon.ws (dropped service) ws ∧
      after = { daemon with ws := ws, main := .returned result } :=
  callWebSocket_map taken

theorem received_step (taken : daemon.received service codec = some after) :
    Step service codec daemon .received after := by
  unfold received at taken
  cases rests : daemon.main <;> simp only [rests, reduceCtorEq] at taken
  rename_i receiver
  rcases polled : daemon.ws.pollRecv 0 with _ | ⟨ws, _ | item⟩
  · simp only [polled, reduceCtorEq] at taken
  · simp only [polled, Option.some.injEq, ← rests] at taken
    exact taken ▸ .polled receiver ws rests polled
  · simp only [polled] at taken
    unfold incoming at taken
    rcases item with _ | error | message
    · rcases returned_some taken with ⟨later, calls, rfl⟩
      exact .disconnected receiver ws later rests polled calls
    · rcases returned_some taken with ⟨later, calls, rfl⟩
      exact .failed receiver error ws later rests polled calls
    · have unhandled (same : some { daemon with ws := ws, main := .subscribing } = some after) :
          Step service codec daemon .received after := by
        rw [Option.some.injEq] at same
        exact same ▸ .continued receiver message ws daemon.handling rests polled (Or.inl rfl)
      cases message with
      | binary data =>
          cases decoded : codec.deserializeMsgpack data with
          | error err =>
              simp only [decoded] at taken
              exact unhandled taken
          | ok request =>
              simp only [decoded] at taken
              rcases Option.map_eq_some_iff.mp taken with ⟨handling, handled, rfl⟩
              exact .continued receiver (.binary data) ws handling rests polled
                (Or.inr ⟨request, handled⟩)
      | text data => exact unhandled taken
      | ping data => exact unhandled taken
      | pong data => exact unhandled taken
      | close frame => exact unhandled taken
      | frame data => exact unhandled taken

theorem shutDown_step (taken : daemon.shutDown service = some after) :
    Step service codec daemon .shutDown after := by
  unfold shutDown at taken
  cases rests : daemon.main <;> simp only [rests, reduceCtorEq] at taken
  rename_i receiver
  by_cases holds : daemon.shutdown.holds receiver = true
  · rw [if_pos holds] at taken
    cases called : daemon.callWebSocket service [.cancelRecv 0] with
    | none => simp only [called, reduceCtorEq] at taken
    | some between =>
        rcases callWebSocket_some called with ⟨ws, calls, rfl⟩
        simp only [called] at taken
        rcases returned_some taken with ⟨later, dropping, rfl⟩
        exact .shutDown receiver later rests holds (calls.append dropping)
  · rw [if_neg holds] at taken
    cases taken

/-! ## The machine -/

theorem taken_step (polled : daemon.taken service codec = some after) :
    Step service codec daemon .taken after := by
  unfold taken at polled
  cases rests : daemon.outgoing <;> simp only [rests, reduceCtorEq] at polled
  cases head : daemon.queue with
  | nil => simp only [head, reduceCtorEq] at polled
  | cons message queue =>
      simp only [head] at polled
      rcases callWebSocket_map polled with ⟨ws, calls, rfl⟩
      exact .taken _ message queue ws rests head calls

theorem outgoingStopped_step (polled : daemon.outgoingStopped service = some after) :
    Step service codec daemon .outgoingStopped after := by
  unfold outgoingStopped at polled
  cases rests : daemon.outgoing <;> simp only [rests, reduceCtorEq] at polled
  rename_i receiver
  by_cases holds : daemon.shutdown.holds receiver = true
  · rw [if_pos holds] at polled
    rcases callWebSocket_map polled with ⟨ws, calls, rfl⟩
    exact .outgoingStopped receiver ws rests holds calls
  · rw [if_neg holds] at polled
    cases polled

theorem step_spec (taken : step service codec daemon action = some after) :
    Step service codec daemon action after := by
  cases action with
  | signalled =>
      rcases Option.map_eq_some_iff.mp taken with ⟨shutdown, sent, rfl⟩
      exact .signalled shutdown sent
  | webSocket action =>
      by_cases alone : autonomous action = true
      · simp only [step, alone, if_true] at taken
        rcases callWebSocket_some taken with ⟨ws, calls, rfl⟩
        exact .webSocket action ws alone calls
      · simp [step, alone] at taken
  | connecting =>
      cases rests : daemon.main <;> simp only [step, rests, reduceCtorEq] at taken
      rcases callWebSocket_map taken with ⟨ws, calls, rfl⟩
      exact .connecting ws rests calls
  | attempted outcome connId => exact attempted_step taken
  | bound result => exact bound_step taken
  | spawnedStatus =>
      cases rests : daemon.main <;>
        simp only [step, spawnedStatus, rests, reduceCtorEq, Option.some.injEq] at taken
      exact taken ▸ .spawnedStatus rests
  | spawnedOutgoing =>
      cases rests : daemon.main <;>
        simp only [step, spawnedOutgoing, rests, reduceCtorEq] at taken
      rcases callWebSocket_map taken with ⟨ws, calls, rfl⟩
      exact .spawnedOutgoing ws rests calls
  | subscribed =>
      cases rests : daemon.main <;> simp only [step, subscribed, rests, reduceCtorEq] at taken
      rcases callWebSocket_map taken with ⟨ws, calls, rfl⟩
      exact .subscribed ws rests calls
  | received => exact received_step taken
  | shutDown => exact shutDown_step taken
  | status action =>
      rcases Option.map_eq_some_iff.mp taken with ⟨⟨status, messages⟩, answer, rfl⟩
      exact .status action status messages answer
  | taken => exact taken_step taken
  | sent =>
      cases rests : daemon.outgoing <;> simp only [step, sent, rests, reduceCtorEq] at taken
      rcases callWebSocket_map taken with ⟨ws, calls, rfl⟩
      exact .sent _ ws rests calls
  | outgoingStopped => exact outgoingStopped_step taken
  | accepted =>
      by_cases accepting : daemon.healthCheck.accepting = true
      · simp only [step, accepting, if_true] at taken
        rcases callWebSocket_map taken with ⟨ws, calls, rfl⟩
        exact .accepted ws accepting calls
      · simp [step, accepting] at taken
  | acceptFailed =>
      by_cases accepting : daemon.healthCheck.accepting = true
      · simp only [step, accepting, if_true] at taken
        rcases callWebSocket_map taken with ⟨ws, calls, rfl⟩
        exact .acceptFailed ws accepting calls
      · simp [step, accepting] at taken
  | served =>
      by_cases serving : 0 < daemon.healthCheck.connections
      · simp only [step, if_pos serving] at taken
        rcases callWebSocket_map taken with ⟨ws, calls, rfl⟩
        exact .served ws serving calls
      · simp [step, serving] at taken
  | handled index provider =>
      rcases Option.map_eq_some_iff.mp taken with ⟨handling, answer, rfl⟩
      exact .handled index provider handling answer

/-! ## The main loop -/

/-- Why the main loop returns what it does. -/
inductive Returns (daemon : Daemon) : Except WebSocket.Error Unit -> Prop
  | failed (error : WebSocket.Error) (polled : ReconnectingWebSocket)
      (answer : daemon.ws.pollRecv 0 = some (polled, .ready (some (.error error)))) :
      Returns daemon (.error error)
  | disconnected (polled : ReconnectingWebSocket)
      (answer : daemon.ws.pollRecv 0 = some (polled, .ready none)) : Returns daemon (.ok ())
  | shutDown (receiver : Nat) (holds : daemon.shutdown.holds receiver = true) :
      Returns daemon (.ok ())

/-- What a step does to the loop and to the signal. -/
inductive LoopStep (daemon after : Daemon) : Action -> Prop
  | same {action : Action} (main : after.main = daemon.main)
      (shutdown : after.shutdown = daemon.shutdown) : LoopStep daemon after action
  | signalled (main : after.main = daemon.main)
      (sent : daemon.shutdown.send daemon.listened = some after.shutdown) :
      LoopStep daemon after .signalled
  | outside {action : Action} (before : daemon.main.entered = false)
      (waits : after.main.subscribed = false) (runs : forall result, after.main ≠ .returned result)
      (shutdown : after.shutdown = daemon.shutdown) : LoopStep daemon after action
  | subscribed (rests : daemon.main = .subscribing)
      (main : after.main = .selecting daemon.shutdown.subscribe)
      (shutdown : after.shutdown = daemon.shutdown) : LoopStep daemon after .subscribed
  | continued (receiver : Nat) (message : Message) (ws : ReconnectingWebSocket)
      (rests : daemon.main = .selecting receiver)
      (answer : daemon.ws.pollRecv 0 = some (ws, .ready (some (.ok message))))
      (main : after.main = .subscribing) (shutdown : after.shutdown = daemon.shutdown) :
      LoopStep daemon after .received
  | returned {action : Action} (result : Except WebSocket.Error Unit)
      (main : after.main = .returned result) (shutdown : after.shutdown = daemon.shutdown)
      (cause : Returns daemon result) : LoopStep daemon after action

theorem Step.loop (effect : Step service codec daemon action after) :
    LoopStep daemon after action := by
  have outside {main : Main} (rests : daemon.main = main) (early : main.entered = false)
      (waits : after.main.subscribed = false) (runs : forall result, after.main ≠ .returned result)
      (shutdown : after.shutdown = daemon.shutdown) : LoopStep daemon after action :=
    .outside (rests ▸ early) waits runs shutdown
  cases effect with
  | signalled shutdown sent => exact .signalled rfl sent
  | connecting _ rests => exact outside rests rfl rfl (by simp) rfl
  | refused _ _ _ _ rests => exact outside rests rfl rfl (by simp) rfl
  | connected _ _ _ rests =>
      refine outside rests rfl ?_ (fun result => ?_) rfl
      · dsimp only
        split <;> rfl
      · dsimp only
        split <;> simp
  | bindFailed _ _ rests => exact outside rests rfl rfl (by simp) rfl
  | bound rests => exact outside rests rfl rfl (by simp) rfl
  | spawnedStatus rests => exact outside rests rfl rfl (by simp) rfl
  | spawnedOutgoing _ rests => exact outside rests rfl rfl (by simp) rfl
  | subscribed _ rests => exact .subscribed rests rfl rfl
  | continued receiver message ws handling rests answer =>
      exact .continued receiver message ws rests answer rfl rfl
  | failed receiver error polled _ _ answer =>
      exact .returned _ rfl rfl (.failed error polled answer)
  | disconnected receiver polled _ _ answer =>
      exact .returned _ rfl rfl (.disconnected polled answer)
  | shutDown receiver _ _ holds => exact .returned _ rfl rfl (.shutDown receiver holds)
  | _ => exact .same rfl rfl

/-! ## The daemon as a user of its websocket -/

theorem autonomous_dropped (called : ReconnectingWebSocket.Action)
    (member : called ∈ dropped service) : autonomous called = false := by
  unfold dropped at member
  by_cases moved : service.listenAddress.isSome = true
  · rw [if_pos moved, List.mem_singleton] at member
    rw [member]
    rfl
  · rw [if_neg moved] at member
    simp only [List.mem_cons, List.not_mem_nil, or_false, or_self] at member
    rw [member]
    rfl

/-- What a step does to the websocket is a run of calls, or it is the step of
the websocket itself. -/
theorem Step.webSocketRun (effect : Step service codec daemon action after) :
    Reaches (ReconnectingWebSocket.step service.maxRetries)
      (fun ws called => (action = .webSocket called ∧ ws = daemon.ws) ∨ autonomous called = false)
      daemon.ws after.ws := by
  -- The steps that call the websocket in one go.
  have called {actions : List ReconnectingWebSocket.Action} {before ws : ReconnectingWebSocket}
      (calls : Calls service before actions ws)
      (users : forall called, called ∈ actions -> autonomous called = false) :
      Reaches (ReconnectingWebSocket.step service.maxRetries)
        (fun ws called =>
          (action = .webSocket called ∧ ws = daemon.ws) ∨ autonomous called = false) before ws :=
    (calls.reaches users).mono fun _ _ user => Or.inr user
  have polls {ws : ReconnectingWebSocket} {answer : Poll (Option Item)}
      (polled : daemon.ws.pollRecv 0 = some (ws, answer)) :
      Calls service daemon.ws [.pollRecv 0] ws := by
    simp [Calls, run, ReconnectingWebSocket.step, polled, anyStep]
  cases effect with
  | signalled => exact .refl
  | bound => exact .refl
  | spawnedStatus => exact .refl
  | status => exact .refl
  | handled => exact .refl
  | webSocket own ws alone calls => exact .tail .refl (Or.inl ⟨rfl, rfl⟩) calls.single
  | connecting _ _ calls => exact called calls (by simp [autonomous])
  | waiting _ _ _ _ calls => exact called calls (by simp [autonomous])
  | refused _ _ _ _ _ calls => exact called calls (by simp [autonomous])
  | connected _ _ _ _ calls => exact called calls (by simp [autonomous])
  | bindFailed _ _ _ calls => exact called calls (by simp [autonomous])
  | spawnedOutgoing _ _ calls => exact called calls (by simp [autonomous])
  | subscribed _ _ calls => exact called calls (by simp [autonomous])
  | polled _ _ _ answer => exact called (polls answer) (by simp [autonomous])
  | continued _ _ _ _ _ answer => exact called (polls answer) (by simp [autonomous])
  | failed _ _ _ _ _ answer calls =>
      exact (called (polls answer) (by simp [autonomous])).trans (called calls autonomous_dropped)
  | disconnected _ _ _ _ answer calls =>
      exact (called (polls answer) (by simp [autonomous])).trans (called calls autonomous_dropped)
  | shutDown _ _ _ _ calls =>
      apply called calls
      intro called member
      rcases List.mem_cons.mp member with rfl | dropping
      · rfl
      · exact autonomous_dropped called dropping
  | taken _ _ _ _ _ _ calls => exact called calls (by simp [autonomous])
  | sent _ _ _ calls => exact called calls (by simp [autonomous])
  | outgoingStopped _ _ _ _ calls => exact called calls (by simp [autonomous])
  | accepted _ _ calls => exact called calls (by simp [autonomous])
  | acceptFailed _ _ calls => exact called calls (by simp [autonomous])
  | served _ _ calls => exact called calls (by simp [autonomous])

/-- A run of the daemon is a run of its websocket.  A condition on what the
websocket does on its own carries over. -/
theorem webSocket_of_reaches {allowed : Daemon -> Action -> Prop}
    {holds : ReconnectingWebSocket -> ReconnectingWebSocket.Action -> Prop}
    (reached : Reaches (step service codec) allowed initial daemon)
    (own : forall before called, allowed before (.webSocket called) -> holds before.ws called)
    (users : forall ws called, autonomous called = false -> holds ws called) :
    Reaches (ReconnectingWebSocket.step service.maxRetries) holds
      ReconnectingWebSocket.build daemon.ws := by
  apply reached.invariant
  · exact Reaches.refl
  · intro before action after _ earlier permitted taken
    apply earlier.trans
    apply (step_spec taken).webSocketRun.mono
    intro ws called kind
    rcases kind with ⟨rfl, rfl⟩ | user
    · exact own before called permitted
    · exact users ws called user

/-- The handlers in a run of the daemon are a run of the handlers. -/
theorem handling_of_reaches {allowed : Daemon -> Action -> Prop}
    (reached : Reaches (step service codec) allowed initial daemon) :
    Reaches (Handling.step service codec) anyStep Handling.empty daemon.handling := by
  apply reached.invariant
  · exact Reaches.refl
  · intro before action after _ earlier _ taken
    cases step_spec taken with
    | continued _ _ _ _ _ _ handled =>
        rcases handled with same | ⟨message, handled⟩
        · exact same ▸ earlier
        · exact .tail earlier trivial handled
    | handled _ _ _ answer => exact .tail earlier trivial answer
    | _ => exact earlier

/-- In every run of the daemon the replies are those of the ended handlers. -/
theorem accounted_of_reaches {allowed : Daemon -> Action -> Prop}
    (reached : Reaches (step service codec) allowed initial daemon) :
    Handling.Accounted service codec daemon.handling :=
  Handling.accounted_of_reaches (handling_of_reaches reached)

/-! ## A daemon in its first round -/

/-- A daemon with one data source and no health check, connected and in the
first round of its loop. -/
def plainService : ProxyService :=
  .init Handling.plainDir [Handling.plainSource] 3 none 60

def toFirstRound : List Action :=
  [.connecting, .attempted (.ok ()) (some "1"), .spawnedStatus, .spawnedOutgoing, .subscribed]

end Daemon
end Service
end Fpd
