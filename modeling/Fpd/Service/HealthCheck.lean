import Fpd.Service.Usage
import Fpd.WebSocket.IsConnected

namespace Fpd
namespace Service

open Async WebSocket

/-!
# The health check endpoints

A request is answered by its method and path alone, except that `/health` tells
whether the websocket is connected and `/metrics` exports the metrics.  Whoever
asks is served by a task that holds a handle of the websocket, and the task is
there only once the websocket has been connected.  So `/health` reports a
connection only while some connection is up, and a lost one until the next.
-/

/-- `http::Method` -/
inductive Method
  | options
  | get
  | post
  | put
  | delete
  | head
  | trace
  | connect
  | patch
  | extension (name : String)
  deriving DecidableEq, Repr

structure HealthResponse where
  status : Nat
  body : String
  deriving DecidableEq, Repr

/-- The service of `serve_health_check_endpoints`. -/
def respond (ws : ReconnectingWebSocket) (metricsExport : Except String String) (method : Method)
    (path : String) : HealthResponse :=
  match method with
  | .get =>
      if path = "/" ∨ path = "" then ⟨200, "Hi, I'm your friendly neighborhood proxy."⟩
      else if path = "/health" then
        if ws.isConnected then ⟨200, "Connected"⟩ else ⟨502, "Disconnected"⟩
      else if path = "/metrics" then
        match metricsExport with
        | .ok metrics => ⟨200, metrics⟩
        | .error err => ⟨500, "Error exporting metrics: " ++ err⟩
      else ⟨404, "Not Found"⟩
  | _ => ⟨404, "Not Found"⟩

example : respond .build (.ok "") .get "/health" = ⟨200, "Connected"⟩ := by decide

theorem respond_health (ws : ReconnectingWebSocket) (metricsExport : Except String String) :
    respond ws metricsExport .get "/health" =
      if ws.isConnected then ⟨200, "Connected"⟩ else ⟨502, "Disconnected"⟩ := by
  have root : ¬ ("/health" = "/" ∨ "/health" = "") := by decide
  simp only [respond, if_neg root, if_true]

namespace Daemon

variable {service : ProxyService} {codec : Codec} {daemon after later : Daemon} {action : Action}

/-! ## The endpoints are there when a connection is -/

theorem connections_of_reaches {maxRetries : Nat} {ws called : ReconnectingWebSocket}
    {holds : ReconnectingWebSocket -> ReconnectingWebSocket.Action -> Prop}
    (onwards : Reaches (ReconnectingWebSocket.step maxRetries) holds ws called)
    (connected : ws.connections ≠ []) : called.connections ≠ [] := by
  rw [← List.length_pos_iff] at connected ⊢
  apply onwards.invariant
  · exact connected
  · intro before call next _ some _ taken
    exact some.trans_le (ReconnectingWebSocket.step_spec taken).connections

/-- The handshake that lets `connect` go on has made a connection. -/
theorem connections_of_attempted {outcome : Except WebSocket.Error Unit} {connId : Option String}
    (taken : daemon.attempted service outcome connId = some after)
    (binding : after.main = .binding) : after.ws.connections ≠ [] := by
  unfold attempted at taken
  cases rests : daemon.main <;> simp only [rests, reduceCtorEq] at taken
  cases called : daemon.callWebSocket service [.attempted (.user 0) outcome] with
  | none => simp only [called, reduceCtorEq] at taken
  | some between =>
      rcases callWebSocket_some called with ⟨ws, calls, rfl⟩
      simp only [called] at taken
      by_cases answered : ws.connects.isEmpty = true
      · rw [if_pos answered] at taken
        unfold connected at taken
        rcases outcome with error | _
        · rcases callWebSocket_map taken with ⟨dropped, _, rfl⟩
          cases binding
        · cases connId with
          | none =>
              rcases callWebSocket_map taken with ⟨dropped, _, rfl⟩
              cases binding
          | some id =>
              rcases callWebSocket_map taken with ⟨cloned, onwards, rfl⟩
              apply connections_of_reaches (onwards.reaches (fun _ _ => trivial))
              cases ReconnectingWebSocket.step_spec calls.single with
              | user effect => cases effect
              | connect effect =>
                  cases effect
                  simp [ReconnectingWebSocket.initiated]
      · rw [if_neg answered, Option.some.injEq] at taken
        subst taken
        cases rests.symm.trans binding

/-- Before the address is bound and while anybody is served there has been a
connection. -/
structure Serves (daemon : Daemon) : Prop where
  binding : daemon.main = .binding -> daemon.ws.connections ≠ []
  serving : daemon.healthCheck ≠ ⟨false, 0⟩ -> daemon.ws.connections ≠ []

theorem Step.serves (effect : Step service codec daemon action after)
    (taken : step service codec daemon action = some after) (serves : Serves daemon) :
    Serves after := by
  have grows := connections_of_reaches effect.webSocketRun
  have same (healthCheck : after.healthCheck = daemon.healthCheck) :
      after.healthCheck ≠ ⟨false, 0⟩ -> after.ws.connections ≠ [] := by
    rw [healthCheck]
    exact fun serving => grows (serves.serving serving)
  cases effect with
  | connected =>
      exact ⟨fun binding => connections_of_attempted taken binding, same rfl⟩
  | bound rests => exact ⟨nofun, fun _ => serves.binding rests⟩
  | accepted ws accepting =>
      refine ⟨fun binding => grows (serves.binding binding), fun _ => grows (serves.serving ?_)⟩
      intro idle
      rw [idle] at accepting
      cases accepting
  | acceptFailed ws accepting =>
      refine ⟨fun binding => grows (serves.binding binding), fun _ => grows (serves.serving ?_)⟩
      intro idle
      rw [idle] at accepting
      cases accepting
  | served ws serving =>
      refine ⟨fun binding => grows (serves.binding binding), fun _ => grows (serves.serving ?_)⟩
      intro idle
      rw [idle] at serving
      cases serving
  | connecting => exact ⟨nofun, same rfl⟩
  | refused => exact ⟨nofun, same rfl⟩
  | bindFailed => exact ⟨nofun, same rfl⟩
  | spawnedStatus => exact ⟨nofun, same rfl⟩
  | spawnedOutgoing => exact ⟨nofun, same rfl⟩
  | subscribed => exact ⟨nofun, same rfl⟩
  | continued => exact ⟨nofun, same rfl⟩
  | failed => exact ⟨nofun, same rfl⟩
  | disconnected => exact ⟨nofun, same rfl⟩
  | shutDown => exact ⟨nofun, same rfl⟩
  | _ => exact ⟨fun binding => grows (serves.binding binding), same rfl⟩

theorem serves_of_reaches {allowed : Daemon -> Action -> Prop}
    (reached : Reaches (step service codec) allowed initial daemon) : Serves daemon := by
  apply reached.invariant
  · exact ⟨nofun, fun serving => absurd rfl serving⟩
  · intro before action after _ serves _ taken
    exact (step_spec taken).serves taken serves

/-! ## What `/health` reports -/

theorem webSocket_onwards {allowed : Daemon -> Action -> Prop}
    (onwards : Reaches (step service codec) allowed daemon later) :
    Reaches (ReconnectingWebSocket.step service.maxRetries) anyStep daemon.ws later.ws := by
  apply onwards.invariant .refl
  intro before action after _ inside _ taken
  exact inside.trans ((step_spec taken).webSocketRun.mono fun _ _ _ => trivial)

/-- Whoever is served finds the websocket disconnected when no read loop goes
on. -/
theorem isConnected_of_serving
    (reached : Reaches (step service codec) anyStep initial daemon)
    (serving : 0 < daemon.healthCheck.connections)
    (published : ¬ ReconnectingWebSocket.HasUnpublished daemon.ws) :
    daemon.ws.isConnected = false := by
  have follows := ReconnectingWebSocket.flagFollows_of_reaches (oneConnect_of_reaches reached)
  refine ReconnectingWebSocket.isConnected_eq_false follows ?_ ?_ published
  · apply (serves_of_reaches reached).serving
    intro idle
    rw [idle] at serving
    cases serving
  · apply ReconnectingWebSocket.innerAlive_of_handle
    have handles := (counted_of_reaches reached).handles
    omega

/-- While somebody is served, `/health` reports a connection only if the read
loop of some connection has not ended, and once none goes on it reports a lost
connection to everybody until there is a new one. -/
theorem health_follows_connection (service : ProxyService) (codec : Codec) (daemon : Daemon)
    (metricsExport : Except String String)
    (reached : Reaches (step service codec) anyStep initial daemon)
    (serving : 0 < daemon.healthCheck.connections) :
    (respond daemon.ws metricsExport .get "/health" = ⟨200, "Connected"⟩ ->
        ReconnectingWebSocket.HasUnpublished daemon.ws) ∧
      (¬ ReconnectingWebSocket.HasUnpublished daemon.ws -> forall later,
        Reaches (step service codec) anyStep daemon later ->
          later.ws.connections.length = daemon.ws.connections.length ->
            0 < later.healthCheck.connections ->
              respond later.ws metricsExport .get "/health" = ⟨502, "Disconnected"⟩) := by
  refine ⟨fun answer => ?_, fun published later onwards sameConnections servingLater => ?_⟩
  · by_contra published
    rw [respond_health, isConnected_of_serving reached serving published] at answer
    cases answer
  · have kept := ReconnectingWebSocket.published_of_reaches (webSocket_onwards onwards) published
    rw [respond_health, isConnected_of_serving (reached.trans onwards) servingLater
      (kept.2 sameConnections)]
    rfl

/-! ## A daemon with a health check -/

def checkedService : ProxyService :=
  { plainService with listenAddress := some "127.0.0.1:3000" }

/-- Somebody asks, and the connection breaks. -/
def breaking : List Action :=
  [.connecting, .attempted (.ok ()) (some "1"), .bound (.ok ()), .accepted,
    .webSocket (.readLoop 0), .webSocket (.readLoop 0),
    .webSocket (.keepAliveRead 0 (.ready none)), .webSocket (.keepAliveRead 0 .pending),
    .webSocket (.readLoop 0), .webSocket (.readLoop 0)]

theorem health_follows_connection_broken :
    respond ((run (step checkedService Handling.plainCodec) anyStep initial breaking).get rfl).ws
      (.ok "") .get "/health" = ⟨502, "Disconnected"⟩ := by
  refine (health_follows_connection checkedService Handling.plainCodec _ (.ok "")
    (reaches_get_run breaking rfl) Nat.one_pos).2 ?_ _ .refl rfl Nat.one_pos
  rintro ⟨_ | index, connection, present, unpublished⟩
  · cases present
    cases unpublished
  · cases present

end Daemon
end Service
end Fpd
