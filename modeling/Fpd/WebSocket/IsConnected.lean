import Fpd.WebSocket.Chain

namespace Fpd
namespace WebSocket
namespace ReconnectingWebSocket

open Async

/-!
# What `is_connected` tells

The health check reads the disconnect flag and the close flag.  The disconnect
flag is written by every loop of every connection, but only the first step of
a read loop resets it.  After one call of `connect` that read loop is the
newest, and it sets the flag again before it reconnects or ends.  So a reset
flag belongs to a read loop that has not published its end.
-/

variable {socket after later : ReconnectingWebSocket} {maxRetries : Nat} {action : Action}

/-- Some connection has a read loop that has not published its end. -/
def HasUnpublished (socket : ReconnectingWebSocket) : Prop :=
  Exists fun index : Nat => Exists fun connection : Connection =>
    socket.connections[index]? = some connection ∧ connection.readLoop.unpublished = true

/-- The read loop has not published its end, or it reconnects and has no
successor yet. -/
def Engaged (loop : ReadLoop) : Prop :=
  loop.unpublished = true ∨ Exists fun call => loop = .reconnecting call

theorem Engaged.unfinished {loop : ReadLoop} (engaged : Engaged loop) :
    loop ≠ .finished := by
  rcases engaged with unpublished | ⟨call, reconnects⟩
  · exact unfinished_of_unpublished unpublished
  · rw [reconnects]
    exact ReadLoop.noConfusion

/-- The newest read loop has published its end only if the disconnect flag is
set or `Inner` is gone. -/
def FlagFollows (socket : ReconnectingWebSocket) : Prop :=
  forall (index : Nat) (connection : Connection), socket.connections[index]? = some connection ->
    index + 1 = socket.connections.length ->
      connection.readLoop.unpublished = true ∨ socket.disconnect.value = true ∨
        socket.innerAlive = false

variable {index : Nat} {connection replaced : Connection}

theorem ReadLoopStep.published (effect : ReadLoopStep socket index connection replaced after) :
    replaced.readLoop.unpublished = true ∨ after.disconnect.value = true ∨
      socket.innerAlive = false := by
  cases effect with
  | spawned => cases alive : socket.innerAlive <;> exact Or.inl (by simp [ReadLoop.unpublished])
  | started => exact Or.inl rfl
  | took => exact Or.inl rfl
  | noticed => exact Or.inl rfl
  | forwarded => exact Or.inl rfl
  | left =>
      cases alive : socket.innerAlive with
      | true => exact Or.inl rfl
      | false => exact Or.inr (Or.inr rfl)
  | reconnecting => exact Or.inr (Or.inl rfl)
  | ended => exact Or.inr (Or.inl rfl)

theorem FlagFollows.of_replaces (follows : FlagFollows socket)
    (replaces : Replaces socket after index connection replaced)
    (newest : index + 1 = socket.connections.length -> replaced.readLoop.unpublished = true ∨
      after.disconnect.value = true ∨ after.innerAlive = false)
    (others : index + 1 ≠ socket.connections.length -> socket.disconnect.value = true ->
      after.disconnect.value = true)
    (dead : socket.innerAlive = false -> after.innerAlive = false) : FlagFollows after := by
  intro there found located last
  rw [replaces.length] at last
  rcases replaces.cases located with ⟨sameIndex, sameConnection⟩ | ⟨different, old⟩
  · rw [sameConnection]
    exact newest (sameIndex ▸ last)
  · exact (follows there found old last).imp_right
      (Or.imp (others fun same => different (by omega)) dead)

theorem FlagFollows.of_appended
    (connections : after.connections = socket.connections ++ [Connection.new]) :
    FlagFollows after := by
  intro there found located last
  rw [connections] at located last
  rcases getElem?_append_cases located with ⟨_, same⟩ | ⟨older, _⟩
  · exact Or.inl (by rw [same]; rfl)
  · rw [List.length_append, List.length_singleton] at last
    omega

theorem ConnectStep.flagFollows (effect : ConnectStep maxRetries socket action after)
    (follows : FlagFollows socket) : FlagFollows after := by
  have dead := (Step.connect effect).dead
  have frame := effect.frame
  have flag : socket.disconnect.value = true -> after.disconnect.value = true :=
    fun set => frame.disconnect ▸ set
  -- A read loop that reconnects has set the flag already.
  have reconnecting {index : Nat} {connection replaced : Connection} {call : ConnectCall}
      (replaces : Replaces socket after index connection replaced)
      (rests : connection.readLoop = .reconnecting call) : FlagFollows after := by
    refine follows.of_replaces replaces (fun last => Or.inr ?_) (fun _ => flag) dead
    rcases follows index connection replaces.present last with unpublished | published
    · rw [rests] at unpublished
      cases unpublished
    · exact published.imp flag dead
  cases effect.table with
  | same connections =>
      intro index connection present last
      rw [connections] at present last
      exact (follows index connection present last).imp_right (Or.imp flag dead)
  | spawned connections => exact .of_appended connections
  | retrying _ _ _ _ rests replaces => exact reconnecting replaces rests
  | gaveUp _ _ _ _ rests _ replaces => exact reconnecting replaces rests
  | succeeded index connection _ _ _ initiated =>
      exact @FlagFollows.of_appended
        (socket.setConnection index { connection with readLoop := .finished }) after
        (by rw [initiated]; rfl)

theorem Step.flagFollows (effect : Step maxRetries socket action after)
    (chain : SingleChain socket) (follows : FlagFollows socket) : FlagFollows after := by
  have dead := effect.dead
  cases effect with
  | user effect =>
      have frame := effect.frame
      intro index connection present last
      rw [frame.connections] at present last
      exact (follows index connection present last).imp_right
        (Or.imp (fun flag => frame.disconnect ▸ flag) dead)
  | connect effect => exact effect.flagFollows follows
  | readLoop present effect =>
      have replaces := effect.replaces present
      have newest := chain.newest present (unfinished_of_unpublished replaces.2.unpublished)
      exact follows.of_replaces replaces.1
        (fun _ => effect.published.imp_right (Or.imp_right dead))
        (fun older => absurd newest older) dead
  | writeLoop present effect =>
      have replaces := effect.replaces present
      have flag : socket.disconnect.value = true -> after.disconnect.value = true := by
        intro set
        rcases effect.disconnect with same | ⟨_, sent⟩
        · exact same ▸ set
        · rw [sent]; rfl
      refine follows.of_replaces replaces.1 (fun last => ?_) (fun _ => flag) dead
      rw [replaces.2.readLoop]
      exact (follows _ _ present last).imp_right (Or.imp flag dead)
  | keepAliveRead present =>
      exact follows.of_replaces (keepAlive_replaces present)
        (fun last => (follows _ _ present last).imp_right (Or.imp_right dead)) (fun _ => id) dead
  | keepAliveWrite present =>
      exact follows.of_replaces (keepAlive_replaces present)
        (fun last => (follows _ _ present last).imp_right (Or.imp_right dead)) (fun _ => id) dead

theorem flagFollows_of_reaches
    (reached : Reaches (step maxRetries) OneConnect build socket) : FlagFollows socket := by
  refine reached.invariant (fun index connection present => by cases present)
    fun before action after earlier follows _ taken => ?_
  exact (step_spec taken).flagFollows (singleChain_of_reaches earlier) follows

theorem Replaces.unpublished (replaces : Replaces socket after index connection replaced)
    (kept : replaced.readLoop.unpublished = true -> connection.readLoop.unpublished = true)
    (unpublished : HasUnpublished after) : HasUnpublished socket := by
  rcases unpublished with ⟨there, found, located, running⟩
  rcases replaces.cases located with ⟨_, same⟩ | ⟨_, old⟩
  · exact ⟨index, connection, replaces.present, kept (same ▸ running)⟩
  · exact ⟨there, found, old, running⟩

/-- A read loop that has published its end does not become unpublished: it
takes a new connection to bring a new one. -/
theorem Step.unpublished (effect : Step maxRetries socket action after)
    (unpublished : HasUnpublished after) :
    HasUnpublished socket ∨ socket.connections.length < after.connections.length := by
  have same (connections : after.connections = socket.connections) : HasUnpublished socket := by
    rcases unpublished with ⟨index, connection, present, running⟩
    exact ⟨index, connection, connections ▸ present, running⟩
  cases effect with
  | user effect => exact Or.inl (same effect.frame.connections)
  | connect effect =>
      cases effect.table with
      | same connections => exact Or.inl (same connections)
      | spawned connections =>
          exact Or.inr (by rw [connections, List.length_append]; exact Nat.lt_succ_self _)
      | retrying _ _ _ _ _ replaces =>
          exact Or.inl (replaces.unpublished (by simp [ReadLoop.unpublished]) unpublished)
      | gaveUp _ _ _ _ _ _ replaces =>
          exact Or.inl (replaces.unpublished (by simp [ReadLoop.unpublished]) unpublished)
      | succeeded index connection _ _ _ initiated =>
          refine Or.inr ?_
          rw [initiated]
          simp [ReconnectingWebSocket.initiated]
  | readLoop present effect =>
      have replaces := effect.replaces present
      exact Or.inl (replaces.1.unpublished (fun _ => replaces.2.unpublished) unpublished)
  | writeLoop present effect =>
      have replaces := effect.replaces present
      exact Or.inl (replaces.1.unpublished (fun own => replaces.2.readLoop ▸ own) unpublished)
  | keepAliveRead present =>
      refine Or.inl ((keepAlive_replaces present).unpublished ?_ unpublished)
      exact fun own => own
  | keepAliveWrite present =>
      refine Or.inl ((keepAlive_replaces present).unpublished ?_ unpublished)
      exact fun own => own

theorem published_of_reaches {allowed : ReconnectingWebSocket -> Action -> Prop}
    (onwards : Reaches (step maxRetries) allowed socket later)
    (published : ¬ HasUnpublished socket) :
    socket.connections.length ≤ later.connections.length ∧
      (later.connections.length = socket.connections.length -> ¬ HasUnpublished later) := by
  induction onwards with
  | refl => exact ⟨Nat.le_refl _, fun _ => published⟩
  | tail _ _ taken inductionHypothesis =>
      have effect := step_spec taken
      have grows := effect.connections
      refine ⟨inductionHypothesis.1.trans grows, fun same unpublished => ?_⟩
      rcases effect.unpublished unpublished with before | spawned
      · exact inductionHypothesis.2 (by omega) before
      · omega

/-- While `Inner` lives, no unpublished read loop means a set disconnect flag. -/
theorem isConnected_eq_false (follows : FlagFollows socket) (connected : socket.connections ≠ [])
    (alive : socket.innerAlive = true) (published : ¬ HasUnpublished socket) :
    socket.isConnected = false := by
  have some : 0 < socket.connections.length := List.length_pos_iff.mpr connected
  have present := List.getElem?_eq_getElem (Nat.sub_lt some Nat.one_pos)
  rcases follows _ _ present (Nat.sub_add_cancel some) with unpublished | flag | dead
  · exact absurd ⟨_, _, present, unpublished⟩ published
  · simp only [isConnected, flag, Bool.not_true, Bool.and_false]
  · rw [dead] at alive
    cases alive

/-- The health check does not lie: after one call of `connect` at most one
read loop is engaged, `is_connected` holds only while some read loop has not
published its end, and once none is left it stays false until there is a new
connection.  Whoever calls `is_connected` holds a handle, so `Inner` is alive. -/
theorem isConnected_follows_chain (maxRetries : Nat) (socket : ReconnectingWebSocket)
    (reached : Reaches (step maxRetries) OneConnect build socket)
    (connected : ConnectedOnce socket) :
    (forall (index there : Nat) (connection found : Connection),
      socket.connections[index]? = some connection -> socket.connections[there]? = some found ->
        Engaged connection.readLoop -> Engaged found.readLoop -> index = there) ∧
    (socket.innerAlive = true -> socket.isConnected = true -> HasUnpublished socket) ∧
    (¬ HasUnpublished socket -> forall later, Reaches (step maxRetries) OneConnect socket later ->
      later.connections.length = socket.connections.length -> later.innerAlive = true ->
        later.isConnected = false) := by
  have present := connections_of_connectedOnce reached connected
  refine ⟨?_, fun alive answer => ?_, fun published later onwards same alive => ?_⟩
  · intro index there connection found located elsewhere engaged engagedThere
    exact (singleChain_of_reaches reached).unique located engaged.unfinished elsewhere
      engagedThere.unfinished
  · by_contra published
    rw [isConnected_eq_false (flagFollows_of_reaches reached) present alive published] at answer
    cases answer
  · have kept := published_of_reaches onwards published
    refine isConnected_eq_false (flagFollows_of_reaches (reached.trans onwards)) ?_ alive
      (kept.2 same)
    exact List.length_pos_iff.mp (Nat.lt_of_lt_of_le (List.length_pos_iff.mpr present) kept.1)

/-- The state once the first read loop has started. -/
def justConnected : ReconnectingWebSocket :=
  { build with
    disconnect := ⟨false, 1⟩
    connections := [⟨.newWithPingTimeout, .selecting 0 0, .selecting 0 0⟩]
    log := [.connecting, .connected 0, .connectReturned (.ok ())] }

theorem isConnected_follows_chain_justConnected : HasUnpublished justConnected :=
  (isConnected_follows_chain 10 justConnected
    (reaches_of_run [.connect, .attempted (.user 0) (.ok ()), .readLoop 0, .readLoop 0] rfl)
    (by unfold ConnectedOnce; decide)).2.1 rfl rfl

end ReconnectingWebSocket
end WebSocket
end Fpd
