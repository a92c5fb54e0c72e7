import Fpd.WebSocket.Frames

namespace Fpd
namespace WebSocket
namespace ReconnectingWebSocket

open Async

/-!
# One call of `connect`, one chain of read loops

After a single call of `connect` the read loops form a chain.  The call spawns
the first one, and each later one is spawned by the reconnection of its
predecessor, which is over in the same step.  So only the newest read loop can
still run: the right to make the next connection passes down the chain like a
token.

With a single chain the disconnect flag is reset only by the newest read loop,
in its first step.  From the moment that loop has published its end the flag
is set, and `is_connected` answers `false` until the next read loop starts.
-/

variable {socket after : ReconnectingWebSocket} {maxRetries : Nat} {action : Action}

/-- The condition on a run that `connect` is called once. -/
def OneConnect (socket : ReconnectingWebSocket) (action : Action) : Prop :=
  action = .connect -> Event.connecting ∉ socket.log

instance : Decidable (OneConnect socket action) :=
  inferInstanceAs (Decidable (_ -> _))

/-- The call of `connect` has no connection yet, and of the connections only
the last may have a read loop that runs. -/
structure SingleChain (socket : ReconnectingWebSocket) : Prop where
  calls : socket.connects.length ≤ 1
  calling : socket.connects ≠ [] -> socket.connections = []
  uncalled : Event.connecting ∉ socket.log -> socket.connects = [] ∧ socket.connections = []
  finished : forall (index : Nat) (connection : Connection),
    socket.connections[index]? = some connection ->
      index + 1 < socket.connections.length -> connection.readLoop = .finished

namespace SingleChain

variable {index there : Nat} {connection replaced found : Connection}

/-- A read loop that is not finished belongs to the newest connection. -/
theorem newest (chain : SingleChain socket) (present : socket.connections[index]? = some connection)
    (unfinished : connection.readLoop ≠ .finished) : index + 1 = socket.connections.length := by
  have inside : index < socket.connections.length := (List.getElem?_eq_some_iff.mp present).1
  by_contra older
  exact unfinished (chain.finished index connection present (by omega))

/-- At most one read loop of the chain is not finished. -/
theorem unique (chain : SingleChain socket) (present : socket.connections[index]? = some connection)
    (unfinished : connection.readLoop ≠ .finished)
    (located : socket.connections[there]? = some found)
    (running : found.readLoop ≠ .finished) : index = there := by
  have first := chain.newest present unfinished
  have second := chain.newest located running
  omega

theorem of_same (chain : SingleChain socket) (connects : after.connects = socket.connects)
    (connections : after.connections = socket.connections)
    (log : Event.connecting ∉ after.log -> Event.connecting ∉ socket.log) : SingleChain after :=
  ⟨connects ▸ chain.calls, connects ▸ connections ▸ chain.calling,
    fun uncalled => connects ▸ connections ▸ chain.uncalled (log uncalled),
    connections ▸ chain.finished⟩

theorem of_replaces (chain : SingleChain socket)
    (replaces : Replaces socket after index connection replaced)
    (kept : connection.readLoop = .finished -> replaced.readLoop = .finished) :
    SingleChain after := by
  have connected : socket.connections ≠ [] := by
    intro none
    have located := replaces.present
    rw [none] at located
    cases located
  refine ⟨replaces.connects ▸ chain.calls, fun calling => ?_, fun uncalled => ?_, ?_⟩
  · exact absurd (chain.calling (replaces.connects ▸ calling)) connected
  · exact absurd (chain.uncalled fun member => uncalled (replaces.log.subset member)).2 connected
  · intro there found located older
    rw [replaces.length] at older
    rcases replaces.cases located with ⟨sameIndex, sameConnection⟩ | ⟨_, old⟩
    · rw [sameConnection]
      exact kept (chain.finished index connection replaces.present (sameIndex ▸ older))
    · exact chain.finished there found old older

/-- A new connection joins the chain when every older read loop is finished. -/
theorem of_appended (connects : after.connects = [])
    (connections : after.connections = socket.connections ++ [Connection.new])
    (log : Event.connecting ∈ after.log)
    (finished : forall (index : Nat) (connection : Connection),
      socket.connections[index]? = some connection -> connection.readLoop = .finished) :
    SingleChain after := by
  refine ⟨by rw [connects]; exact Nat.zero_le 1, fun calling => absurd connects calling,
    fun uncalled => absurd log uncalled, fun there found located older => ?_⟩
  rw [connections] at located older
  rcases getElem?_append_cases located with ⟨sameIndex, _⟩ | ⟨_, old⟩
  · rw [List.length_append, List.length_singleton, sameIndex] at older
    omega
  · exact finished there found old

theorem connecting (chain : SingleChain socket)
    (begun : socket.connects ≠ [] ∨ socket.connections ≠ []) :
    Event.connecting ∈ socket.log := by
  by_contra uncalled
  rcases chain.uncalled uncalled with ⟨noCall, noConnection⟩
  rcases begun with calling | connected
  · exact calling noCall
  · exact connected noConnection

end SingleChain

private theorem ne_nil_of_getElem? {Value : Type*} {list : List Value} {index : Nat} {value : Value}
    (present : list[index]? = some value) : list ≠ [] :=
  fun none => by rw [none] at present; cases present

theorem ConnectStep.singleChain (effect : ConnectStep maxRetries socket action after)
    (once : OneConnect socket action) (chain : SingleChain socket) : SingleChain after := by
  have short (call : Nat) : (socket.connects.eraseIdx call).length ≤ 1 :=
    Nat.le_trans (List.length_eraseIdx_le _ _) chain.calls
  have erased {call : Nat} (calling : socket.connects.eraseIdx call ≠ []) : socket.connects ≠ [] :=
    fun none => calling (by rw [none]; rfl)
  cases effect with
  | called handle =>
      have uncalled := chain.uncalled (once rfl)
      refine ⟨by simp [uncalled.1], fun _ => uncalled.2, fun silent => ?_, chain.finished⟩
      exact absurd (List.mem_append_right _ List.mem_cons_self) silent
  | cancelled call =>
      exact ⟨short call, fun calling => chain.calling (erased calling),
        fun uncalled => ⟨by simp [(chain.uncalled uncalled).1], (chain.uncalled uncalled).2⟩,
        chain.finished⟩
  | userConnected call attempt called =>
      have calling := ne_nil_of_getElem? called
      have unconnected := chain.calling calling
      have alone : socket.connects.eraseIdx call = [] := by
        have inside := (List.getElem?_eq_some_iff.mp called).1
        have bound := chain.calls
        apply List.eq_nil_of_length_eq_zero
        rw [List.length_eraseIdx_of_lt inside]
        omega
      refine @SingleChain.of_appended socket _ alone rfl
        (List.mem_append_left _ (List.mem_append_left _ (chain.connecting (Or.inl calling)))) ?_
      intro index connection present
      rw [unconnected] at present
      cases present
  | userFailed call attempt error called =>
      refine ⟨short call, fun calling => chain.calling (erased calling), fun uncalled => ?_,
        chain.finished⟩
      have begun := chain.connecting (Or.inl (ne_nil_of_getElem? called))
      exact absurd (List.mem_append_left _ begun) uncalled
  | userWaits call attempt error called =>
      have calling := ne_nil_of_getElem? called
      exact ⟨(Nat.le_of_eq List.length_set).trans chain.calls, fun _ => chain.calling calling,
        fun uncalled => absurd (chain.connecting (Or.inl calling)) uncalled, chain.finished⟩
  | userWoken call attempt called =>
      have calling := ne_nil_of_getElem? called
      exact ⟨(Nat.le_of_eq List.length_set).trans chain.calls, fun _ => chain.calling calling,
        fun uncalled => absurd (List.mem_append_right _ List.mem_cons_self) uncalled,
        chain.finished⟩
  | reconnected index attempt connection present rests =>
      have newest := chain.newest present (by rw [rests]; exact ReadLoop.noConfusion)
      have connected := ne_nil_of_getElem? present
      have uncalled : socket.connects = [] := by
        by_contra calling
        exact connected (chain.calling calling)
      refine @SingleChain.of_appended
        (socket.setConnection index { connection with readLoop := .finished }) _ uncalled rfl
        (List.mem_append_left _ (chain.connecting (Or.inr connected))) ?_
      intro there found located
      rcases getElem?_set_cases located with ⟨_, same⟩ | ⟨different, old⟩
      · rw [same]
      · have inside := (List.getElem?_eq_some_iff.mp old).1
        exact chain.finished there found old (by omega)
  | gaveUp index attempt connection error present rests =>
      exact chain.of_replaces (replaces_reconnecting present rests _) fun _ => rfl
  | waits index attempt connection error present rests =>
      refine chain.of_replaces (replaces_reconnecting present rests _) fun finished => ?_
      rw [rests] at finished
      cases finished
  | woken index attempt connection present rests =>
      refine chain.of_replaces ((replaces_reconnecting present rests _).emit _) fun finished => ?_
      rw [rests] at finished
      cases finished

theorem Step.singleChain (effect : Step maxRetries socket action after)
    (once : OneConnect socket action) (chain : SingleChain socket) : SingleChain after := by
  cases effect with
  | user effect =>
      have frame := effect.frame
      exact chain.of_same frame.connects frame.connections
        fun uncalled member => uncalled (frame.log.subset member)
  | connect effect => exact effect.singleChain once chain
  | readLoop present effect =>
      have replaces := effect.replaces present
      exact chain.of_replaces replaces.1 fun finished =>
        absurd finished (unfinished_of_unpublished replaces.2.unpublished)
  | writeLoop present effect =>
      have replaces := effect.replaces present
      exact chain.of_replaces replaces.1 fun finished => replaces.2.readLoop.trans finished
  | keepAliveRead present => exact chain.of_replaces (keepAlive_replaces present) id
  | keepAliveWrite present => exact chain.of_replaces (keepAlive_replaces present) id

theorem singleChain_of_reaches
    (reached : Reaches (step maxRetries) OneConnect build socket) : SingleChain socket := by
  refine reached.invariant ⟨Nat.zero_le 1, fun _ => rfl, fun _ => ⟨rfl, rfl⟩, ?_⟩
    fun before action after _ chain once taken => (step_spec taken).singleChain once chain
  exact fun index connection present => by cases present

end ReconnectingWebSocket
end WebSocket
end Fpd
