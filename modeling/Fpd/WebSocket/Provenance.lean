import Fpd.WebSocket.Receiving

namespace Fpd
namespace WebSocket
namespace ReconnectingWebSocket

open Async

/-!
# Where a received item comes from

Every item that a call of `recv` hands out was put into the shared channel by
a read loop and was yielded by the stream of its connection before any Close
frame.  So a property that all items before a Close frame have, on all streams,
is one of all received items.
-/

variable {socket after : ReconnectingWebSocket} {maxRetries : Nat} {action : Action}
  {kind : Item -> Prop}

/-- No Close frame has arrived on the connection. -/
def unclosed (index : Nat) (log : List Event) : Bool :=
  (arrived index log).all fun item => !item.isClose

/-- What a stream yields in this step is of the kind, or comes after a Close
frame. -/
def Yields (kind : Item -> Prop) (socket : ReconnectingWebSocket) (action : Action) : Prop :=
  forall index item, action = .keepAliveRead index (.ready (some item)) ->
    unclosed index socket.log = true -> kind item

/-- Everything that has arrived before a Close frame is of the kind. -/
def ArrivedAs (kind : Item -> Prop) (log : List Event) : Prop :=
  forall index item, item ∈ beforeClose index log -> kind item

theorem ArrivedAs.of_same {log later : List Event} (known : ArrivedAs kind log)
    (same : forall index, arrived index later = arrived index log) : ArrivedAs kind later := by
  intro index item member
  rw [beforeClose, same] at member
  exact known index item member

theorem keepAliveRead_arrivedAs {held : Bool} {stream : Poll (Option Item)} {index : Nat}
    {before ws : WebSocketKeepAlive} {events : List KeepAliveEvent}
    (effect : before.ReadStep held stream ws events)
    (yields : Yields kind socket (.keepAliveRead index stream))
    (known : ArrivedAs kind socket.log) :
    ArrivedAs kind (socket.log ++ events.map (.keepAlive index)) := by
  have silent (nothing : arrived index (events.map (.keepAlive index)) = []) :
      ArrivedAs kind (socket.log ++ events.map (.keepAlive index)) := by
    apply known.of_same
    intro there
    rw [arrived_append]
    by_cases here : there = index
    · rw [here, nothing, List.append_nil]
    · rw [arrived_keepAlive_there here, List.append_nil]
  cases effect with
  | swallowed found _ _ control =>
      exact silent (by simp [arrived, streamed, streamedItem, control])
  | received found _ _ data yielded =>
      intro there item member
      by_cases here : there = index
      · subst here
        have new : arrived there ([.streamed found].map (.keepAlive there)) = [found] := by
          simp [arrived, streamed, streamedItem, data]
        rw [beforeClose, arrived_append, new] at member
        rcases mem_takeWhile_concat member with old | ⟨same, free⟩
        · exact known there item old
        · exact same ▸ yields there found (by rw [yielded]) free
      · rw [beforeClose, arrived_append, arrived_keepAlive_there here, List.append_nil] at member
        exact known there item member
  | ended => exact silent rfl
  | _ => exact silent rfl

theorem Step.arrivedAs (effect : Step maxRetries socket action after)
    (watched : CloseWatched socket) (yields : Yields kind socket action)
    (known : ArrivedAs kind socket.log) : ArrivedAs kind after.log := by
  cases effect with
  | user effect =>
      rcases effect.still_or_delivers watched with still | ⟨item, delivers⟩
      · exact known.of_same still.arrived
      · exact known.of_same delivers.arrived
  | connect effect => exact known.of_same effect.still.arrived
  | readLoop present effect =>
      rcases effect.moves with still | ⟨item, log, _⟩
      · exact known.of_same still.arrived
      · apply known.of_same
        intro index
        rw [log, arrived_append]
        exact List.append_nil _
  | writeLoop present effect => exact known.of_same effect.still.arrived
  | keepAliveRead present effect => exact keepAliveRead_arrivedAs effect yields known
  | keepAliveWrite present effect =>
      apply known.of_same
      intro there
      rw [emit_log, arrived_append]
      cases effect <;> exact List.append_nil _

/-- Every item in the shared channel has been forwarded by some read loop. -/
def Forwarded (socket : ReconnectingWebSocket) : Prop :=
  forall item, item ∈ socket.incoming.queue ->
    Exists fun index => item ∈ forwardedFrom index socket.log

theorem Step.queueForwarded (effect : Step maxRetries socket action after)
    (watched : CloseWatched socket) (known : Forwarded socket) : Forwarded after := by
  -- What was forwarded stays in the log, so only a new item needs an origin.
  have old (item : Item) (member : item ∈ socket.incoming.queue) :
      Exists fun index => item ∈ forwardedFrom index after.log := by
    rcases known item member with ⟨index, origin⟩
    exact ⟨index, (effect.log.filterMap _).subset origin⟩
  intro item member
  cases effect with
  | user effect =>
      rcases effect.still_or_delivers watched with still | ⟨head, delivers⟩
      · exact old item (still.incoming ▸ member)
      · apply old
        rw [delivers.head]
        exact List.mem_cons_of_mem head member
  | connect effect => exact old item (effect.still.incoming ▸ member)
  | @readLoop index connection replaced after present effect =>
      rcases effect.moves with still | ⟨found, log, appended⟩
      · exact old item (still.incoming ▸ member)
      · rw [appended, List.mem_append, List.mem_singleton] at member
        rcases member with before | same
        · exact old item before
        · refine ⟨index, ?_⟩
          rw [same, log, forwardedFrom_append]
          exact List.mem_append_right _ (by simp [forwardedFrom, forwardedItem])
  | writeLoop present effect => exact old item (effect.still.incoming ▸ member)
  | keepAliveRead _ _ => exact old item member
  | keepAliveWrite _ _ => exact old item member

/-! ## In every run -/

theorem arrivedAs_of_reaches
    (reached : Reaches (step maxRetries) (Yields kind) build socket) :
    ArrivedAs kind socket.log := by
  apply reached.invariant
  · intro index item member
    cases member
  · intro before action after earlier known yields taken
    exact (step_spec taken).arrivedAs (closeWatched_of_reaches earlier) yields known

theorem forwarded_of_reaches {allowed : ReconnectingWebSocket -> Action -> Prop}
    (reached : Reaches (step maxRetries) allowed build socket) : Forwarded socket := by
  apply reached.invariant
  · intro item member
    cases member
  · intro before action after earlier known _ taken
    exact (step_spec taken).queueForwarded (closeWatched_of_reaches earlier) known

/-- Every item in the shared channel is of the kind of the streams' items. -/
theorem queued_kind (reached : Reaches (step maxRetries) (Yields kind) build socket)
    {item : Item} (queued : item ∈ socket.incoming.queue) : kind item := by
  rcases forwarded_of_reaches reached item queued with ⟨index, origin⟩
  apply arrivedAs_of_reaches reached index
  exact (forwardedFrom_beforeClose (pipelines_of_reaches reached) index).subset origin

/-- A call of `recv` that is polled borrows a handle, so `Inner` is alive. -/
theorem innerAlive_of_pollRecv {call : Nat} {answer : Poll (Option Item)}
    (watched : CloseWatched socket) (polled : socket.pollRecv call = some (after, answer)) :
    socket.innerAlive = true := by
  cases called : socket.recvs[call]? with
  | none => simp [pollRecv, called] at polled
  | some seen =>
      apply innerAlive_of_handle
      apply watched.borrowed
      exact Nat.lt_of_le_of_lt (Nat.zero_le call) (List.getElem?_eq_some_iff.mp called).1

/-- What `recv` returns: an item of the streams' kind that is no reset, or
`None` after `close`. -/
theorem pollRecv_ready (reached : Reaches (step maxRetries) (Yields kind) build socket)
    {call : Nat} {result : Option Item}
    (polled : socket.pollRecv call = some (after, .ready result)) :
    (Exists fun item => result = some item ∧ kind item ∧ item.isReset = false) ∨
      (result = none ∧ socket.close.value = true) := by
  have alive := innerAlive_of_pollRecv (closeWatched_of_reaches reached) polled
  cases pollRecv_step polled with
  | received item incoming head kept =>
      refine Or.inl ⟨item, rfl, queued_kind reached ?_, kept⟩
      rw [head]
      exact List.mem_cons_self
  | ended cause =>
      rcases cause with closed | gone
      · exact Or.inr ⟨rfl, closed⟩
      · rw [alive] at gone
        cases gone
  | failed closeSeen called gone =>
      rw [alive] at gone
      cases gone

/-- A set close flag stays set. -/
theorem closed_of_reaches {allowed : ReconnectingWebSocket -> Action -> Prop}
    (reached : Reaches (step maxRetries) allowed socket after) (flag : socket.close.value = true) :
    after.close.value = true := by
  apply reached.invariant
  · exact flag
  · intro before action next _ closed _ taken
    exact (step_spec taken).closed closed

end ReconnectingWebSocket
end WebSocket
end Fpd
