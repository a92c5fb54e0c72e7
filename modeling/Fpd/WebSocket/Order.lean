import Fpd.Async.Traffic
import Fpd.WebSocket.Ledger

namespace Fpd
namespace WebSocket

open Async

/-!
# The order of outgoing messages

A write loop polls the retry channel before the outgoing channel, so that a
message that a failed connection gave back goes out before the later ones.
This keeps the order as long as the message is back in time.  An old write loop
may still hold it, or an old keepalive still write it, when the write loop of
the next connection takes a later message.

The law holds on the runs where a write loop takes a message only when no other
connection has one under way.
-/

/-- The queue of a write task that has seen the disconnect flag as it is. -/
def WebSocketKeepAlive.unread (ws : WebSocketKeepAlive) (seen : Nat) : List Message :=
  if ws.disconnect.version ≤ seen then ws.outgoing.queue else []

/-- The messages that the write task may still write, in that order.  It leaves
its loop before it takes another one once the disconnect flag has changed. -/
def WebSocketKeepAlive.unwritten (ws : WebSocketKeepAlive) : List Message :=
  match ws.writeTask with
  | .selecting seen => ws.unread seen
  | .sending message seen => message :: ws.unread seen
  | .pinging seen => ws.unread seen
  | _ => []

/-- The messages with which a connection may still come to a sink. -/
def Connection.underWay (connection : Connection) : List Message :=
  connection.ws.unwritten ++ connection.writeLoop.hand

namespace ReconnectingWebSocket

/-- The messages in the order in which `send` accepted them. -/
def acceptedInOrder (log : List Event) : List Message :=
  log.filterMap fun
    | .accepted message => some message
    | _ => none

/-- The messages in the order in which they were written to the sinks of all
connections. -/
def writtenInOrder (log : List Event) : List Message :=
  log.filterMap fun
    | .keepAlive _ (.written message) => some message
    | _ => none

/-- What was written was accepted in the same order. -/
def WritesInOrder (socket : ReconnectingWebSocket) : Prop :=
  (writtenInOrder socket.log).Sublist (acceptedInOrder socket.log)

instance {socket : ReconnectingWebSocket} : Decidable (WritesInOrder socket) :=
  inferInstanceAs (Decidable (List.Sublist _ _))

/-- The client awaits each `send` before the next. -/
def AwaitsSend (socket : ReconnectingWebSocket) : Action -> Prop
  | .send _ => socket.sends = []
  | _ => True

instance {socket : ReconnectingWebSocket} {action : Action} :
    Decidable (AwaitsSend socket action) := by
  cases action <;> first | exact inferInstanceAs (Decidable (_ = _)) | exact .isTrue trivial

/-- A write loop takes a message while another connection has one under way. -/
def overtakes (socket : ReconnectingWebSocket) : Action -> Bool
  | .writeLoop index =>
      match socket.connections[index]? with
      | some connection =>
          match connection.writeLoop with
          | .selecting _ _ =>
              (!socket.retry.queue.isEmpty || !socket.outgoing.queue.isEmpty) &&
                (socket.connections.eraseIdx index).any fun other => !other.underWay.isEmpty
          | _ => false
      | none => false
  | _ => false

def TakesInTurn (socket : ReconnectingWebSocket) (action : Action) : Prop :=
  overtakes socket action = false

instance {socket : ReconnectingWebSocket} {action : Action} :
    Decidable (TakesInTurn socket action) :=
  inferInstanceAs (Decidable (_ = _))

variable {socket after : ReconnectingWebSocket} {maxRetries : Nat} {action : Action}
  {index : Nat} {connection replaced : Connection}

/-- One connection at most has messages under way, and none of them is behind
the retry channel.  Messages stand in one line: those written, those under
way, the one to be retried, the one just accepted. -/
structure Lined (socket : ReconnectingWebSocket) : Prop where
  alone : forall (here there : Nat) (connection found : Connection),
    socket.connections[here]? = some connection -> socket.connections[there]? = some found ->
      connection.underWay ≠ [] -> found.underWay ≠ [] -> here = there
  first : forall (index : Nat) (connection : Connection),
    socket.connections[index]? = some connection -> connection.writeLoop.hand ≠ [] ->
      socket.retry.queue = []
  ordered : (writtenInOrder socket.log ++ (socket.connections.map Connection.underWay).flatten ++
    socket.retry.queue ++ socket.outgoing.queue).Sublist (acceptedInOrder socket.log)

/-- What lies outside the connections is as before. -/
structure Unmoved (socket after : ReconnectingWebSocket) : Prop where
  retry : after.retry = socket.retry
  outgoing : after.outgoing = socket.outgoing
  written : writtenInOrder after.log = writtenInOrder socket.log
  accepted : acceptedInOrder after.log = acceptedInOrder socket.log

namespace Lined

theorem of_same (lined : Lined socket) (connections : after.connections = socket.connections)
    (unmoved : Unmoved socket after) : Lined after := by
  constructor
  · rw [connections]
    exact lined.alone
  · rw [connections, unmoved.retry]
    exact lined.first
  · rw [connections, unmoved.retry, unmoved.outgoing, unmoved.written, unmoved.accepted]
    exact lined.ordered

theorem of_appended (lined : Lined socket)
    (connections : after.connections = socket.connections ++ [Connection.new])
    (unmoved : Unmoved socket after) : Lined after := by
  constructor
  · intro here there connection found located elsewhere moves moving
    rw [connections] at located elsewhere
    rcases getElem?_append_cases located with ⟨_, same⟩ | ⟨_, old⟩
    · exact absurd (same ▸ rfl) moves
    · rcases getElem?_append_cases elsewhere with ⟨_, same⟩ | ⟨_, other⟩
      · exact absurd (same ▸ rfl) moving
      · exact lined.alone here there connection found old other moves moving
  · intro there found located holds
    rw [connections] at located
    rcases getElem?_append_cases located with ⟨_, same⟩ | ⟨_, old⟩
    · exact absurd (same ▸ rfl) holds
    · exact unmoved.retry ▸ lined.first there found old holds
  · have nothing : Connection.new.underWay = [] := rfl
    rw [connections, List.map_append, List.map_singleton, nothing, List.flatten_append,
      List.flatten_singleton, List.append_nil, unmoved.retry, unmoved.outgoing, unmoved.written,
      unmoved.accepted]
    exact lined.ordered

theorem others (lined : Lined socket) (present : socket.connections[index]? = some connection)
    (moves : connection.underWay ≠ []) (there : Nat) (found : Connection) (different : there ≠ index)
    (located : socket.connections[there]? = some found) : found.underWay = [] := by
  by_contra moving
  exact different (lined.alone there index found connection located present moving moves)

theorem ne_nil_of_sublist {fewer more : List Message} (kept : fewer.Sublist more)
    (some : fewer ≠ []) : more ≠ [] :=
  fun none => some (List.sublist_nil.mp (none ▸ kept))

/-- A task keeps the line when it takes up nothing, even if it drops a message. -/
theorem of_replaces (lined : Lined socket)
    (replaces : Replaces socket after index connection replaced)
    (kept : replaced.underWay.Sublist connection.underWay)
    (hand : replaced.writeLoop.hand ≠ [] -> connection.writeLoop.hand ≠ [])
    (unmoved : Unmoved socket after) : Lined after := by
  -- A connection with something under way had something under way before.
  have before {there : Nat} {found : Connection}
      (located : after.connections[there]? = some found) (moves : found.underWay ≠ []) :
      Exists fun old : Connection => socket.connections[there]? = some old ∧ old.underWay ≠ [] := by
    rcases replaces.cases located with ⟨here, same⟩ | ⟨_, old⟩
    · subst here same
      exact ⟨connection, replaces.present, ne_nil_of_sublist kept moves⟩
    · exact ⟨found, old, moves⟩
  constructor
  · intro here there connection found located elsewhere moves moving
    rcases before located moves with ⟨one, oneThere, oneMoves⟩
    rcases before elsewhere moving with ⟨other, otherThere, otherMoves⟩
    exact lined.alone here there one other oneThere otherThere oneMoves otherMoves
  · intro there found located holds
    rw [unmoved.retry]
    rcases replaces.cases located with ⟨here, same⟩ | ⟨_, old⟩
    · subst here same
      exact lined.first there connection replaces.present (hand holds)
    · exact lined.first there found old holds
  · rw [replaces.connections, unmoved.retry, unmoved.outgoing, unmoved.written, unmoved.accepted]
    apply List.Sublist.trans _ lined.ordered
    exact (((List.Sublist.refl _).append (flatten_map_set_sublist replaces.present kept)).append
      (List.Sublist.refl _)).append (List.Sublist.refl _)

/-- Where no other connection has a message under way, the line is the one of
this connection. -/
theorem of_alone (lined : Lined socket)
    (replaces : Replaces socket after index connection replaced)
    (others : forall there found, there ≠ index -> socket.connections[there]? = some found ->
      found.underWay = [])
    (first : replaced.writeLoop.hand ≠ [] -> after.retry.queue = [])
    (same : writtenInOrder after.log ++ replaced.underWay ++ after.retry.queue ++
        after.outgoing.queue =
      writtenInOrder socket.log ++ connection.underWay ++ socket.retry.queue ++
        socket.outgoing.queue)
    (accepted : acceptedInOrder after.log = acceptedInOrder socket.log) : Lined after := by
  have othersAfter (there : Nat) (found : Connection) (different : there ≠ index)
      (located : after.connections[there]? = some found) : found.underWay = [] := by
    rcases replaces.cases located with ⟨here, _⟩ | ⟨_, old⟩
    · exact absurd here different
    · exact others there found different old
  constructor
  · intro here there connection found located elsewhere moves moving
    have one : here = index := by
      by_contra different
      exact moves (othersAfter here connection different located)
    have other : there = index := by
      by_contra different
      exact moving (othersAfter there found different elsewhere)
    exact one.trans other.symm
  · intro there found located holds
    rcases replaces.cases located with ⟨_, same⟩ | ⟨different, old⟩
    · exact first (same ▸ holds)
    · have nothing := others there found different old
      exact absurd (List.append_eq_nil_iff.mp nothing).2 holds
  · have ordered := lined.ordered
    rw [flatten_map_of_alone replaces.present others] at ordered
    rw [flatten_map_of_alone replaces.located othersAfter, same, accepted]
    exact ordered

end Lined

/-! ## What one step does to the line -/

theorem unread_sublist {ws : WebSocketKeepAlive} {disconnect : Watch Bool} {seen : Nat}
    (later : ws.disconnect.version ≤ disconnect.version) :
    ({ ws with disconnect := disconnect }.unread seen).Sublist (ws.unread seen) := by
  unfold WebSocketKeepAlive.unread
  by_cases current : disconnect.version ≤ seen
  · rw [if_pos current, if_pos (later.trans current)]
  · rw [if_neg current]
    exact List.nil_sublist _

/-- The read task drops what is queued when it sets the disconnect flag. -/
theorem unwritten_sublist_of_read {ws after : WebSocketKeepAlive} {held : Bool}
    {stream : Poll (Option Item)} {events : List KeepAliveEvent}
    (effect : ws.ReadStep held stream after events) : after.unwritten.Sublist ws.unwritten := by
  cases effect with
  | published rests =>
      have later : ws.disconnect.version ≤ (ws.disconnect.sendReplace true).version :=
        Nat.le_succ _
      unfold WebSocketKeepAlive.unwritten
      cases ws.writeTask with
      | selecting seen => exact unread_sublist later
      | sending message seen => exact (unread_sublist later).cons_cons message
      | pinging seen => exact unread_sublist later
      | cleaningUp => exact List.nil_sublist _
      | closing => exact List.nil_sublist _
      | finished => exact List.nil_sublist _
  | _ => exact List.Sublist.refl _

/-- The write task writes the first of the messages that it may write, or it
drops some. -/
theorem unwritten_of_write {ws after : WebSocketKeepAlive} {held : Bool}
    {sink : Poll (Except Error Unit)} {events : List KeepAliveEvent}
    (effect : ws.WriteStep held sink after events) :
    (after.unwritten.Sublist ws.unwritten ∧ forall message, .written message ∉ events) ∨
      Exists fun message => ws.unwritten = message :: after.unwritten ∧
        events = [.written message] := by
  cases effect with
  | took message seen outgoing rests taken unchanged =>
      have same : ws.unwritten = message :: outgoing.queue := by
        simp only [WebSocketKeepAlive.unwritten, WebSocketKeepAlive.unread, rests, unchanged,
          le_refl, if_true, taken]
      refine Or.inl ⟨?_, by simp⟩
      rw [same]
      simp only [WebSocketKeepAlive.unwritten, WebSocketKeepAlive.unread, unchanged, le_refl,
        if_true]
      exact List.Sublist.refl _
  | wrote message seen rests =>
      refine Or.inr ⟨message, ?_, rfl⟩
      simp only [WebSocketKeepAlive.unwritten, rests, WebSocketKeepAlive.unread]
  | pinging seen rests =>
      refine Or.inl ⟨?_, by simp⟩
      simp only [WebSocketKeepAlive.unwritten, rests, WebSocketKeepAlive.unread]
      exact List.Sublist.refl _
  | pinged seen rests =>
      refine Or.inl ⟨?_, by simp⟩
      simp only [WebSocketKeepAlive.unwritten, rests, WebSocketKeepAlive.unread]
      exact List.Sublist.refl _
  | _ => exact Or.inl ⟨List.nil_sublist _, by simp⟩

theorem unread_append_sublist {ws : WebSocketKeepAlive} {outgoing : Channel Message 1}
    {message : Message} {seen : Nat} (appended : outgoing.queue = ws.outgoing.queue ++ [message]) :
    ({ ws with outgoing := outgoing }.unread seen).Sublist (ws.unread seen ++ [message]) := by
  unfold WebSocketKeepAlive.unread
  by_cases current : ws.disconnect.version ≤ seen
  · rw [if_pos current, if_pos current, appended]
  · rw [if_neg current, if_neg current]
    exact List.nil_sublist _

/-- A message that the write loop hands over comes last in the keepalive, or it
comes too late. -/
theorem unwritten_append_sublist {ws : WebSocketKeepAlive} {outgoing : Channel Message 1}
    {message : Message} (appended : outgoing.queue = ws.outgoing.queue ++ [message]) :
    ({ ws with outgoing := outgoing }.unwritten).Sublist (ws.unwritten ++ [message]) := by
  unfold WebSocketKeepAlive.unwritten
  cases ws.writeTask with
  | selecting seen => exact unread_append_sublist appended
  | sending head seen => exact (unread_append_sublist appended).cons_cons head
  | pinging seen => exact unread_append_sublist appended
  | cleaningUp => exact List.nil_sublist _
  | closing => exact List.nil_sublist _
  | finished => exact List.nil_sublist _

/-- A write loop that takes a message in turn is alone with it. -/
theorem others_of_takesInTurn {disconnectSeen closeSeen : Nat}
    (inTurn : overtakes socket (.writeLoop index) = false)
    (present : socket.connections[index]? = some connection)
    (rests : connection.writeLoop = .selecting disconnectSeen closeSeen)
    (waiting : socket.retry.queue ≠ [] ∨ socket.outgoing.queue ≠ []) :
    forall there found, there ≠ index -> socket.connections[there]? = some found ->
      found.underWay = [] := by
  intro there found different located
  have nonempty : (!socket.retry.queue.isEmpty || !socket.outgoing.queue.isEmpty) = true := by
    simpa [List.isEmpty_iff] using waiting
  simp only [overtakes, present, rests, nonempty, Bool.true_and, List.any_eq_false,
    Bool.not_eq_true', Bool.not_eq_false, List.isEmpty_iff] at inTurn
  exact inTurn found (List.mem_eraseIdx_iff_getElem?.mpr ⟨there, different, located⟩)

theorem WriteLoopStep.lined (effect : WriteLoopStep socket index connection replaced after)
    (present : socket.connections[index]? = some connection)
    (inTurn : overtakes socket (.writeLoop index) = false) (lined : Lined socket) :
    Lined after := by
  have replaces := (effect.replaces present).1
  -- A loop that takes up nothing and gives nothing back.
  have keeps (unmoved : Unmoved socket after)
      (kept : replaced.underWay.Sublist connection.underWay)
      (hand : replaced.writeLoop.hand ≠ [] -> connection.writeLoop.hand ≠ []) : Lined after :=
    lined.of_replaces replaces kept hand unmoved
  cases effect with
  | retried message retry disconnectSeen closeSeen rests taken =>
      have bounded := socket.retry.bounded
      rw [taken, List.length_cons] at bounded
      have last : retry.queue = [] := List.length_eq_zero_iff.mp (by omega)
      have others := others_of_takesInTurn inTurn present rests
        (Or.inl (by rw [taken]; exact List.cons_ne_nil _ _))
      refine lined.of_alone replaces others (fun _ => last) ?_ rfl
      simp [Connection.underWay, rests, taken, WriteLoop.hand, setConnection]
  | took message outgoing disconnectSeen closeSeen rests noRetry taken =>
      have others := others_of_takesInTurn inTurn present rests
        (Or.inr (by rw [taken]; exact List.cons_ne_nil _ _))
      refine lined.of_alone replaces others (fun _ => noRetry) ?_ rfl
      simp [Connection.underWay, rests, taken, noRetry, WriteLoop.hand, setConnection]
  | requeued message retry rests appended =>
      have holds : connection.underWay ≠ [] := by
        simp [Connection.underWay, rests, WriteLoop.hand]
      have others := lined.others present holds
      have noRetry := lined.first index connection present (by simp [rests, WriteLoop.hand])
      refine lined.of_alone replaces others ?_ ?_ rfl
      · intro hand
        cases alive : socket.innerAlive <;> simp [alive, WriteLoop.hand] at hand
      · cases alive : socket.innerAlive <;>
          simp [Connection.underWay, rests, appended, noRetry, WriteLoop.hand, leaveWriteLoop]
  | sent message outgoing disconnectSeen closeSeen rests running appended =>
      refine keeps ⟨rfl, rfl, rfl, rfl⟩ ?_ fun hand => absurd rfl hand
      simp only [Connection.underWay, rests, WriteLoop.hand, List.append_nil]
      exact unwritten_append_sublist appended
  | refused message disconnectSeen closeSeen rests =>
      refine keeps ⟨rfl, rfl, rfl, rfl⟩ ?_ fun _ => ?_
      · simp only [Connection.underWay, rests, WriteLoop.hand]
        exact List.Sublist.refl _
      · simp only [rests, WriteLoop.hand, ne_eq, List.cons_ne_self, not_false_eq_true]
  | noticed disconnectSeen closeSeen disconnectNow closeNow rests =>
      refine keeps ⟨rfl, rfl, rfl, rfl⟩ ?_ fun hand => absurd rfl hand
      simp only [Connection.underWay, rests, WriteLoop.hand]
      exact List.Sublist.refl _
  | left disconnectSeen closeSeen rests =>
      have empty : WriteLoop.hand (if socket.innerAlive then .publishing else .finished) = [] := by
        cases socket.innerAlive <;> rfl
      refine keeps ⟨rfl, rfl, rfl, rfl⟩ ?_ fun hand => absurd empty hand
      simp only [Connection.underWay, rests, empty]
      exact List.Sublist.refl _
  | published rests =>
      refine keeps ⟨rfl, rfl, rfl, rfl⟩ ?_ fun hand => absurd rfl hand
      simp only [Connection.underWay, rests, WriteLoop.hand]
      exact List.Sublist.refl _

theorem ReadLoopStep.unmoved (effect : ReadLoopStep socket index connection replaced after) :
    Unmoved socket after := by
  constructor <;> cases effect <;>
    simp [leaveReadLoop, writtenInOrder, acceptedInOrder]

/-- A read loop does not touch what its keepalive is to write. -/
theorem ReadLoopStep.underWay (effect : ReadLoopStep socket index connection replaced after) :
    replaced.underWay = connection.underWay := by
  cases effect with
  | left ws shouldReconnect exit => cases exit <;> rfl
  | _ => rfl

/-- A keepalive task that writes no message settles nothing. -/
theorem unmoved_keepAlive {ws : WebSocketKeepAlive} {events : List KeepAliveEvent}
    (silent : forall message, .written message ∉ events) :
    Unmoved socket ((socket.setConnection index { connection with ws := ws }).emit
      (events.map (.keepAlive index))) := by
  have none : writtenInOrder (events.map (.keepAlive index)) = [] := by
    simp only [writtenInOrder, List.filterMap_eq_nil_iff, List.mem_map]
    rintro _ ⟨event, member, rfl⟩
    cases event with
    | written message => exact absurd member (silent message)
    | _ => rfl
  constructor
  · rfl
  · rfl
  · simp only [writtenInOrder, emit_log, setConnection_log, List.filterMap_append] at none ⊢
    rw [none, List.append_nil]
  · simp [acceptedInOrder]

theorem ConnectStep.unmoved (effect : ConnectStep maxRetries socket action after) :
    Unmoved socket after := by
  constructor <;> cases effect <;>
    simp [initiated, writtenInOrder, acceptedInOrder]

theorem UserStep.lined (effect : UserStep socket action after) (lined : Lined socket) :
    Lined after := by
  have connections := effect.frame.connections
  cases effect with
  | accepted call message outgoing called appended =>
      have later := lined.ordered.append (List.Sublist.refl [message])
      constructor
      · exact lined.alone
      · exact lined.first
      · simpa [writtenInOrder, acceptedInOrder, appended] using later
  | _ =>
      refine lined.of_same connections ⟨?_, ?_, ?_, ?_⟩ <;>
        simp [endRecv, writtenInOrder, acceptedInOrder]

theorem Step.lined (effect : Step maxRetries socket action after)
    (inTurn : TakesInTurn socket action) (lined : Lined socket) : Lined after := by
  cases effect with
  | user effect => exact effect.lined lined
  | connect effect =>
      have unmoved := effect.unmoved
      cases effect.table with
      | same connections => exact lined.of_same connections unmoved
      | spawned connections => exact lined.of_appended connections unmoved
      | retrying _ _ _ _ _ replaces =>
          exact lined.of_replaces replaces (List.Sublist.refl _) id unmoved
      | gaveUp _ _ _ _ _ _ replaces =>
          exact lined.of_replaces replaces (List.Sublist.refl _) id unmoved
      | succeeded index connection _ _ replaces initiated =>
          subst initiated
          have untouched := lined.of_replaces replaces (List.Sublist.refl _) id ⟨rfl, rfl, rfl, rfl⟩
          exact untouched.of_appended rfl ⟨rfl, rfl, unmoved.written, unmoved.accepted⟩
  | readLoop present effect =>
      have replaces := effect.replaces present
      have hand := replaces.2.writeLoop
      exact lined.of_replaces replaces.1 (effect.underWay ▸ List.Sublist.refl _)
        (fun holds => hand ▸ holds) effect.unmoved
  | writeLoop present effect => exact effect.lined present inTurn lined
  | keepAliveRead present effect =>
      exact lined.of_replaces (keepAlive_replaces present)
        ((unwritten_sublist_of_read effect).append (List.Sublist.refl _)) id
        (unmoved_keepAlive fun message => by cases effect <;> simp)
  | keepAliveWrite present effect =>
      rcases unwritten_of_write effect with ⟨kept, silent⟩ | ⟨message, head, same⟩
      · exact lined.of_replaces (keepAlive_replaces present)
          (kept.append (List.Sublist.refl _)) id (unmoved_keepAlive silent)
      · subst same
        have others := lined.others present (by simp [Connection.underWay, head])
        refine lined.of_alone (keepAlive_replaces present) others
          (fun hand => lined.first _ _ present hand) ?_ ?_
        · simp [Connection.underWay, head, writtenInOrder]
        · simp [acceptedInOrder]

/-! ## The law and where it fails -/

/-- On a run where messages are taken in turn, what is written to the sinks
was accepted in that order.  Two messages that were accepted once stand in the
order in which they were accepted. -/
theorem written_in_order (maxRetries : Nat) (socket : ReconnectingWebSocket)
    (reached : Reaches (step maxRetries) TakesInTurn build socket) :
    WritesInOrder socket ∧ ((acceptedInOrder socket.log).Nodup -> forall first second,
      [first, second].Sublist (acceptedInOrder socket.log) ->
        first ∈ writtenInOrder socket.log -> second ∈ writtenInOrder socket.log ->
          [first, second].Sublist (writtenInOrder socket.log)) := by
  have initially : Lined build := by
    constructor
    · intro here _ connection _ present
      cases present
    · intro index connection present
      cases present
    · exact List.Sublist.refl _
  have lined : Lined socket := reached.invariant initially
    fun _ _ _ _ lined inTurn taken => (step_spec taken).lined inTurn lined
  have ordered : WritesInOrder socket := by
    apply List.Sublist.trans _ lined.ordered
    rw [List.append_assoc, List.append_assoc]
    exact List.sublist_append_left _ _
  exact ⟨ordered, fun once first second before sawFirst sawSecond =>
    pair_sublist_of_sublist ordered once before sawFirst sawSecond⟩

/-- The first connection is held up by its sink when its stream ends: one
message is being written, one waits in the keepalive and the third in the hands
of the write loop.  The next connection is made and writes the fourth, and only
then the old write fails and the third message is handed back. -/
def handedBackLateRun : List Action :=
  [.connect, .attempted (.user 0) (.ok ()), .readLoop 0, .readLoop 0,
    .send (.text "1"), .pollSend 0, .writeLoop 0, .writeLoop 0, .keepAliveWrite 0 false .pending,
    .send (.text "2"), .pollSend 0, .writeLoop 0, .writeLoop 0,
    .send (.text "3"), .pollSend 0, .writeLoop 0,
    .keepAliveRead 0 (.ready none), .keepAliveRead 0 .pending, .readLoop 0, .readLoop 0,
    .attempted (.readLoop 0) (.ok ()), .readLoop 1, .readLoop 1,
    .send (.text "4"), .pollSend 0, .writeLoop 1, .writeLoop 1, .keepAliveWrite 1 false .pending,
    .keepAliveWrite 1 false (.ready (.ok ())),
    .keepAliveWrite 0 false (.ready (.error .connectionClosed)), .keepAliveWrite 0 false .pending,
    .keepAliveWrite 0 false (.ready (.ok ())), .writeLoop 0, .writeLoop 0,
    .writeLoop 1, .writeLoop 1, .keepAliveWrite 1 false .pending,
    .keepAliveWrite 1 false (.ready (.ok ()))]

/-- The retried message is written after a later one. -/
theorem retried_too_late : ¬ forall (maxRetries : Nat) (socket : ReconnectingWebSocket),
    Reaches (step maxRetries) AwaitsSend build socket -> (acceptedInOrder socket.log).Nodup ->
      forall first second, [first, second].Sublist (acceptedInOrder socket.log) ->
        first ∈ writtenInOrder socket.log -> second ∈ writtenInOrder socket.log ->
          [first, second].Sublist (writtenInOrder socket.log) := by
  intro law
  have inOrder := law 10 _ (reaches_get_run handedBackLateRun rfl) (by decide) (.text "3")
    (.text "4") (by decide) (by decide) (by decide)
  exact absurd inOrder (by decide)

/-- The keepalive has ended when the write loop hands it the first message. -/
def handedBackRun : List Action :=
  [.connect, .attempted (.user 0) (.ok ()), .readLoop 0, .readLoop 0,
    .keepAliveWrite 0 true .pending, .keepAliveWrite 0 false (.ready (.error .connectionClosed)),
    .keepAliveWrite 0 false .pending, .keepAliveWrite 0 false (.ready (.ok ())),
    .send (.text "1"), .pollSend 0, .writeLoop 0, .writeLoop 0, .writeLoop 0, .writeLoop 0,
    .readLoop 0, .readLoop 0, .attempted (.readLoop 0) (.ok ()), .readLoop 1, .readLoop 1,
    .send (.text "2"), .pollSend 0, .writeLoop 1, .writeLoop 1, .keepAliveWrite 1 false .pending,
    .keepAliveWrite 1 false (.ready (.ok ())), .writeLoop 1, .writeLoop 1,
    .keepAliveWrite 1 false .pending, .keepAliveWrite 1 false (.ready (.ok ()))]

theorem written_in_order_handedBack :
    [.text "1", .text "2"].Sublist
      (writtenInOrder ((run (step 10) TakesInTurn build handedBackRun).get rfl).log) :=
  (written_in_order 10 _ (reaches_get_run handedBackRun rfl)).2 (by decide) (.text "1")
    (.text "2") (by decide) (by decide) (by decide)

end ReconnectingWebSocket
end WebSocket
end Fpd
