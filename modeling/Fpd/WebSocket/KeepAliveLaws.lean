import Fpd.WebSocket.KeepAliveSession
import Fpd.WebSocket.Orphans

namespace Fpd
namespace WebSocket

open Async

/-!
# What the users of a `WebSocketKeepAlive` can rely on

A user that receives gets what the stream has yielded, and when told that
nothing more will come has got all of it.  Of the messages that were accepted
all but the last two are written.  A keepalive that is disconnected stays so:
nothing is accepted or taken up any more, and the write task goes on to close
the sink without anybody's help.
-/

namespace KeepAliveSession

variable {session after later : KeepAliveSession} {action : Action}

/-! ## Incoming items -/

/-- While somebody holds the keepalive, what has arrived is received, queued or
in the hands of the read task. -/
structure Whole (session : KeepAliveSession) : Prop where
  arrived : session.held = true -> arrived session.log =
    received session.log ++ session.ws.incoming.queue ++ session.ws.readTask.hand
  ended : .received none ∈ session.log ->
    session.ws.incoming.queue = [] ∧ session.ws.readTask = .finished

namespace Whole

theorem of_same (whole : Whole session) (held : after.held = true -> session.held = true)
    (events : taskEvents after.log = taskEvents session.log)
    (receiving : received after.log = received session.log)
    (ends : .received none ∈ after.log -> .received none ∈ session.log)
    (incoming : after.ws.incoming = session.ws.incoming)
    (task : after.ws.readTask = session.ws.readTask) : Whole after := by
  constructor
  · intro holds
    simp only [KeepAliveSession.arrived, events, receiving, incoming, task]
    exact whole.arrived (held holds)
  · intro noMore
    rw [incoming, task]
    exact whole.ended (ends noMore)

/-- A poll of the read task passes an item on, or it ends the task. -/
theorem of_read {stream : Poll (Option Item)} {ws : WebSocketKeepAlive}
    {events : List KeepAliveEvent} (whole : Whole session)
    (effect : session.ws.ReadStep session.held stream ws events) :
    Whole ({ session with ws := ws }.emit (events.map .task)) := by
  have unended : .received none ∉ session.log := by
    intro noMore
    have running := effect.reads
    rw [(whole.ended noMore).2] at running
    cases running
  constructor
  · intro held
    have before := whole.arrived held
    simp only [KeepAliveSession.arrived, emit, taskEvents_append, taskEvents_map,
      received_append, received_map, List.filterMap_append, List.append_nil] at before ⊢
    rw [before]
    cases effect with
    | swallowed item seen rests control =>
        simp [KeepAliveEvent.arrivedItem, control]
    | received item seen rests data =>
        simp [KeepAliveEvent.arrivedItem, data, rests, KeepAliveRead.hand]
    | ended seen rests =>
        simp [List.filterMap_cons, KeepAliveEvent.arrivedItem, rests, KeepAliveRead.hand]
    | stopped seen rests => simp [rests, KeepAliveRead.hand]
    | forwarded item seen incoming rests sent => simp [rests, sent, KeepAliveRead.hand]
    | abandoned item seen rests dropped =>
        rw [emit, KeepAliveSession.held] at held
        rw [KeepAliveSession.held, held] at dropped
        cases dropped
    | published rests => simp [rests, KeepAliveRead.hand]
  · intro noMore
    simp only [emit, List.mem_append, unended, false_or, List.mem_map, reduceCtorEq, and_false,
      exists_false] at noMore

theorem of_write {sink : Poll (Except Error Unit)} {ws : WebSocketKeepAlive}
    {events : List KeepAliveEvent} (whole : Whole session)
    (effect : session.ws.WriteStep session.held sink ws events) :
    Whole ({ session with ws := ws }.emit (events.map .task)) := by
  have incoming : ws.incoming = session.ws.incoming := by cases effect <;> rfl
  have silent : events.filterMap KeepAliveEvent.arrivedItem = [] := by cases effect <;> rfl
  constructor
  · intro held
    simp only [KeepAliveSession.arrived, emit, taskEvents_append, taskEvents_map,
      received_append, received_map, List.filterMap_append, List.append_nil, silent, incoming,
      effect.readTask]
    exact whole.arrived held
  · intro noMore
    simp only [emit, List.mem_append, List.mem_map, reduceCtorEq, and_false, exists_false,
      or_false] at noMore
    simp only [emit, incoming, effect.readTask]
    exact whole.ended noMore

end Whole

theorem Step.whole (effect : Step session action after) (whole : Whole session) : Whole after := by
  cases effect with
  | clone held => exact whole.of_same (fun _ => held) rfl rfl id rfl rfl
  | drop held => exact whole.of_same (fun _ => decide_eq_true held) rfl rfl id rfl rfl
  | close =>
      exact whole.of_same id (by simp [KeepAliveSession.close, taskEvents])
        (by simp [KeepAliveSession.close, KeepAliveSession.received])
        (by simp [KeepAliveSession.close]) rfl rfl
  | refusedAtOnce =>
      exact whole.of_same id (by simp [taskEvents]) (by simp [KeepAliveSession.received]) (by simp)
        rfl rfl
  | accepted =>
      exact whole.of_same id (by simp [taskEvents]) (by simp [KeepAliveSession.received]) (by simp)
        rfl rfl
  | refused =>
      exact whole.of_same id (by simp [taskEvents]) (by simp [KeepAliveSession.received]) (by simp)
        rfl rfl
  | queued =>
      exact whole.of_same id (by simp [taskEvents]) (by simp [KeepAliveSession.received]) (by simp)
        rfl rfl
  | received item incoming head =>
      constructor
      · intro held
        have before := whole.arrived held
        simp only [arrived, emit, taskEvents_append, received_append] at before ⊢
        rw [show taskEvents [.received (some item)] = [] from rfl, List.append_nil, before, head]
        simp [KeepAliveSession.received]
      · intro noMore
        simp only [emit, List.mem_append, List.mem_singleton, SessionEvent.received.injEq,
          reduceCtorEq, or_false] at noMore
        have drained := (whole.ended noMore).1
        rw [head] at drained
        cases drained
  | ended drained finished =>
      constructor
      · intro held
        have before := whole.arrived held
        simp only [arrived, emit, taskEvents_append, received_append] at before ⊢
        rw [show taskEvents [.received none] = [] from rfl, List.append_nil, before]
        simp [KeepAliveSession.received]
      · intro _
        refine ⟨drained, ?_⟩
        cases rests : session.ws.readTask with
        | finished => exact rests
        | _ => rw [rests] at finished; cases finished
  | read stream ws events effect => exact whole.of_read effect
  | write timeout sink ws events effect => exact whole.of_write effect
  | _ => exact whole.of_same id rfl rfl id rfl rfl

theorem whole_of_reaches (reached : Reaches step anyStep new session) : Whole session := by
  apply reached.invariant
  · exact ⟨fun _ => rfl, fun noMore => by cases noMore⟩
  · intro before action after _ whole _ taken
    exact (step_spec taken).whole whole

/-- While somebody holds the keepalive, what users have received is what has
arrived, in order, but for at most two items that are still to come.  Once
`recv` has answered that nothing will come any more, it is all of it. -/
theorem received_whole (session : KeepAliveSession)
    (reached : Reaches step anyStep new session) (held : session.held = true) :
    received session.log <+: arrived session.log ∧
      (arrived session.log).length ≤ (received session.log).length + 2 ∧
      (.received none ∈ session.log -> received session.log = arrived session.log) := by
  rcases whole_of_reaches reached with ⟨whole, ended⟩
  have arrived := whole held
  have queued := session.ws.incoming.bounded
  have inHand : session.ws.readTask.hand.length ≤ 1 := by
    cases session.ws.readTask <;> simp [KeepAliveRead.hand]
  refine ⟨?_, ?_, fun noMore => ?_⟩
  · rw [arrived, List.append_assoc]
    exact List.prefix_append _ _
  · rw [arrived, List.length_append, List.length_append]
    omega
  · rw [arrived, (ended noMore).1, (ended noMore).2]
    simp [KeepAliveRead.hand]

/-! ## Outgoing messages -/

/-- At most one message is handed to the sink and not written. -/
theorem Ordered.missing_le (ordered : Ordered session) :
    (failed session.log).length + session.ws.writeTask.hand.length ≤ 1 := by
  cases rests : session.ws.writeTask with
  | sending message seen =>
      rw [ordered.unfailed (by rw [rests]; rfl)]
      exact Nat.le_refl 1
  | _ => exact ordered.once

/-- Whatever happens to the connection, all accepted messages but at most the
last two are written, in order.  As long as the write task is in its loop, none
is lost: what is missing is in its hands or queued. -/
theorem all_but_two_written (session : KeepAliveSession)
    (reached : Reaches step anyStep new session) :
    Exists fun missing => entered session.log = written session.log ++ missing ∧
      missing.length ≤ 2 ∧ (session.ws.writeTask.looping = true ->
        missing = session.ws.writeTask.hand ++ session.ws.outgoing.queue) := by
  have ordered := ordered_of_reaches reached
  refine ⟨failed session.log ++ session.ws.writeTask.hand ++ session.ws.outgoing.queue, ?_, ?_, ?_⟩
  · rw [ordered.entered, ordered.handed]
    simp only [List.append_assoc]
  · have queued := session.ws.outgoing.bounded
    have unwritten := ordered.missing_le
    rw [List.length_append, List.length_append]
    omega
  · intro looping
    rw [ordered.unfailed looping]
    rfl

/-! ## After the end -/

/-- The disconnect flag is set as soon as it has been sent, and the write task
has never seen it change.  The sink has been closed if the task has ended. -/
structure Flagged (session : KeepAliveSession) : Prop where
  flag : session.ws.disconnect.value = decide (session.ws.disconnect.version ≠ 0)
  seen : session.ws.writeTask.seen = 0
  closed : (taskEvents session.log).count .sinkClosed =
    if session.ws.writeTask.running then 0 else 1

namespace Flagged

theorem of_same (flagged : Flagged session)
    (events : taskEvents after.log = taskEvents session.log)
    (disconnect : after.ws.disconnect = session.ws.disconnect ∨
      after.ws.disconnect = session.ws.disconnect.sendReplace true)
    (task : after.ws.writeTask = session.ws.writeTask) : Flagged after := by
  refine ⟨?_, task ▸ flagged.seen, ?_⟩
  · rcases disconnect with same | sent
    · rw [same]
      exact flagged.flag
    · rw [sent]
      rfl
  · rw [events, task]
    exact flagged.closed

theorem of_read {stream : Poll (Option Item)} {ws : WebSocketKeepAlive}
    {events : List KeepAliveEvent} {held : Bool} (flagged : Flagged session)
    (effect : session.ws.ReadStep held stream ws events) :
    Flagged ({ session with ws := ws }.emit (events.map .task)) := by
  have disconnect : ws.disconnect = session.ws.disconnect ∨
      ws.disconnect = session.ws.disconnect.sendReplace true := by
    cases effect with
    | published => exact Or.inr rfl
    | _ => exact Or.inl rfl
  have silent : events.count .sinkClosed = 0 := by cases effect <;> rfl
  have quiet : Flagged { session with ws := ws } :=
    flagged.of_same rfl disconnect effect.writeTask
  refine ⟨quiet.flag, quiet.seen, ?_⟩
  simp only [emit, taskEvents_append, taskEvents_map, List.count_append, silent, Nat.add_zero]
  exact quiet.closed

theorem of_write {sink : Poll (Except Error Unit)} {ws : WebSocketKeepAlive}
    {events : List KeepAliveEvent} {held : Bool} (flagged : Flagged session)
    (effect : session.ws.WriteStep held sink ws events) :
    Flagged ({ session with ws := ws }.emit (events.map .task)) := by
  rcases flagged with ⟨flag, seen, closed⟩
  rw [effect.writes] at closed
  constructor
  · cases effect with
    | published => rfl
    | _ => exact flag
  · cases effect with
    | took message _ _ rests => rw [rests] at seen; exact seen
    | pinging _ rests => rw [rests] at seen; exact seen
    | wrote message _ rests => rw [rests] at seen; exact seen
    | pinged _ rests => rw [rests] at seen; exact seen
    | _ => rfl
  · simp only [emit, taskEvents_append, taskEvents_map, List.count_append, closed]
    cases effect <;> rfl

end Flagged

theorem Step.flagged (effect : Step session action after) (flagged : Flagged session) :
    Flagged after := by
  cases effect with
  | close =>
      exact flagged.of_same (by simp [KeepAliveSession.close, taskEvents]) (Or.inr rfl) rfl
  | refusedAtOnce => exact flagged.of_same (by simp [taskEvents]) (Or.inl rfl) rfl
  | accepted => exact flagged.of_same (by simp [taskEvents]) (Or.inl rfl) rfl
  | refused => exact flagged.of_same (by simp [taskEvents]) (Or.inl rfl) rfl
  | queued => exact flagged.of_same (by simp [taskEvents]) (Or.inl rfl) rfl
  | received => exact flagged.of_same (by simp [taskEvents]) (Or.inl rfl) rfl
  | ended => exact flagged.of_same (by simp [taskEvents]) (Or.inl rfl) rfl
  | read stream ws events effect => exact flagged.of_read effect
  | write timeout sink ws events effect => exact flagged.of_write effect
  | _ => exact flagged.of_same rfl (Or.inl rfl) rfl

theorem flagged_of_reaches {allowed : KeepAliveSession -> Action -> Prop}
    (reached : Reaches step allowed new session) : Flagged session := by
  apply reached.invariant
  · exact ⟨rfl, rfl, rfl⟩
  · intro before action after _ flagged _ taken
    exact (step_spec taken).flagged flagged

theorem Flagged.disconnected_iff (flagged : Flagged session) :
    session.isConnected = false ↔ session.ws.disconnect.version ≠ 0 := by
  rw [isConnected, flagged.flag, Bool.not_eq_false', decide_eq_true_iff]

/-- No step connects again, accepts a message or takes one up. -/
theorem Step.disconnected (effect : Step session action after) (flagged : Flagged session)
    (off : session.ws.disconnect.version ≠ 0) :
    after.ws.disconnect.version ≠ 0 ∧
      KeepAliveSession.accepted after.log = KeepAliveSession.accepted session.log ∧
      handed after.log = handed session.log := by
  cases effect with
  | close =>
      exact ⟨Nat.succ_ne_zero _, by simp [KeepAliveSession.close, KeepAliveSession.accepted],
        by simp [KeepAliveSession.close, handed, taskEvents]⟩
  | accepted call message sends outgoing current => exact absurd current off
  | refusedAtOnce =>
      exact ⟨off, by simp [KeepAliveSession.accepted], by simp [handed, taskEvents]⟩
  | refused => exact ⟨off, by simp [KeepAliveSession.accepted], by simp [handed, taskEvents]⟩
  | queued => exact ⟨off, by simp [KeepAliveSession.accepted], by simp [handed, taskEvents]⟩
  | received => exact ⟨off, by simp [KeepAliveSession.accepted], by simp [handed, taskEvents]⟩
  | ended => exact ⟨off, by simp [KeepAliveSession.accepted], by simp [handed, taskEvents]⟩
  | read stream ws events effect =>
      refine ⟨?_, by simp, ?_⟩
      · cases effect with
        | published => exact Nat.succ_ne_zero _
        | _ => exact off
      · have silent : events.filterMap KeepAliveEvent.handedMessage = [] := by
          cases effect <;> rfl
        simp [handed, silent]
  | write timeout sink ws events effect =>
      refine ⟨?_, by simp, ?_⟩
      · cases effect with
        | published => exact Nat.succ_ne_zero _
        | _ => exact off
      · have silent : events.filterMap KeepAliveEvent.handedMessage = [] := by
          cases effect with
          | took message seen outgoing rests taken unchanged =>
              have unseen := flagged.seen
              rw [rests] at unseen
              exact absurd (unchanged.trans unseen) off
          | _ => rfl
        simp [handed, silent]
  | _ => exact ⟨off, rfl, rfl⟩

/-- What holds ever after once the flag is set. -/
theorem frozen_of_reaches {allowed : KeepAliveSession -> Action -> Prop}
    (flagged : Flagged session) (off : session.ws.disconnect.version ≠ 0)
    (onwards : Reaches step allowed session later) :
    Flagged later ∧ later.ws.disconnect.version ≠ 0 ∧
      accepted later.log = accepted session.log ∧ handed later.log = handed session.log := by
  apply onwards.invariant
  · exact ⟨flagged, off, rfl, rfl⟩
  · rintro before action after _ ⟨flagged, off, acceptedBefore, handedBefore⟩ _ taken
    have effect := step_spec taken
    rcases effect.disconnected flagged off with ⟨off, accepting, handing⟩
    exact ⟨effect.flagged flagged, off, accepting.trans acceptedBefore,
      handing.trans handedBefore⟩

/-- A disconnected keepalive never connects again.  From then on `send` accepts
no message, and the write task takes none up, not even one that was accepted
before. -/
theorem disconnected_for_good (session later : KeepAliveSession)
    (reached : Reaches step anyStep new session) (off : session.isConnected = false)
    (onwards : Reaches step anyStep session later) :
    later.isConnected = false ∧ accepted later.log = accepted session.log ∧
      handed later.log = handed session.log := by
  have flagged := flagged_of_reaches reached
  rcases frozen_of_reaches flagged (flagged.disconnected_iff.mp off) onwards with
    ⟨flaggedLater, offLater, accepting, handing⟩
  exact ⟨flaggedLater.disconnected_iff.mpr offLater, accepting, handing⟩

/-- The write task is polled, and its sink takes what it is given. -/
def Writes (_ : KeepAliveSession) (action : Action) : Prop :=
  action = .write false (.ready (.ok ()))

/-- The disconnected write task has not seen the flag, or it has left its loop. -/
theorem write_goesOn (flagged : Flagged session) (off : session.ws.disconnect.version ≠ 0)
    (running : session.ws.writeTask.running = true) :
    Exists fun next => step session (.write false (.ready (.ok ()))) = some next ∧
      next.ws.remaining < session.ws.remaining := by
  have busy : ¬ session.ws.Waits session.held := by
    rintro ⟨rests, _, _⟩
    have unseen := flagged.seen
    rw [rests] at unseen
    exact off unseen
  rcases WebSocketKeepAlive.writeLoop_goesOn session.ws session.held running busy with
    ⟨ws, events, answered, less⟩
  refine ⟨{ session with ws := ws }.emit (events.map .task), ?_, less⟩
  rw [step, answered]
  rfl

/-- Once the keepalive is disconnected, its write task needs nobody but the sink
to come to its end, at which it has closed the sink exactly once.  What is
queued by then is not written any more. -/
theorem sink_closed_of_disconnected (session : KeepAliveSession)
    (reached : Reaches step anyStep new session) (off : session.isConnected = false) :
    Exists fun last => Reaches step Writes session last ∧ last.ws.writeTask = .finished ∧
      (taskEvents last.log).count .sinkClosed = 1 ∧
      entered last.log = handed session.log ++ last.ws.outgoing.queue := by
  have progress : forall current : KeepAliveSession,
      Flagged current ∧ current.ws.disconnect.version ≠ 0 ->
      current.ws.writeTask.running = false ∨ Exists fun action => Exists fun next =>
        Writes current action ∧ step current action = some next ∧
          (Flagged next ∧ next.ws.disconnect.version ≠ 0) ∧
          next.ws.remaining < current.ws.remaining := by
    rintro current ⟨flagged, off⟩
    cases running : current.ws.writeTask.running with
    | false => exact Or.inl rfl
    | true =>
        rcases write_goesOn flagged off running with ⟨next, taken, less⟩
        have effect := step_spec taken
        exact Or.inr ⟨_, next, rfl, taken,
          ⟨effect.flagged flagged, (effect.disconnected flagged off).1⟩, less⟩
  have flagged := flagged_of_reaches reached
  rcases exists_reaches_of_weight (fun current : KeepAliveSession => current.ws.remaining) progress
    ⟨flagged, flagged.disconnected_iff.mp off⟩ with ⟨last, onwards, stopped⟩
  have reachedLast := reached.trans (onwards.mono fun _ _ _ => trivial)
  have settled := ordered_of_reaches reachedLast
  have final := flagged_of_reaches reachedLast
  refine ⟨last, onwards, ?_, ?_, ?_⟩
  · cases rests : last.ws.writeTask with
    | finished => rfl
    | _ => rw [rests] at stopped; cases stopped
  · rw [final.closed, stopped]
    rfl
  · rw [settled.entered,
      (frozen_of_reaches flagged (flagged.disconnected_iff.mp off) onwards).2.2.2]

/-! ## A keepalive that is closed while a message is queued -/

/-- One message is written, one item received, and a second message is queued
when the user closes. -/
def closing : List Action :=
  [.send (.text "first"), .pollSend 0, .write false .pending, .write false (.ready (.ok ())),
    .read (.ready (some (.ok (.text "item")))), .read .pending, .recv,
    .send (.text "second"), .pollSend 0, .close]

def closed : KeepAliveSession :=
  (run step anyStep new closing).get rfl

theorem closed_reached : Reaches step anyStep new closed :=
  reaches_get_run closing rfl

theorem received_whole_closed : received closed.log <+: arrived closed.log :=
  (received_whole closed closed_reached rfl).1

theorem all_but_two_written_closed : Exists fun missing =>
    [Message.text "first", .text "second"] = .text "first" :: missing ∧ missing.length ≤ 2 := by
  rcases all_but_two_written closed closed_reached with ⟨missing, split, few, _⟩
  exact ⟨missing, split, few⟩

/-- The second message is not taken up. -/
theorem disconnected_for_good_closed :
    handed ((run step anyStep closed [.write false .pending]).get rfl).log = [.text "first"] :=
  (disconnected_for_good closed _ closed_reached rfl
    (reaches_get_run [.write false .pending] rfl)).2.2

theorem sink_closed_of_disconnected_closed : Exists fun last =>
    Reaches step Writes closed last ∧ last.ws.writeTask = .finished := by
  rcases sink_closed_of_disconnected closed closed_reached rfl with ⟨last, onwards, ended, _⟩
  exact ⟨last, onwards, ended⟩

end KeepAliveSession
end WebSocket
end Fpd
