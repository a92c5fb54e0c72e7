import Fpd.Service.Steps

namespace Fpd
namespace Service
namespace Daemon

open Async WebSocket

/-!
# The shutdown signal

One broadcast tells the main loop, the status task and the outgoing task to
stop, and nothing orders what they do about it.

The main loop subscribes anew in every round, so a signal that a round leaves
behind in its receiver, or that falls between two rounds, is lost to the loop.
The other two tasks subscribe once.  But the outgoing task stops on its own
signal and takes its channel with it, whatever is in there, while the status
task puts its last message into that channel.

Both laws are stated for all runs and fail.  Each holds on the runs where the
one branch that breaks it is not taken.
-/

variable {service : ProxyService} {codec : Codec} {daemon after : Daemon} {action : Action}

/-! ## The main loop -/

/-- The loop has been left, or the receiver of its round holds the signal. -/
def Hears (daemon : Daemon) : Prop :=
  (Exists fun result => daemon.main = .returned result) ∨
    Exists fun receiver => daemon.main = .selecting receiver ∧ daemon.shutdown.holds receiver = true

/-- The signal is sent once, after the main loop has been entered. -/
def signalsOnce (daemon : Daemon) : Action -> Bool
  | .signalled => daemon.main.entered && decide (daemon.shutdown.sent = 0)
  | _ => true

/-- The round waits on a receiver that holds the signal. -/
def signalHeld (daemon : Daemon) : Bool :=
  match daemon.main with
  | .selecting receiver => daemon.shutdown.holds receiver
  | _ => false

/-- The next item is a message, after which the loop goes on. -/
def goesOn (daemon : Daemon) : Bool :=
  match daemon.ws.pollRecv 0 with
  | some (_, .ready (some (.ok _))) => true
  | _ => false

/-- The signal falls between two rounds, or a round that holds it takes a
message instead. -/
def missesSignal (daemon : Daemon) : Action -> Bool
  | .signalled => decide (daemon.main = .subscribing)
  | .received => daemon.signalHeld && daemon.goesOn
  | _ => false

def SignalledOnce (daemon : Daemon) (action : Action) : Prop :=
  daemon.signalsOnce action = true

def SignalNotMissed (daemon : Daemon) (action : Action) : Prop :=
  daemon.signalsOnce action = true ∧ daemon.missesSignal action = false

instance : Decidable (SignalledOnce daemon action) :=
  inferInstanceAs (Decidable (_ = true))

instance : Decidable (SignalNotMissed daemon action) :=
  inferInstanceAs (Decidable (_ ∧ _))

theorem signalHeld_of_hears {receiver : Nat} (rests : daemon.main = .selecting receiver)
    (hears : Hears daemon) : daemon.signalHeld = true := by
  rcases hears with ⟨result, returned⟩ | ⟨listening, selecting, holds⟩
  · rw [rests] at returned
    cases returned
  · unfold signalHeld
    rw [selecting]
    exact holds

/-- A receiver has nothing behind it that has not been sent. -/
def Subscribed (daemon : Daemon) : Prop :=
  forall receiver, daemon.main = .selecting receiver -> receiver ≤ daemon.shutdown.sent

theorem LoopStep.subscribers (effect : LoopStep daemon after action)
    (subscribers : Subscribed daemon) : Subscribed after := by
  intro receiver rests
  cases effect with
  | same main shutdown => exact shutdown ▸ subscribers receiver (main ▸ rests)
  | signalled main sent =>
      rw [(Broadcast.send_eq_some_iff.mp sent).2]
      exact Nat.le_succ_of_le (subscribers receiver (main ▸ rests))
  | outside before waits =>
      rw [rests] at waits
      cases waits
  | subscribed before main shutdown =>
      rw [main, Main.selecting.injEq] at rests
      rw [← rests, shutdown]
      exact Nat.le_refl _
  | continued _ _ _ _ _ main =>
      rw [main] at rests
      cases rests
  | returned result main =>
      rw [main] at rests
      cases rests

/-- Until the signal is sent there is nothing to hear, and then the loop hears
it or has been left. -/
theorem LoopStep.hears (effect : LoopStep daemon after action) (subscribers : Subscribed daemon)
    (permitted : SignalNotMissed daemon action)
    (heard : daemon.shutdown.sent = 0 ∨ Hears daemon) : after.shutdown.sent = 0 ∨ Hears after := by
  rcases permitted with ⟨once, kept⟩
  have unsent (deaf : ¬ Hears daemon) : daemon.shutdown.sent = 0 := heard.resolve_right deaf
  cases effect with
  | same main shutdown =>
      unfold Hears
      rw [main, shutdown]
      exact heard
  | signalled main sent =>
      simp only [signalsOnce, Bool.and_eq_true] at once
      simp only [missesSignal, decide_eq_false_iff_not] at kept
      apply Or.inr
      cases rests : daemon.main with
      | selecting receiver =>
          refine Or.inr ⟨receiver, main.trans rests, ?_⟩
          exact Broadcast.holds_of_send sent (subscribers receiver rests)
      | returned result => exact Or.inl ⟨result, main.trans rests⟩
      | subscribing => exact absurd rests kept
      | _ =>
          rw [rests] at once
          cases once.1
  | outside before waits _ shutdown =>
      apply Or.inl
      rw [shutdown]
      apply unsent
      rintro (⟨result, rests⟩ | ⟨receiver, rests, _⟩) <;> rw [rests] at before <;> cases before
  | subscribed rests main shutdown =>
      apply Or.inl
      rw [shutdown]
      apply unsent
      rintro (⟨result, returned⟩ | ⟨receiver, selecting, _⟩)
      · rw [rests] at returned
        cases returned
      · rw [rests] at selecting
        cases selecting
  | continued receiver message ws rests answer main shutdown =>
      apply Or.inl
      rw [shutdown]
      apply unsent
      intro hears
      have held := signalHeld_of_hears rests hears
      have more : daemon.goesOn = true := by rw [goesOn, answer]
      simp only [missesSignal, held, more, Bool.and_self, reduceCtorEq] at kept
  | returned result main => exact Or.inr (Or.inl ⟨result, main⟩)

theorem subscribed_of_reaches {allowed : Daemon -> Action -> Prop}
    (reached : Reaches (step service codec) allowed initial daemon) : Subscribed daemon := by
  apply reached.invariant
  · intro receiver rests
    cases rests
  · intro before action after _ subscribers _ taken
    exact (step_spec taken).loop.subscribers subscribers

/-- Once the signal has been sent, the main loop has been left or waits on a
receiver that holds it. -/
theorem hears_of_signalNotMissed (service : ProxyService) (codec : Codec) (daemon : Daemon)
    (reached : Reaches (step service codec) SignalNotMissed initial daemon)
    (signalled : 0 < daemon.shutdown.sent) : Hears daemon := by
  have heard : daemon.shutdown.sent = 0 ∨ Hears daemon := by
    apply reached.invariant
    · exact Or.inl rfl
    · intro before action after earlier heard permitted taken
      exact (step_spec taken).loop.hears (subscribed_of_reaches earlier) permitted heard
  exact heard.resolve_left (Nat.ne_of_gt signalled)

/-- The first connection yields an item, which gets into the shared incoming
channel. -/
def deliver (item : Item) : List Action :=
  [.webSocket (.keepAliveRead 0 (.ready (some item))),
    .webSocket (.keepAliveRead 0 .pending), .webSocket (.readLoop 0), .webSocket (.readLoop 0),
    .webSocket (.readLoop 0), .webSocket (.readLoop 0)]

/-- The signal comes while the first round waits. -/
theorem hears_of_signalNotMissed_firstRound :
    Hears ((run (step plainService Handling.plainCodec) SignalNotMissed initial
      (toFirstRound ++ [.signalled])).get rfl) :=
  hears_of_signalNotMissed _ _ _ (reaches_get_run _ rfl) Nat.one_pos

/-- A message and the signal are there together, and the round takes the
message. -/
theorem message_hides_signal : ¬ forall (service : ProxyService) (codec : Codec) (daemon : Daemon),
    Reaches (step service codec) SignalledOnce initial daemon -> 0 < daemon.shutdown.sent ->
      Hears daemon := by
  intro law
  have reached := @reaches_get_run _ _ (step plainService Handling.plainCodec) SignalledOnce
    initial _
    (toFirstRound ++ deliver (.ok (.text "ping")) ++ [.signalled, .received, .subscribed]) rfl
  rcases law _ _ _ reached Nat.one_pos with ⟨result, returned⟩ | ⟨receiver, selecting, holds⟩
  · cases returned
  · cases selecting
    cases holds

/-! ## The last notification -/

/-- The last message of the status task as it goes into the channel. -/
def offline (service : ProxyService) : Outgoing :=
  (.offline, service.offlineMessage)

/-- The signal is sent only while the three tasks run. -/
def signalsTasks (daemon : Daemon) : Action -> Bool
  | .signalled =>
      daemon.status.task.running && daemon.outgoing.running &&
        (daemon.main.subscribed || decide (daemon.main = .subscribing))
  | _ => true

/-- The outgoing task stops although the status task has yet to stop, or has
its last message in the channel. -/
def stopsEarly (daemon : Daemon) : Action -> Bool
  | .outgoingStopped =>
      !decide (daemon.status.task = .stopped) ||
        daemon.queue.any fun entry => decide (entry.1 = .offline)
  | _ => false

def SignalledTasks (daemon : Daemon) (action : Action) : Prop :=
  daemon.signalsTasks action = true

def StopsInTime (daemon : Daemon) (action : Action) : Prop :=
  daemon.stopsEarly action = false

instance : Decidable (SignalledTasks daemon action) :=
  inferInstanceAs (Decidable (_ = true))

instance : Decidable (StopsInTime daemon action) :=
  inferInstanceAs (Decidable (_ = false))

/-- The last message has been passed on if the outgoing task has stopped.  If
the status task has stopped, it has been passed on or is in the channel. -/
structure Announced (service : ProxyService) (daemon : Daemon) : Prop where
  passed : daemon.outgoing = .stopped -> offline service ∈ daemon.passed
  sent : daemon.status.task = .stopped ->
    offline service ∈ daemon.queue ∨ offline service ∈ daemon.passed

namespace Announced

theorem of_same (announced : Announced service daemon) (outgoing : after.outgoing = daemon.outgoing)
    (status : after.status = daemon.status) (queue : after.queue = daemon.queue)
    (passed : after.passed = daemon.passed) : Announced service after := by
  constructor
  · rw [outgoing, passed]
    exact announced.passed
  · rw [status, queue, passed]
    exact announced.sent

/-- Messages are put into the channel, or lost because it is gone. -/
theorem enqueue (announced : Announced service daemon) (messages : List Outgoing) :
    Announced service (daemon.enqueue messages) := by
  refine ⟨announced.passed, fun stopped => ?_⟩
  by_cases gone : daemon.outgoing = .stopped
  · exact Or.inr (announced.passed gone)
  · simp only [Daemon.enqueue, if_neg gone]
    rcases announced.sent stopped with queued | passed
    · exact Or.inl (List.mem_append_left _ queued)
    · exact Or.inr passed

end Announced

theorem enqueue_status {status : Status} {action : Status.Action} {messages : List Outgoing}
    (effect : Status.Step service codec daemon.shutdown daemon.status action status messages)
    (announced : Announced service daemon) :
    Announced service ({ daemon with status := status }.enqueue messages) := by
  cases effect with
  | stopped receiver rests holds =>
      refine ⟨announced.passed, fun _ => ?_⟩
      by_cases gone : daemon.outgoing = .stopped
      · exact Or.inr (announced.passed gone)
      · simp only [Daemon.enqueue, if_neg gone]
        exact Or.inl (List.mem_append_right _ (List.mem_singleton.mpr rfl))
  | woken position delay task slept =>
      apply Announced.enqueue
      exact ⟨announced.passed, announced.sent⟩
  | _ =>
      apply Announced.enqueue
      refine ⟨announced.passed, fun stopped => ?_⟩
      cases stopped

theorem Step.announced (effect : Step service codec daemon action after)
    (permitted : StopsInTime daemon action) (announced : Announced service daemon) :
    Announced service after := by
  cases effect with
  | status action status messages answer =>
      exact enqueue_status (Status.step_spec answer) announced
  | handled =>
      apply Announced.enqueue
      exact announced.of_same rfl rfl rfl rfl
  | spawnedStatus rests =>
      refine ⟨announced.passed, fun stopped => ?_⟩
      by_cases empty : service.statusCheckInterval = 0
      · simp only [if_pos empty, reduceCtorEq] at stopped
      · simp only [if_neg empty, reduceCtorEq] at stopped
  | spawnedOutgoing =>
      refine ⟨fun stopped => ?_, announced.sent⟩
      cases stopped
  | taken receiver message queue ws rests head =>
      constructor
      · intro stopped
        by_cases closed : ws.close.value = true
        · simp only [if_pos closed, reduceCtorEq] at stopped
        · simp only [if_neg closed, reduceCtorEq] at stopped
      · intro stopped
        rcases announced.sent stopped with queued | passed
        · rw [head, List.mem_cons] at queued
          rcases queued with first | later
          · exact Or.inr (List.mem_append_right _ (List.mem_singleton.mpr first))
          · exact Or.inl later
        · exact Or.inr (List.mem_append_left _ passed)
  | sent =>
      refine ⟨fun stopped => ?_, announced.sent⟩
      cases stopped
  | outgoingStopped =>
      simp only [StopsInTime, stopsEarly, Bool.or_eq_false_iff, Bool.not_eq_false',
        decide_eq_true_eq, List.any_eq_false, decide_eq_true_eq] at permitted
      have passed : offline service ∈ daemon.passed := by
        rcases announced.sent permitted.1 with queued | passed
        · exact absurd rfl (permitted.2 _ queued)
        · exact passed
      exact ⟨fun _ => passed, fun _ => Or.inr passed⟩
  | _ => exact announced.of_same rfl rfl rfl rfl

/-- When the outgoing task has stopped, the last notification, by which all
data sources go offline, has been passed to the websocket. -/
theorem offline_passed_of_stopsInTime (service : ProxyService) (codec : Codec) (daemon : Daemon)
    (reached : Reaches (step service codec) StopsInTime initial daemon)
    (stopped : daemon.outgoing = .stopped) : offline service ∈ daemon.passed := by
  have announced : Announced service daemon := by
    apply reached.invariant
    · constructor
      · intro impossible
        cases impossible
      · intro impossible
        cases impossible
    · intro before action after _ announced permitted taken
      exact (step_spec taken).announced permitted announced
  exact announced.passed stopped

/-- The status task stops first, and its message is taken and sent. -/
theorem offline_passed_of_stopsInTime_inOrder :
    offline plainService ∈ ((run (step plainService Handling.plainCodec) StopsInTime initial
      (toFirstRound ++ [.signalled, .status .stopped, .taken, .sent, .outgoingStopped])).get
        rfl).passed :=
  offline_passed_of_stopsInTime _ _ _ (reaches_get_run _ rfl) rfl

/-- The outgoing task handles the signal before the status task does. -/
theorem outgoing_stops_first : ¬ forall (service : ProxyService) (codec : Codec) (daemon : Daemon),
    Reaches (step service codec) SignalledTasks initial daemon -> daemon.outgoing = .stopped ->
      offline service ∈ daemon.passed := by
  intro law
  have reached := @reaches_get_run _ _ (step plainService Handling.plainCodec) SignalledTasks
    initial _
    (toFirstRound ++ [.signalled, .outgoingStopped, .status .stopped, .shutDown]) rfl
  cases law _ _ _ reached rfl

end Daemon
end Service
end Fpd
