import Fpd.Service.Rounds
import Mathlib.Data.List.Forall2

namespace Fpd
namespace Service

open Async

/-!
# Retries in time

The status task with a clock.  Its interval ticks when the task is spawned and
then once in every `status_check_interval`, and a retry sleeps for exactly the
delay it was given.  A check takes no time: time passes only while the task
waits in its `select!` with nothing to do, or has ended.

The retries that follow a tick fit between this tick and the next, because they
were chosen so.  That is the invariant: whatever is asleep, queued or under way
is done, with all the retries that may follow, before the next tick.
-/

/-- The status task, the time since it was spawned, when its interval ticks
next, and when each of its sleeping retries wakes. -/
structure Timed where
  status : Status
  now : Duration
  nextTick : Duration
  deadlines : List Duration

namespace Timed

/-- The task has just been spawned, and the first tick is due at once. -/
def spawned (service : ProxyService) (receiver : Nat) : Timed :=
  ⟨Status.empty.spawned service receiver, 0, 0, []⟩

/-- The task has nothing to do without a timer. -/
def idle (status : Status) : Bool :=
  match status.task with
  | .selecting _ => status.queued.isEmpty
  | .updating _ _ => false
  | _ => true

/-- Time can pass until then without passing a timer. -/
def MayElapse (timed : Timed) (later : Duration) : Prop :=
  idle timed.status = true ∧ timed.now ≤ later ∧
    (forall deadline, deadline ∈ timed.deadlines -> later ≤ deadline) ∧
      (timed.status.task.running = true -> later ≤ timed.nextTick)

instance (timed : Timed) (later : Duration) : Decidable (timed.MayElapse later) :=
  inferInstanceAs (Decidable (_ ∧ _))

inductive Action
  | elapsed (later : Duration)
  | taken (shutdown : Broadcast) (action : Status.Action)

/-- A timer that the step waits for has run out now. -/
def Due (timed : Timed) : Status.Action -> Prop
  | .ticked => timed.now = timed.nextTick
  | .woken position => timed.deadlines[position]? = some timed.now
  | _ => True

instance (timed : Timed) : (action : Status.Action) -> Decidable (timed.Due action)
  | .ticked => inferInstanceAs (Decidable (_ = _))
  | .woken _ => inferInstanceAs (Decidable (_ = _))
  | .retried => inferInstanceAs (Decidable True)
  | .checked _ _ _ => inferInstanceAs (Decidable True)
  | .notified => inferInstanceAs (Decidable True)
  | .stopped => inferInstanceAs (Decidable True)

/-- The deadlines after a step: one goes with the retry that wakes, and those of
the retries that have been spawned are added. -/
def deadlinesAfter (timed : Timed) (status : Status) : Status.Action -> List Duration
  | .woken position => timed.deadlines.eraseIdx position
  | .checked _ _ _ =>
      timed.deadlines ++ (status.sleeping.drop timed.status.sleeping.length).map fun sleeper =>
        timed.now + sleeper.1
  | _ => timed.deadlines

/-- The tick after a tick comes one interval later. -/
def nextTickAfter (service : ProxyService) (timed : Timed) : Status.Action -> Duration
  | .ticked => timed.nextTick + service.statusCheckInterval
  | _ => timed.nextTick

def step (service : ProxyService) (codec : Codec) (timed : Timed) : Action -> Option Timed
  | .elapsed later => if timed.MayElapse later then some { timed with now := later } else none
  | .taken shutdown action =>
      if timed.Due action then
        (timed.status.step service codec shutdown action).map fun answer =>
          { status := answer.1
            now := timed.now
            nextTick := timed.nextTickAfter service action
            deadlines := timed.deadlinesAfter answer.1 action }
      else none

variable {service : ProxyService} {codec : Codec} {timed after : Timed} {action : Action}

inductive Step (service : ProxyService) (codec : Codec) (timed : Timed) : Action -> Timed -> Prop
  | elapsed (later : Duration) (may : timed.MayElapse later) :
      Step service codec timed (.elapsed later) { timed with now := later }
  | taken (shutdown : Broadcast) (action : Status.Action) (status : Status)
      (messages : List Outgoing) (due : timed.Due action)
      (effect : Status.Step service codec shutdown timed.status action status messages) :
      Step service codec timed (.taken shutdown action)
        { status := status
          now := timed.now
          nextTick := timed.nextTickAfter service action
          deadlines := timed.deadlinesAfter status action }

theorem step_spec (taken : step service codec timed action = some after) :
    Step service codec timed action after := by
  cases action with
  | elapsed later =>
      by_cases may : timed.MayElapse later
      · simp only [step, if_pos may, Option.some.injEq] at taken
        exact taken ▸ .elapsed later may
      · simp only [step, if_neg may, reduceCtorEq] at taken
  | taken shutdown action =>
      by_cases due : timed.Due action
      · simp only [step, if_pos due] at taken
        rcases Option.map_eq_some_iff.mp taken with ⟨⟨status, messages⟩, answer, rfl⟩
        exact .taken shutdown action status messages due (Status.step_spec answer)
      · simp only [step, if_neg due, reduceCtorEq] at taken

/-! ## The invariant -/

/-- The check and the retries that may follow it are done before the next tick. -/
structure InTime (nextTick start : Duration) (task : DataSourceCheckTask) : Prop where
  paced : task.Paced
  early : start + task.span < nextTick

theorem InTime.lt {nextTick start : Duration} {task : DataSourceCheckTask}
    (inTime : InTime nextTick start task) : start < nextTick :=
  lt_of_le_of_lt (le_add_of_nonneg_right inTime.paced.span_nonneg) inTime.early

/-- A retry is in time if the check that it follows has been. -/
theorem InTime.next {nextTick start delay : Duration} {task retry : DataSourceCheckTask}
    (inTime : InTime nextTick start task) (retried : task.next = some (delay, retry)) :
    start ≤ start + delay ∧ InTime nextTick (start + delay) retry := by
  rcases DataSourceCheckTask.span_next retried with ⟨rfl, split⟩
  refine ⟨le_add_of_nonneg_right inTime.paced.delayed.le, inTime.paced.next retried, ?_⟩
  rw [add_assoc, ← split]
  exact inTime.early

/-- What is asleep, queued or under way is done before the next tick, and no data
source has more than one of it. -/
structure OnTime (service : ProxyService) (timed : Timed) : Prop where
  sleeping : List.Forall₂ (fun deadline (sleeper : Duration × DataSourceCheckTask) =>
      timed.now ≤ deadline ∧ InTime timed.nextTick deadline sleeper.2)
    timed.deadlines timed.status.sleeping
  pending : forall task, task ∈ timed.status.task.pending -> InTime timed.nextTick timed.now task
  queued : timed.status.task.running = true ->
    forall task, task ∈ timed.status.queued -> InTime timed.nextTick timed.now task
  ticking : timed.status.task.running = true -> timed.now ≤ timed.nextTick
  alone : timed.status.names.Nodup
  known : timed.status.Known service

/-- When a tick is due, nothing is left of the tick before. -/
theorem OnTime.nothing_left (onTime : OnTime service timed)
    (running : timed.status.task.running = true) (due : timed.now = timed.nextTick) :
    timed.deadlines = [] ∧ timed.status.sleeping = [] ∧ timed.status.queued = [] := by
  have sleeping := onTime.sleeping
  have queued : timed.status.queued = [] := by
    apply List.eq_nil_iff_forall_not_mem.mpr
    intro task member
    exact (onTime.queued running task member).lt.ne due
  cases deadlines : timed.deadlines with
  | nil =>
      rw [deadlines, List.forall₂_nil_left_iff] at sleeping
      exact ⟨rfl, sleeping, queued⟩
  | cons deadline others =>
      rw [deadlines, List.forall₂_cons_left_iff] at sleeping
      rcases sleeping with ⟨sleeper, _, ⟨later, inTime⟩, _⟩
      exact absurd (later.trans_lt inTime.lt) (due ▸ lt_irrefl _)

theorem running_of_selecting {status : Status} {receiver : Nat}
    (rests : status.task = .selecting receiver) : status.task.running = true := by
  rw [rests]
  rfl

/-- A tick that finds nothing left starts one check for each data source. -/
theorem alone_of_step {shutdown : Broadcast} {action : Status.Action} {status : Status}
    {messages : List Outgoing} (due : timed.Due action)
    (effect : Status.Step service codec shutdown timed.status action status messages)
    (onTime : OnTime service timed) : status.names.Nodup := by
  rcases effect.names with fewer | ⟨rfl, _, tasks⟩
  · exact Multiset.nodup_of_le fewer onTime.alone
  · cases effect with
    | ticked receiver rests =>
        rcases onTime.nothing_left (running_of_selecting rests) due with ⟨_, asleep, waiting⟩
        rw [Status.names, tasks, asleep, waiting, List.map_nil, List.append_nil, List.append_nil,
          service.names_checkTasks, Multiset.coe_nodup]
        exact service.dataSources.keys_nodup

theorem Step.onTime (given : 0 < service.statusCheckInterval)
    (effect : Step service codec timed action after) (onTime : OnTime service timed) :
    OnTime service after := by
  cases effect with
  | elapsed later may =>
      rcases may with ⟨idle, _, deadlines, ticks⟩
      refine ⟨?_, ?_, ?_, ticks, onTime.alone, onTime.known⟩
      · have both := (List.forall₂_and_left _ _).mpr ⟨deadlines, onTime.sleeping⟩
        exact both.imp fun _ _ fits => ⟨fits.1, fits.2.2⟩
      · intro task member
        cases rests : timed.status.task <;> simp_all [Timed.idle, StatusTask.pending]
      · intro running task member
        cases rests : timed.status.task <;> simp_all [Timed.idle, StatusTask.running]
  | taken shutdown action status messages due effect =>
      have alone := alone_of_step due effect onTime
      have known := effect.known onTime.known
      cases effect with
      | ticked receiver rests =>
          have running := running_of_selecting rests
          rcases onTime.nothing_left running due with ⟨none, asleep, waiting⟩
          refine ⟨?_, ?_, ?_, ?_, alone, known⟩
          · simp only [deadlinesAfter, none, asleep]
            exact .nil
          · intro task member
            rcases List.mem_map.mp member with ⟨entry, _, rfl⟩
            refine ⟨DataSourceCheckTask.paced_new (by norm_num) (by norm_num), ?_⟩
            exact add_lt_add_of_le_of_lt due.le
              (DataSourceCheckTask.span_new_lt (by norm_num) (by norm_num) given)
          · simp only [waiting, List.not_mem_nil, false_implies, implies_true]
          · exact fun _ => (onTime.ticking running).trans (le_add_of_nonneg_right given.le)
      | retried receiver task queued rests head =>
          have running := running_of_selecting rests
          have inTime := onTime.queued running
          rw [head] at inTime
          refine ⟨onTime.sleeping, ?_, fun _ => ?_, fun _ => onTime.ticking running, alone,
            known⟩
          · intro retry member
            rw [List.mem_singleton.mp member]
            exact inTime task List.mem_cons_self
          · exact fun retry member => inTime retry (List.mem_cons_of_mem _ member)
      | panicked =>
          refine ⟨?_, List.forall_mem_nil _, Bool.false_ne_true.elim, Bool.false_ne_true.elim,
            alone, known⟩
          simp only [deadlinesAfter, List.drop_length, List.map_nil, List.append_nil]
          exact onTime.sleeping
      | checked position opId provider pending receiver task update retry rests checked updated =>
          have running : timed.status.task.running = true := by rw [rests]; rfl
          have inTime := onTime.pending
          rw [rests] at inTime
          refine ⟨?_, ?_, fun _ => onTime.queued running, fun _ => onTime.ticking running, alone,
            known⟩
          · simp only [deadlinesAfter, List.drop_left]
            apply List.rel_append onTime.sleeping
            cases retry with
            | none => exact .nil
            | some sleeper =>
                have next : task.next = some sleeper := by
                  rcases service.updateDataSource_returned updated with ⟨_, response, _, _, _, same⟩
                  cases response with
                  | ok => cases same
                  | error => exact same.symm
                exact .cons ((inTime task (List.mem_of_getElem? checked)).next next) .nil
          · exact fun other member => inTime other (List.mem_of_mem_eraseIdx member)
      | notified receiver rests =>
          have running : timed.status.task.running = true := by rw [rests]; rfl
          exact ⟨onTime.sleeping, List.forall_mem_nil _, fun _ => onTime.queued running,
            fun _ => onTime.ticking running, alone, known⟩
      | stopped =>
          exact ⟨onTime.sleeping, List.forall_mem_nil _, Bool.false_ne_true.elim,
            Bool.false_ne_true.elim, alone, known⟩
      | woken position delay task slept =>
          have inTime := (fits_of_forall₂ onTime.sleeping due slept).2
          refine ⟨forall₂_eraseIdx onTime.sleeping, onTime.pending, ?_, onTime.ticking, alone,
            known⟩
          intro running other member
          dsimp only at running member
          rw [if_pos running] at member
          rcases List.mem_append.mp member with old | new
          · exact onTime.queued running other old
          · rw [List.mem_singleton.mp new]
            exact inTime

theorem onTime_of_reaches {allowed : Timed -> Action -> Prop} {receiver : Nat}
    (given : 0 < service.statusCheckInterval)
    (reached : Reaches (step service codec) allowed (spawned service receiver) timed) :
    OnTime service timed := by
  apply reached.invariant
  · have none : (Status.empty.spawned service receiver).tasks = [] := Status.tasks_spawned rfl
    refine ⟨.nil, ?_, fun _ => List.forall_mem_nil _, fun _ => le_rfl, ?_, ?_⟩
    · intro task member
      have nowhere : task ∈ (Status.empty.spawned service receiver).tasks :=
        List.mem_append_left _ (List.mem_append_left _ member)
      rw [none] at nowhere
      cases nowhere
    · rw [spawned, Status.names, none]
      exact Multiset.nodup_zero
    · intro name member
      rw [spawned, Status.names, none] at member
      cases member
  · intro before action after _ onTime _ taken
    exact (step_spec taken).onTime given onTime

/-! ## Chains of retries -/

/-- What sleeps after a check has found `response`.  A failure leads to one
retry, if any is left. -/
def Schedules (task : DataSourceCheckTask)
    (before after : List (Duration × DataSourceCheckTask)) : Except Error Unit -> Prop
  | .ok _ => after = before
  | .error _ =>
      if 0 < task.retriesLeft then Exists fun retry : DataSourceCheckTask =>
        after = before ++ [(task.delayTillNext, retry)] ∧ retry.name = task.name ∧
          retry.retriesLeft = task.retriesLeft - 1
      else after = before

theorem schedules_next {task : DataSourceCheckTask} (response : Except Error Unit)
    (sleeping : List (Duration × DataSourceCheckTask)) :
    Schedules task sleeping (sleeping ++ (match response with
      | .ok _ => none
      | .error _ => task.next).toList) response := by
  cases response with
  | ok => exact List.append_nil _
  | error error =>
      simp only [Schedules, DataSourceCheckTask.next]
      by_cases more : 0 < task.retriesLeft
      · rw [if_pos more, if_neg (not_le.mpr more)]
        exact ⟨_, rfl, rfl, rfl⟩
      · rw [if_neg more, if_pos (not_lt.mp more)]
        exact List.append_nil _

/-- The chains of retries that successive ticks start do not overlap: each data
source has one retry at most, every retry wakes before the next tick, and none is
left when it comes. -/
structure ChainsApart (service : ProxyService) (codec : Codec) (timed : Timed) : Prop where
  single : (timed.status.queued.map DataSourceCheckTask.name ++
    timed.status.sleeping.map fun sleeper => sleeper.2.name).Nodup
  sleeping : List.Forall₂ (fun deadline _ => timed.now ≤ deadline ∧ deadline < timed.nextTick)
    timed.deadlines timed.status.sleeping
  queued : timed.status.task.running = true -> timed.status.queued ≠ [] ->
    timed.now < timed.nextTick
  ticked : forall shutdown after,
    timed.step service codec (.taken shutdown .ticked) = some after ->
      timed.status.sleeping = [] ∧ timed.status.queued = []
  checked : forall shutdown position opId provider task response after,
    timed.status.task.pending[position]? = some task ->
      service.checkProviderStatusV2 codec provider task.name opId = .returned response ->
        timed.step service codec (.taken shutdown (.checked position opId provider)) = some after ->
          Schedules task timed.status.sleeping after.status.sleeping response

/-- In every run of the status task with exact timers and instantaneous checks,
and for every interval with a length, the chains stay apart. -/
theorem chains_apart (service : ProxyService) (codec : Codec) (receiver : Nat) (timed : Timed)
    (given : 0 < service.statusCheckInterval)
    (reached : Reaches (step service codec) anyStep (spawned service receiver) timed) :
    ChainsApart service codec timed := by
  have onTime := onTime_of_reaches given reached
  constructor
  · have alone := onTime.alone
    rw [Status.names, Multiset.coe_nodup, Status.tasks, List.append_assoc, List.map_append] at alone
    have waiting := alone.of_append_right
    rwa [List.map_append, List.map_map] at waiting
  · exact onTime.sleeping.imp fun _ _ fits => ⟨fits.1, fits.2.lt⟩
  · intro running some
    rcases List.exists_mem_of_ne_nil _ some with ⟨task, member⟩
    exact (onTime.queued running task member).lt
  · intro shutdown after taken
    cases step_spec taken with
    | taken _ _ status messages due effect =>
        cases effect with
        | ticked receiver rests =>
            exact (onTime.nothing_left (running_of_selecting rests) due).2
  · intro shutdown position opId provider task response after here found taken
    cases step_spec taken with
    | taken _ _ status messages due effect =>
        have known := onTime.known.pending (List.mem_of_getElem? here)
        cases effect with
        | panicked _ _ _ pending receiver checkedTask rests checked lost =>
            rw [rests] at here
            have same : checkedTask = task := Option.some.inj (checked.symm.trans here)
            rcases ProxyService.updateDataSource_panicked lost with unknown | panicked
            · rw [← same, unknown] at known
              cases known
            · rw [same, found] at panicked
              cases panicked
        | checked _ _ _ pending receiver checkedTask update retry rests checked updated =>
            rw [rests] at here
            have same : checkedTask = task := Option.some.inj (checked.symm.trans here)
            rcases service.updateDataSource_returned updated with ⟨_, answered, _, answer, _, rfl⟩
            rw [same, found, Outcome.returned.injEq] at answer
            rw [same, ← answer]
            exact schedules_next response timed.status.sleeping

/-- A service that checks its data source every half minute. -/
def briskService : ProxyService :=
  .init Handling.plainDir [Handling.plainSource] 3 none 30

def brokenProvider : Provider :=
  { Handling.plainProvider with invoke2Raw := fun _ _ => .error "unreachable" }

/-- The first check fails, and its retry comes up ten seconds later. -/
def firstRetry : List Action :=
  [.taken .new .ticked, .taken .new (.checked 0 7 brokenProvider), .taken .new .notified,
    .elapsed 10, .taken .new (.woken 0)]

def afterFirstRetry : Timed :=
  (run (step briskService Handling.plainCodec) anyStep (spawned briskService 0) firstRetry).get
    (by decide +kernel)

theorem chains_apart_firstRetry : afterFirstRetry.status.queued.length = 1 ∧
    ChainsApart briskService Handling.plainCodec afterFirstRetry :=
  ⟨by decide +kernel,
    chains_apart _ _ 0 _ (by decide +kernel) (reaches_get_run firstRetry (by decide +kernel))⟩

end Timed
end Service
end Fpd
