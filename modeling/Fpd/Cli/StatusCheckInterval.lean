import Fpd.Cli.Interval
import Fpd.Service.Lookups
import Fpd.Service.RetryPlan

namespace Fpd
namespace Cli

open Arith
open Async
open Service

/-!
# Running with an accepted interval

What the command line accepts becomes the period of the status task and the time
that the retries of a data source are given.  The timer has no use for a period
without length.  The retries can do with any total, since no delay outgrows it.
-/

/-- `isize::MAX` -/
def isizeMax : Int := 2 ^ 63 - 1

/-- `Duration::MAX`, beyond which `Duration::from_secs_f32` panics. -/
def durationMax : Duration := 2 ^ 64 - 1 / 10 ^ 9

/-- The status task starts with this period, every data source gets a number of
retries, and all the delays on the way are durations.  So in no run of the daemon
the task panics, unless there is no status request to be sent. -/
structure RunsWith (statusCheckInterval : Duration) : Prop where
  starts : forall (service : ProxyService) (status : Status) (receiver : Nat),
    service.statusCheckInterval = statusCheckInterval ->
      (status.spawned service receiver).task = .selecting receiver
  retries : forall name,
    0 ≤ (DataSourceCheckTask.new name statusCheckInterval 10 (3 / 2)).retriesLeft ∧
      (DataSourceCheckTask.new name statusCheckInterval 10 (3 / 2)).retriesLeft ≤ isizeMax
  delays : forall name entry,
    entry ∈ (DataSourceCheckTask.new name statusCheckInterval 10 (3 / 2)).retries ->
      0 ≤ entry.2.delayTillNext ∧ entry.2.delayTillNext ≤ durationMax
  runs : forall (wasmDir : WasmDir) (dataSources : List ProxyDataSource) (maxRetries : Nat)
    (listenAddress : Option String) (codec : Codec) (daemon : Daemon),
    Reaches (Daemon.step (.init wasmDir dataSources maxRetries listenAddress statusCheckInterval)
      codec) anyStep .initial daemon ->
    (daemon.status.task = .panicked -> ProxyService.statusRequestV2 codec = .panicked) ∧
    forall task, task ∈ daemon.status.tasks ->
      0 ≤ task.delayTillNext ∧ task.delayTillNext ≤ durationMax

variable {name : Name} {totalChecksDuration initialDelay : Duration} {backoffFactor : Rat}

/-! ## The retries -/

/-- A delay is a power of the factor away from the first one, and the exponent
is no larger than the number of retries. -/
theorem delayTillNext_retries {entry : Duration × DataSourceCheckTask}
    (inside : entry ∈
      (DataSourceCheckTask.new name totalChecksDuration initialDelay backoffFactor).retries) :
    Exists fun retry : Nat => entry.2.delayTillNext = initialDelay * backoffFactor ^ retry ∧
      (retry : Int) ≤ (DataSourceCheckTask.new name totalChecksDuration initialDelay
        backoffFactor).retriesLeft := by
  by_cases none : (DataSourceCheckTask.new name totalChecksDuration initialDelay
      backoffFactor).retriesLeft ≤ 0
  · rw [DataSourceCheckTask.retries_of_none (DataSourceCheckTask.next_of_nonpos none)] at inside
    cases inside
  rw [not_le] at none
  have every := @DataSourceCheckTask.forall_retries _ (fun task : DataSourceCheckTask =>
    task.backoffFactor = backoffFactor ∧ 0 ≤ task.retriesLeft ∧ Exists fun retry : Nat =>
      task.delayTillNext = initialDelay * backoffFactor ^ retry ∧ retry + task.retriesLeft =
        (DataSourceCheckTask.new name totalChecksDuration initialDelay backoffFactor).retriesLeft)
    ⟨rfl, none.le, 0, by rw [pow_zero, mul_one]; rfl, zero_add _⟩ ?_ entry inside
  · rcases every with ⟨_, left, retry, delay, count⟩
    exact ⟨retry, delay, by omega⟩
  · rintro before delay after ⟨factor, _, retry, same, count⟩ next
    obtain ⟨more, _, rfl⟩ := DataSourceCheckTask.next_eq_some_iff.mp next
    refine ⟨factor, Int.sub_nonneg_of_le more, retry + 1, ?_, ?_⟩
    · simp only [same, factor, pow_succ, mul_assoc]
    · push_cast
      omega

/-- No delay is longer than the time given to all retries. -/
theorem delayTillNext_le (given : 0 ≤ totalChecksDuration) (delayed : 0 < initialDelay)
    (growing : 1 < backoffFactor) {entry : Duration × DataSourceCheckTask}
    (inside : entry ∈
      (DataSourceCheckTask.new name totalChecksDuration initialDelay backoffFactor).retries) :
    0 ≤ entry.2.delayTillNext ∧ entry.2.delayTillNext ≤ totalChecksDuration := by
  rcases delayTillNext_retries inside with ⟨retry, delay, few⟩
  have left := @retriesLeft_new_eq name _ _ _ given delayed growing
  have greatest := isGreatest_fits given delayed growing
  have some : 0 < (DataSourceCheckTask.new name totalChecksDuration initialDelay
      backoffFactor).retriesLeft := by
    by_contra none
    rw [DataSourceCheckTask.retries_of_none
      (DataSourceCheckTask.next_of_nonpos (not_lt.mp none))] at inside
    cases inside
  have positive : 0 < backoffFactor := one_pos.trans growing
  rw [delay]
  refine ⟨by positivity, le_trans ?_ greatest.1⟩
  rw [left] at few some
  apply Finset.single_le_sum (f := fun retry => initialDelay * backoffFactor ^ retry)
  · intro retry _
    positivity
  · rw [Finset.mem_range]
    omega

theorem retriesLeft_new_le (given : 0 ≤ totalChecksDuration) (delayed : 0 < initialDelay)
    (growing : 1 < backoffFactor) :
    (DataSourceCheckTask.new name totalChecksDuration initialDelay backoffFactor).retriesLeft ≤
      ⌊totalChecksDuration / initialDelay⌋₊ := by
  have factor : backoffFactor - 1 ≠ 0 := (sub_pos.mpr growing).ne'
  have argument : (1 + (backoffFactor - 1) * totalChecksDuration / initialDelay - 1) /
      (backoffFactor - 1) = totalChecksDuration / initialDelay := by
    rw [add_sub_cancel_left, mul_div_assoc, mul_div_cancel_left₀ _ factor]
  have few : floorLog backoffFactor
      (1 + (backoffFactor - 1) * totalChecksDuration / initialDelay) ≤
        ⌊totalChecksDuration / initialDelay⌋₊ := by
    rw [← argument]
    exact Nat.findGreatest_le _
  rw [retriesLeft_new_eq given delayed growing]
  omega

/-! ## The runs -/

/-- The check of a tick or one of the retries that may follow it. -/
def OnPlan (service : ProxyService) (task : DataSourceCheckTask) : Prop :=
  Exists fun name => task = .new name service.statusCheckInterval 10 (3 / 2) ∨
    Exists fun delay => (delay, task) ∈
      (DataSourceCheckTask.new name service.statusCheckInterval 10 (3 / 2)).retries

theorem OnPlan.next {service : ProxyService} {task retry : DataSourceCheckTask} {delay : Duration}
    (onPlan : OnPlan service task) (given : task.next = some (delay, retry)) :
    OnPlan service retry := by
  rcases onPlan with ⟨name, rfl | ⟨before, inside⟩⟩
  · exact ⟨name, Or.inr ⟨delay, DataSourceCheckTask.mem_retries_of_next given⟩⟩
  · exact ⟨name, Or.inr ⟨delay, DataSourceCheckTask.next_mem_retries inside given⟩⟩

theorem onPlan_of_reaches {service : ProxyService} {codec : Codec} {observed : Observed}
    (reached : Reaches (Observed.step service codec) anyStep .initial observed) :
    forall task, task ∈ observed.status.tasks -> OnPlan service task := by
  apply reached.invariant
  · exact fun _ inside => absurd inside List.not_mem_nil
  · intro before action after _ onPlan _ taken task member
    cases Observed.step_spec taken with
    | spawned receiver rests =>
        rw [Status.tasks_spawned rests] at member
        exact onPlan task member
    | taken shutdown action status messages effect =>
        rcases effect.tasks_cases member with old | new | ⟨failed, inside, delay, given⟩
        · exact onPlan task old
        · rcases List.mem_map.mp new with ⟨entry, _, rfl⟩
          exact ⟨entry.1, Or.inl rfl⟩
        · exact (onPlan failed inside).next given

/-! ## The interval -/

theorem delay_of_plan {statusCheckInterval : Duration} (given : 0 ≤ statusCheckInterval)
    (small : statusCheckInterval ≤ 2 ^ 64 - 1) {entry : Duration × DataSourceCheckTask}
    (inside : entry ∈ (DataSourceCheckTask.new name statusCheckInterval 10 (3 / 2)).retries) :
    0 ≤ entry.2.delayTillNext ∧ entry.2.delayTillNext ≤ durationMax := by
  have within := delayTillNext_le given (by norm_num) (by norm_num) inside
  refine ⟨within.1, within.2.trans (small.trans ?_)⟩
  rw [durationMax]
  norm_num

/-- A whole number of seconds that `u64` can hold will do, unless it is none. -/
theorem runsWith_iff {statusCheckInterval : Duration} (given : 0 ≤ statusCheckInterval)
    (small : statusCheckInterval ≤ 2 ^ 64 - 1) :
    RunsWith statusCheckInterval ↔ statusCheckInterval ≠ 0 := by
  constructor
  · rintro runs rfl
    have starts := runs.starts ⟨∅, ∅, 0, none, 0⟩ .empty 0 rfl
    cases starts
  · intro period
    refine ⟨?_, fun name => ⟨?_, ?_⟩, fun name entry => delay_of_plan given small, ?_⟩
    · rintro service status receiver rfl
      simp only [Status.spawned, if_neg period]
    · rw [retriesLeft_new_eq given (by norm_num) (by norm_num)]
      exact Int.natCast_nonneg _
    · refine (retriesLeft_new_le given (by norm_num) (by norm_num)).trans ?_
      have bound : ⌊statusCheckInterval / 10⌋₊ < 2 ^ 63 := by
        rw [Nat.floor_lt (by positivity)]
        push_cast
        linarith
      unfold isizeMax
      omega
    · intro wasmDir dataSources maxRetries listenAddress codec daemon reached
      rcases Daemon.observed_of_reaches reached with ⟨observed, same, observing⟩
      have configured := configured_of_reaches (ProxyService.init_complete _ _ _ _ _) observing
      have plans := onPlan_of_reaches observing
      rw [same] at configured plans
      refine ⟨fun lost => (configured.panicked lost).resolve_left period, fun task member => ?_⟩
      rcases plans task member with ⟨name, rfl | ⟨delay, inside⟩⟩
      · exact ⟨by norm_num [DataSourceCheckTask.new],
          by norm_num [DataSourceCheckTask.new, durationMax]⟩
      · exact delay_of_plan given small inside

/-- Every interval that the command line accepts is one to run with, as long as
its seconds are not a multiple of what 64 bits can count.  With overflow checks
zero is the only one of these that is accepted. -/
theorem accepted_runsWith_iff (overflowChecks : Bool) (s : String) :
    (forall statusCheckInterval,
      IntervalDuration.fromStr overflowChecks s = .returned (.ok statusCheckInterval) ->
        RunsWith statusCheckInterval) ↔
      forall number unit, IsInterval s number unit ->
        if overflowChecks then number ≠ 0 else ¬ 2 ^ 64 ∣ number * unit.length := by
  have runs (seconds : Nat) : RunsWith ((seconds % 2 ^ 64 : Nat) : Rat) ↔ ¬ 2 ^ 64 ∣ seconds := by
    have below : seconds % 2 ^ 64 + 1 ≤ 2 ^ 64 := Nat.mod_lt _ (by decide)
    have small : ((seconds % 2 ^ 64 : Nat) : Rat) ≤ 2 ^ 64 - 1 := by
      rw [le_sub_iff_add_le]
      exact_mod_cast below
    rw [runsWith_iff (Nat.cast_nonneg _) small, ne_eq, Nat.cast_eq_zero, Nat.dvd_iff_mod_eq_zero]
  have length (unit : TimeUnit) : 0 < unit.length := by cases unit <;> decide
  constructor
  · intro claim number unit interval
    have result := @fromStr_of_isInterval overflowChecks s unit number interval
    cases overflowChecks with
    | false => exact (runs _).mp (claim _ result)
    | true =>
        rintro rfl
        rw [Nat.zero_mul] at result
        exact (runs 0).mp (claim _ result) (dvd_zero _)
  · intro nonzero statusCheckInterval accepted
    have noPanic : splitLast overflowChecks s.toList ≠ .panicked := by
      intro panics
      rw [IntervalDuration.fromStr, panics] at accepted
      cases accepted
    rcases isInterval_or_error noPanic with ⟨number, unit, interval⟩ | ⟨err, rejected⟩
    · have result := @fromStr_of_isInterval overflowChecks s unit number interval
      rw [accepted] at result
      split at result
      · cases result
      · next fits =>
          cases result
          rw [runs]
          have condition := nonzero number unit interval
          cases overflowChecks with
          | false => exact condition
          | true =>
              have below : number * unit.length < 2 ^ 64 := by
                by_contra large
                exact fits ⟨rfl, Nat.not_lt.mp large⟩
              exact Nat.not_dvd_of_pos_of_lt
                (Nat.mul_pos (Nat.pos_of_ne_zero condition) (length unit)) below
    · rw [accepted] at rejected
      cases rejected

/-- The command line accepts an interval of no length, with which the status task
panics. -/
theorem zero_accepted :
    IntervalDuration.fromStr true "0s" = .returned (.ok 0) ∧
    (forall (service : ProxyService) (status : Status) (receiver : Nat),
      service.statusCheckInterval = 0 -> (status.spawned service receiver).task = .panicked) ∧
    ¬ forall (overflowChecks : Bool) (s : String) (statusCheckInterval : Duration),
      IntervalDuration.fromStr overflowChecks s = .returned (.ok statusCheckInterval) ->
        RunsWith statusCheckInterval := by
  have accepted : IntervalDuration.fromStr true "0s" = .returned (.ok 0) := by decide
  refine ⟨accepted, ?_, fun claim => ?_⟩
  · intro service status receiver zero
    simp only [Status.spawned, if_pos zero]
  · exact (runsWith_iff le_rfl (by norm_num)).mp (claim true "0s" 0 accepted) rfl

end Cli
end Fpd
