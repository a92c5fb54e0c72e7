import Fpd.Service.Init
import Mathlib.Analysis.SpecialFunctions.Log.Base

namespace Fpd
namespace Service

/-!
# Retrying a status check

A check of a data source comes with the retries that may follow it.  Their
number is such that, with delays that grow geometrically from the first one,
the last retry still falls into the time given to all of them together.
-/

/-- The floor of the logarithm of `argument` to `base`: the largest exponent
whose power is at most `argument`. -/
def floorLog (base argument : Rat) : Nat :=
  Nat.findGreatest (fun exponent => base ^ exponent ≤ argument) ⌊(argument - 1) / (base - 1)⌋₊

structure DataSourceCheckTask where
  name : Name
  retriesLeft : Int
  delayTillNext : Duration
  backoffFactor : Rat
  deriving DecidableEq

namespace DataSourceCheckTask

def new (name : Name) (totalChecksDuration initialDelay : Duration) (backoffFactor : Rat) :
    DataSourceCheckTask where
  name := name
  retriesLeft :=
    if totalChecksDuration < initialDelay then 0
    else floorLog backoffFactor
      (1 + (backoffFactor - 1) * totalChecksDuration / initialDelay) - 1
  delayTillNext := initialDelay
  backoffFactor := backoffFactor

/-- The next check and the delay before it. -/
def next (task : DataSourceCheckTask) : Option (Duration × DataSourceCheckTask) :=
  if task.retriesLeft ≤ 0 then none
  else some (task.delayTillNext, { task with
    retriesLeft := task.retriesLeft - 1
    delayTillNext := task.delayTillNext * task.backoffFactor })

end DataSourceCheckTask

/-! ## The logarithm -/

variable {base argument : Rat} {exponent : Nat}

/-- Powers grow at least as fast as the bound of the search allows. -/
theorem exponent_le_of_pow_le (growing : 1 < base) (small : base ^ exponent ≤ argument) :
    exponent ≤ ⌊(argument - 1) / (base - 1)⌋₊ := by
  have positive : 0 < base - 1 := sub_pos.mpr growing
  have bernoulli : 1 + (exponent : Rat) * (base - 1) ≤ base ^ exponent := by
    have grown := one_add_mul_le_pow (by linarith : -2 ≤ base - 1) exponent
    rwa [add_sub_cancel] at grown
  apply Nat.le_floor
  rw [le_div_iff₀ positive]
  linarith

theorem le_floorLog_iff (growing : 1 < base) (large : 1 ≤ argument) :
    exponent ≤ floorLog base argument ↔ base ^ exponent ≤ argument := by
  constructor
  · intro below
    have zeroth : base ^ 0 ≤ argument := by rwa [pow_zero]
    have found : base ^ floorLog base argument ≤ argument :=
      Nat.findGreatest_spec (P := fun exponent => base ^ exponent ≤ argument) (Nat.zero_le _) zeroth
    exact (pow_le_pow_right₀ growing.le below).trans found
  · intro small
    exact Nat.le_findGreatest (exponent_le_of_pow_le growing small) small

/-- `floorLog` is what `(argument.ln() / base.ln()).floor()` is without
rounding. -/
theorem floorLog_eq_floor_logb (growing : 1 < base) (large : 1 ≤ argument) :
    (floorLog base argument : Int) = ⌊Real.log argument / Real.log base⌋ := by
  have growingReal : (1 : Real) < base := by exact_mod_cast growing
  have positive : (0 : Real) < argument := by exact_mod_cast lt_of_lt_of_le one_pos large
  have below (exponent : Nat) :
      (exponent : Real) ≤ Real.log argument / Real.log base ↔
        exponent ≤ floorLog base argument := by
    rw [le_floorLog_iff growing large, Real.log_div_log,
      Real.le_logb_iff_rpow_le growingReal positive, Real.rpow_natCast]
    exact_mod_cast Iff.rfl
  symm
  rw [Int.floor_eq_iff]
  constructor
  · exact_mod_cast (below _).mpr le_rfl
  · by_contra reached
    rw [not_lt] at reached
    have next := (below (floorLog base argument + 1)).mp (by exact_mod_cast reached)
    exact Nat.not_succ_le_self _ next

/-- The number of retries is the one of the formula for a geometric series. -/
theorem DataSourceCheckTask.retriesLeft_new (name : Name)
    {totalChecksDuration initialDelay : Duration} {backoffFactor : Rat}
    (growing : 1 < backoffFactor) (delayed : 0 < initialDelay) :
    (new name totalChecksDuration initialDelay backoffFactor).retriesLeft =
      if totalChecksDuration < initialDelay then 0
      else ⌊Real.log (1 + (backoffFactor - 1) * totalChecksDuration / initialDelay : Rat) /
        Real.log backoffFactor⌋ - 1 := by
  unfold new
  by_cases short : totalChecksDuration < initialDelay
  · rw [if_pos short, if_pos short]
  · have total : 0 ≤ totalChecksDuration := delayed.le.trans (not_lt.mp short)
    have large : 1 ≤ 1 + (backoffFactor - 1) * totalChecksDuration / initialDelay := by
      have positive : 0 ≤ backoffFactor - 1 := (sub_pos.mpr growing).le
      exact le_add_of_nonneg_right (by positivity)
    rw [if_neg short, if_neg short, floorLog_eq_floor_logb growing large]

/-! ## The time that the retries take -/

namespace DataSourceCheckTask

/-- The delays before all the retries that may still follow, added up. -/
def span (task : DataSourceCheckTask) : Duration :=
  ∑ retry ∈ Finset.range task.retriesLeft.toNat, task.delayTillNext * task.backoffFactor ^ retry

/-- The delays of the task and of its retries have a length. -/
structure Paced (task : DataSourceCheckTask) : Prop where
  delayed : 0 < task.delayTillNext
  growing : 1 < task.backoffFactor

variable {task retry : DataSourceCheckTask} {name : Name}
  {totalChecksDuration initialDelay delay : Duration} {backoffFactor : Rat}

theorem Paced.span_nonneg (paced : task.Paced) : 0 ≤ task.span := by
  apply Finset.sum_nonneg
  intro retry _
  have delayed := paced.delayed.le
  have growing := (one_pos.trans paced.growing).le
  positivity

theorem next_eq_some_iff : task.next = some (delay, retry) ↔
    0 < task.retriesLeft ∧ delay = task.delayTillNext ∧
      retry = { task with
        retriesLeft := task.retriesLeft - 1
        delayTillNext := task.delayTillNext * task.backoffFactor } := by
  unfold next
  by_cases more : 0 < task.retriesLeft
  · rw [if_neg (not_le.mpr more), Option.some.injEq, Prod.mk.injEq]
    constructor
    · rintro ⟨rfl, rfl⟩
      exact ⟨more, rfl, rfl⟩
    · rintro ⟨_, rfl, rfl⟩
      exact ⟨rfl, rfl⟩
  · rw [if_pos (not_lt.mp more)]
    constructor
    · intro none
      cases none
    · exact fun spec => absurd spec.1 more

theorem Paced.next (paced : task.Paced) (retried : task.next = some (delay, retry)) :
    retry.Paced := by
  obtain ⟨_, _, rfl⟩ := next_eq_some_iff.mp retried
  exact ⟨mul_pos paced.delayed (one_pos.trans paced.growing), paced.growing⟩

/-- A retry takes the time before it out of what is left. -/
theorem span_next (retried : task.next = some (delay, retry)) :
    delay = task.delayTillNext ∧ task.span = delay + retry.span := by
  obtain ⟨more, rfl, rfl⟩ := next_eq_some_iff.mp retried
  have count : task.retriesLeft.toNat = (task.retriesLeft - 1).toNat + 1 := by omega
  refine ⟨rfl, ?_⟩
  rw [span, span, count, Finset.sum_range_succ', pow_zero, mul_one, add_comm]
  congr 1
  apply Finset.sum_congr rfl
  intro retry _
  rw [pow_succ]
  ring

theorem paced_new (delayed : 0 < initialDelay) (growing : 1 < backoffFactor) :
    (new name totalChecksDuration initialDelay backoffFactor).Paced :=
  ⟨delayed, growing⟩

/-- The number of retries stops the geometric series one term short of the time
given. -/
theorem pow_retriesLeft_new_lt (delayed : 0 < initialDelay) (growing : 1 < backoffFactor)
    (given : 0 < totalChecksDuration) :
    backoffFactor ^ (new name totalChecksDuration initialDelay backoffFactor).retriesLeft.toNat <
      1 + (backoffFactor - 1) * totalChecksDuration / initialDelay := by
  have factor : 0 < backoffFactor - 1 := sub_pos.mpr growing
  have above : 1 < 1 + (backoffFactor - 1) * totalChecksDuration / initialDelay :=
    lt_add_of_pos_right 1 (by positivity)
  unfold new
  by_cases short : totalChecksDuration < initialDelay
  · simpa only [if_pos short, Int.toNat_zero, pow_zero]
  · simp only [if_neg short]
    have found := (le_floorLog_iff growing above.le).mp le_rfl
    cases count : floorLog backoffFactor
        (1 + (backoffFactor - 1) * totalChecksDuration / initialDelay) with
    | zero => simpa using above
    | succ last =>
        rw [count] at found
        have fewer : ((last + 1 : Nat) - 1 : Int).toNat = last := by omega
        rw [fewer]
        exact (pow_lt_pow_right₀ growing (Nat.lt_succ_self last)).trans_le found

/-- The retries of a new task take less than the time given to them. -/
theorem span_new_lt (delayed : 0 < initialDelay) (growing : 1 < backoffFactor)
    (given : 0 < totalChecksDuration) :
    (new name totalChecksDuration initialDelay backoffFactor).span < totalChecksDuration := by
  have factor : 0 < backoffFactor - 1 := sub_pos.mpr growing
  have few := @pow_retriesLeft_new_lt name _ _ _ delayed growing given
  have series := geom_sum_mul backoffFactor
    (new name totalChecksDuration initialDelay backoffFactor).retriesLeft.toNat
  apply lt_of_mul_lt_mul_right _ factor.le
  calc (new name totalChecksDuration initialDelay backoffFactor).span * (backoffFactor - 1)
      = initialDelay * (backoffFactor ^
          (new name totalChecksDuration initialDelay backoffFactor).retriesLeft.toNat - 1) := by
        rw [span, ← Finset.mul_sum, mul_assoc, ← series]
        rfl
    _ < initialDelay * ((backoffFactor - 1) * totalChecksDuration / initialDelay) := by
        apply mul_lt_mul_of_pos_left _ delayed
        rw [sub_lt_iff_lt_add, add_comm]
        exact few
    _ = totalChecksDuration * (backoffFactor - 1) := by
        rw [mul_div_cancel₀ _ delayed.ne', mul_comm]

end DataSourceCheckTask

end Service
end Fpd
