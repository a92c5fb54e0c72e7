import Fpd.Service.StatusCheck

namespace Fpd
namespace Service

/-!
# The plan of the retries

A task whose checks all fail is retried until `next` has nothing more to give.
The delays on the way are a geometric series, of which the count in `new` takes
one term less than fit into the total.
-/

/-! ## Geometric series -/

/-- The first `count` delays take no longer than the total. -/
def Fits (totalChecksDuration initialDelay : Duration) (backoffFactor : Rat) (count : Nat) : Prop :=
  ∑ retry ∈ Finset.range count, initialDelay * backoffFactor ^ retry ≤ totalChecksDuration

section Series

variable {totalChecksDuration initialDelay : Duration} {backoffFactor : Rat} {count : Nat}

theorem fits_iff (delayed : 0 < initialDelay) (growing : 1 < backoffFactor) :
    Fits totalChecksDuration initialDelay backoffFactor count ↔
      backoffFactor ^ count ≤ 1 + (backoffFactor - 1) * totalChecksDuration / initialDelay := by
  have factor : 0 < backoffFactor - 1 := sub_pos.mpr growing
  have series := geom_sum_eq growing.ne' count
  unfold Fits
  rw [← Finset.mul_sum, series, ← sub_le_iff_le_add', le_div_iff₀ delayed, mul_div_assoc',
    div_le_iff₀ factor, mul_comm initialDelay, mul_comm totalChecksDuration]

/-- The count of `new` is the logarithm of the formula, even if nothing fits. -/
theorem isGreatest_fits (given : 0 ≤ totalChecksDuration) (delayed : 0 < initialDelay)
    (growing : 1 < backoffFactor) :
    IsGreatest { count | Fits totalChecksDuration initialDelay backoffFactor count }
      (floorLog backoffFactor
        (1 + (backoffFactor - 1) * totalChecksDuration / initialDelay)) := by
  have factor : 0 ≤ backoffFactor - 1 := (sub_pos.mpr growing).le
  have large : 1 ≤ 1 + (backoffFactor - 1) * totalChecksDuration / initialDelay :=
    le_add_of_nonneg_right (by positivity)
  constructor
  · exact (fits_iff delayed growing).mpr ((le_floorLog_iff growing large).mp le_rfl)
  · intro count fits
    exact (le_floorLog_iff growing large).mpr ((fits_iff delayed growing).mp fits)

/-- One delay fits unless the first one is too long. -/
theorem fits_one_iff : Fits totalChecksDuration initialDelay backoffFactor 1 ↔
    initialDelay ≤ totalChecksDuration := by
  rw [Fits, Finset.sum_range_one, pow_zero, mul_one]

theorem fits_mono {fewer : Nat} (delayed : 0 < initialDelay) (growing : 1 < backoffFactor)
    (le : fewer ≤ count) (fits : Fits totalChecksDuration initialDelay backoffFactor count) :
    Fits totalChecksDuration initialDelay backoffFactor fewer := by
  refine le_trans (Finset.sum_le_sum_of_subset_of_nonneg (Finset.range_mono le) ?_) fits
  intro retry _ _
  have positive : 0 < backoffFactor := one_pos.trans growing
  positivity

end Series

/-! ## The retries of a task -/

namespace DataSourceCheckTask

variable {task retry : DataSourceCheckTask} {delay : Duration}

/-- What `next` gives, again and again, with the delay before each retry. -/
def retries (task : DataSourceCheckTask) : List (Duration × DataSourceCheckTask) :=
  match _given : task.next with
  | none => []
  | some (delay, retry) => (delay, retry) :: retry.retries
termination_by task.retriesLeft.toNat
decreasing_by
  obtain ⟨more, _, rfl⟩ := next_eq_some_iff.mp _given
  simp only
  omega

theorem retries_of_none (none : task.next = none) : task.retries = [] := by
  rw [retries]
  split
  · rfl
  · next given => rw [none] at given; cases given

theorem retries_of_some (given : task.next = some (delay, retry)) :
    task.retries = (delay, retry) :: retry.retries := by
  rw [retries]
  split
  · next none => rw [none] at given; cases given
  · next given' =>
      rw [given] at given'
      cases given'
      rfl

theorem next_of_nonpos (few : task.retriesLeft ≤ 0) : task.next = none :=
  if_pos few

/-- What `next` keeps holds of every retry. -/
theorem forall_retries {holds : DataSourceCheckTask -> Prop} (initially : holds task)
    (kept : forall before delay after, holds before -> before.next = some (delay, after) ->
      holds after) : forall entry, entry ∈ task.retries -> holds entry.2 := by
  induction task using retries.induct with
  | case1 task none =>
      rw [retries_of_none none]
      exact fun _ inside => absurd inside List.not_mem_nil
  | case2 task delay retry given inductionHypothesis =>
      rw [retries_of_some given]
      have next : holds retry := kept task delay retry initially given
      intro entry inside
      rcases List.mem_cons.mp inside with rfl | later
      · exact next
      · exact inductionHypothesis next entry later

theorem mem_retries_of_next (given : task.next = some (delay, retry)) :
    (delay, retry) ∈ task.retries := by
  rw [retries_of_some given]
  exact List.mem_cons_self

/-- A retry of a retry is one of the task. -/
theorem next_mem_retries {entry later : Duration × DataSourceCheckTask}
    (inside : entry ∈ task.retries) (given : entry.2.next = some later) :
    later ∈ task.retries := by
  induction task using retries.induct with
  | case1 task none =>
      rw [retries_of_none none] at inside
      cases inside
  | case2 task delay retry first inductionHypothesis =>
      rw [retries_of_some first] at inside ⊢
      rcases List.mem_cons.mp inside with rfl | further
      · exact List.mem_cons_of_mem _ (mem_retries_of_next given)
      · exact List.mem_cons_of_mem _ (inductionHypothesis further)

/-- The delays are as many as there are retries left, and they grow by the
factor. -/
theorem delays_retries (task : DataSourceCheckTask) :
    task.retries.map Prod.fst = (List.range task.retriesLeft.toNat).map
      fun retry => task.delayTillNext * task.backoffFactor ^ retry := by
  induction task using retries.induct with
  | case1 task none =>
      have few : task.retriesLeft ≤ 0 := by
        by_contra more
        have given := next_eq_some_iff.mpr ⟨not_le.mp more, rfl, rfl⟩
        rw [none] at given
        cases given
      rw [retries_of_none none, Int.toNat_of_nonpos few]
      rfl
  | case2 task delay retry given inductionHypothesis =>
      rw [retries_of_some given]
      obtain ⟨more, rfl, rfl⟩ := next_eq_some_iff.mp given
      have count : task.retriesLeft.toNat = (task.retriesLeft - 1).toNat + 1 := by omega
      rw [List.map_cons, inductionHypothesis, count, List.range_succ_eq_map, List.map_cons,
        List.map_map, pow_zero, mul_one]
      congr 1
      apply List.map_congr_left
      intro retry _
      simp only [Function.comp_apply, Nat.succ_eq_add_one, pow_succ']
      rw [mul_assoc]

theorem length_retries (task : DataSourceCheckTask) :
    task.retries.length = task.retriesLeft.toNat := by
  have lengths := congrArg List.length task.delays_retries
  rwa [List.length_map, List.length_map, List.length_range] at lengths

end DataSourceCheckTask

/-! ## The plan of a new task -/

variable {name : Name} {totalChecksDuration initialDelay : Duration} {backoffFactor : Rat}
  {count : Nat}

/-- The plan for a total into which `count` delays fit. -/
structure AsDocumented (name : Name) (totalChecksDuration initialDelay : Duration)
    (backoffFactor : Rat) (count : Nat) (task : DataSourceCheckTask) : Prop where
  number : task.retries.length = count - 1
  left : 0 ≤ task.retriesLeft ∧ forall entry, entry ∈ task.retries -> 0 ≤ entry.2.retriesLeft
  names : task.name = name ∧ forall entry, entry ∈ task.retries -> entry.2.name = name
  delays : task.retries.map Prod.fst =
    (List.range (count - 1)).map fun retry => initialDelay * backoffFactor ^ retry
  grow : (task.retries.map Prod.fst).Pairwise (· < ·)
  total : (task.retries.map Prod.fst).sum ≤ totalChecksDuration

theorem retriesLeft_new_eq (given : 0 ≤ totalChecksDuration) (delayed : 0 < initialDelay)
    (growing : 1 < backoffFactor) :
    (DataSourceCheckTask.new name totalChecksDuration initialDelay backoffFactor).retriesLeft =
      ((floorLog backoffFactor
        (1 + (backoffFactor - 1) * totalChecksDuration / initialDelay) - 1 : Nat) : Int) := by
  have greatest := isGreatest_fits given delayed growing
  unfold DataSourceCheckTask.new
  by_cases short : totalChecksDuration < initialDelay
  · have nothing : floorLog backoffFactor
        (1 + (backoffFactor - 1) * totalChecksDuration / initialDelay) < 1 := by
      by_contra some
      have one := fits_mono delayed growing (not_lt.mp some) greatest.1
      exact absurd (fits_one_iff.mp one) (not_le.mpr short)
    simp only [if_pos short]
    omega
  · have one := greatest.2 (fits_one_iff.mpr (not_lt.mp short))
    simp only [if_neg short]
    omega

theorem sum_delays (count : Nat) :
    ((List.range count).map fun retry => initialDelay * backoffFactor ^ retry).sum =
      ∑ retry ∈ Finset.range count, initialDelay * backoffFactor ^ retry := by
  induction count with
  | zero => rfl
  | succ count inductionHypothesis =>
      rw [List.range_succ, List.map_append, List.sum_append, inductionHypothesis,
        Finset.sum_range_succ, List.map_singleton, List.sum_singleton]

theorem delays_grow (delayed : 0 < initialDelay) (growing : 1 < backoffFactor) (count : Nat) :
    ((List.range count).map fun retry =>
      initialDelay * backoffFactor ^ retry).Pairwise (· < ·) := by
  rw [List.pairwise_map]
  refine List.pairwise_lt_range.imp fun {earlier later} before => ?_
  exact mul_lt_mul_of_pos_left (pow_lt_pow_right₀ growing before) delayed

/-- With the largest number of delays that fit, the plan takes one retry less,
and all that the constructor and the tests promise. -/
theorem retryPlan_asDocumented (name : Name) (totalChecksDuration initialDelay : Duration)
    (backoffFactor : Rat) (given : 0 ≤ totalChecksDuration) (delayed : 0 < initialDelay)
    (growing : 1 < backoffFactor) :
    Exists fun count =>
      IsGreatest { count | Fits totalChecksDuration initialDelay backoffFactor count } count ∧
        AsDocumented name totalChecksDuration initialDelay backoffFactor count
          (.new name totalChecksDuration initialDelay backoffFactor) := by
  have greatest := isGreatest_fits given delayed growing
  have left := @retriesLeft_new_eq name _ _ _ given delayed growing
  have delays := (DataSourceCheckTask.new name totalChecksDuration initialDelay
    backoffFactor).delays_retries
  refine ⟨_, greatest, ?_⟩
  generalize floorLog backoffFactor
    (1 + (backoffFactor - 1) * totalChecksDuration / initialDelay) = count at greatest left ⊢
  rw [left, Int.toNat_natCast] at delays
  constructor
  · rw [DataSourceCheckTask.length_retries, left, Int.toNat_natCast]
  · have nonneg := Int.natCast_nonneg (count - 1)
    rw [← left] at nonneg
    refine ⟨nonneg, @DataSourceCheckTask.forall_retries _
      (fun task => 0 ≤ task.retriesLeft) nonneg ?_⟩
    intro before delay after _ next
    obtain ⟨more, _, rfl⟩ := DataSourceCheckTask.next_eq_some_iff.mp next
    exact Int.sub_nonneg_of_le more
  · refine ⟨rfl, @DataSourceCheckTask.forall_retries _ (fun task => task.name = name) rfl ?_⟩
    intro before delay after same next
    obtain ⟨_, _, rfl⟩ := DataSourceCheckTask.next_eq_some_iff.mp next
    exact same
  · exact delays
  · rw [delays]
    exact delays_grow delayed growing _
  · rw [delays]
    refine (sum_delays (count - 1)).trans_le ?_
    exact fits_mono delayed growing (Nat.sub_le _ _) greatest.1

/-- Five minutes, from ten seconds on, each delay half as long again. -/
theorem retryPlan_asDocumented_fiveMinutes :
    Exists fun count => IsGreatest { count | Fits 300 10 (3 / 2) count } count ∧
      AsDocumented "metrics" 300 10 (3 / 2) count (.new "metrics" 300 10 (3 / 2)) :=
  retryPlan_asDocumented "metrics" 300 10 (3 / 2) (by norm_num) (by norm_num) (by norm_num)

end Service
end Fpd
