import Mathlib.Algebra.BigOperators.Group.List.Basic
import Mathlib.Algebra.Order.Group.Multiset

namespace Fpd
namespace Async

/-!
# Tables of tasks

A table of tasks is a list, and a task is known by its position.  A step
replaces one entry or appends one.  These rules say what that does to a
property of all entries, to a column of the table and to a total over it.
-/

section Slots

variable {Task : Type*} {tasks : List Task} {here there : Nat} {task replaced found : Task}

/-- An entry of the table after a replacement is the new one or an old one. -/
theorem getElem?_set_cases (located : (tasks.set here replaced)[there]? = some found) :
    (there = here ∧ found = replaced) ∨ (there ≠ here ∧ tasks[there]? = some found) := by
  rw [List.getElem?_set] at located
  by_cases same : here = there
  · rw [if_pos same] at located
    by_cases inside : here < tasks.length
    · rw [if_pos inside, Option.some.injEq] at located
      exact Or.inl ⟨same.symm, located.symm⟩
    · rw [if_neg inside] at located
      cases located
  · rw [if_neg same] at located
    exact Or.inr ⟨Ne.symm same, located⟩

theorem getElem?_set_here (present : tasks[here]? = some task) :
    (tasks.set here replaced)[here]? = some replaced := by
  have inside : here < tasks.length := (List.getElem?_eq_some_iff.mp present).1
  rw [List.getElem?_set, if_pos rfl, if_pos inside]

theorem getElem?_set_there (different : there ≠ here) :
    (tasks.set here replaced)[there]? = tasks[there]? := by
  rw [List.getElem?_set, if_neg (Ne.symm different)]

/-- A column in which the new entry is the old one. -/
theorem map_set_same {Value : Type*} {view : Task -> Value} (present : tasks[here]? = some task)
    (same : view replaced = view task) : (tasks.set here replaced).map view = tasks.map view := by
  apply List.ext_getElem?
  intro there
  rw [List.getElem?_map, List.getElem?_map]
  by_cases own : there = here
  · rw [own, getElem?_set_here present, present, Option.map_some, Option.map_some, same]
  · rw [getElem?_set_there own]

/-- An entry of the table after an append is the new one or an old one. -/
theorem getElem?_append_cases (located : (tasks ++ [task])[there]? = some found) :
    (there = tasks.length ∧ found = task) ∨
      (there < tasks.length ∧ tasks[there]? = some found) := by
  by_cases inside : there < tasks.length
  · rw [List.getElem?_append_left inside] at located
    exact Or.inr ⟨inside, located⟩
  · rw [List.getElem?_append_right (Nat.le_of_not_lt inside)] at located
    rcases List.getElem?_eq_some_iff.mp located with ⟨short, same⟩
    have zero : there - tasks.length = 0 := by simpa using short
    simp only [zero, List.getElem_cons_zero] at same
    exact Or.inl ⟨by omega, same.symm⟩

/-- A total over the table changes by what the replaced entry contributed. -/
theorem sum_map_set {Total : Type*} [AddCommMonoid Total] {weight : Task -> Total}
    (present : tasks[here]? = some task) :
    ((tasks.set here replaced).map weight).sum + weight task =
      (tasks.map weight).sum + weight replaced := by
  induction tasks generalizing here with
  | nil => cases present
  | cons head tail inductionHypothesis =>
      cases here with
      | zero =>
          simp only [List.getElem?_cons_zero, Option.some.injEq] at present
          subst present
          simp only [List.set_cons_zero, List.map_cons, List.sum_cons]
          rw [add_right_comm, add_comm (weight replaced), add_right_comm]
      | succ here =>
          simp only [List.getElem?_cons_succ] at present
          simp only [List.set_cons_succ, List.map_cons, List.sum_cons, add_assoc]
          rw [inductionHypothesis present]

/-- A total to which only one entry contributes. -/
theorem sum_map_of_alone {Total : Type*} [AddCommMonoid Total] {weight : Task -> Total}
    (present : tasks[here]? = some task)
    (others : forall there found, there ≠ here -> tasks[there]? = some found -> weight found = 0) :
    (tasks.map weight).sum = weight task := by
  induction tasks generalizing here with
  | nil => cases present
  | cons head tail inductionHypothesis =>
      cases here with
      | zero =>
          simp only [List.getElem?_cons_zero, Option.some.injEq] at present
          have rest : (tail.map weight).sum = 0 := by
            apply List.sum_eq_zero
            intro value member
            rcases List.mem_map.mp member with ⟨found, inside, rfl⟩
            rcases List.getElem?_of_mem inside with ⟨there, located⟩
            exact others (there + 1) found (Nat.succ_ne_zero there) located
          rw [List.map_cons, List.sum_cons, rest, present, add_zero]
      | succ here =>
          have nothing : weight head = 0 := others 0 head (Nat.succ_ne_zero here).symm rfl
          rw [List.map_cons, List.sum_cons, nothing, zero_add]
          exact inductionHypothesis present fun there found different located =>
            others (there + 1) found (by omega) located

/-- What a replaced entry gives up and what the rest gains balance. -/
theorem sum_map_set_exchange {Total : Type*} [AddCancelCommMonoid Total] {weight : Task -> Total}
    (present : tasks[here]? = some task) {before after : Total}
    (exchange : after + weight replaced = before + weight task) :
    after + ((tasks.set here replaced).map weight).sum = before + (tasks.map weight).sum := by
  apply @add_right_cancel _ _ _ _ (weight task)
  calc after + ((tasks.set here replaced).map weight).sum + weight task
      = after + weight replaced + (tasks.map weight).sum := by
        rw [add_assoc, sum_map_set present, add_comm _ (weight replaced), ← add_assoc]
    _ = before + (tasks.map weight).sum + weight task := by
        rw [exchange, add_right_comm]

/-! ## A column of lists -/

section Columns

variable {Value : Type*} {view : Task -> List Value}

/-- A column in which only one entry is not empty. -/
theorem flatten_map_of_alone (present : tasks[here]? = some task)
    (others : forall there found, there ≠ here -> tasks[there]? = some found -> view found = []) :
    (tasks.map view).flatten = view task := by
  induction tasks generalizing here with
  | nil => cases present
  | cons head tail inductionHypothesis =>
      cases here with
      | zero =>
          simp only [List.getElem?_cons_zero, Option.some.injEq] at present
          have rest : (tail.map view).flatten = [] := by
            simp only [List.flatten_eq_nil_iff, List.mem_map]
            rintro values ⟨found, member, rfl⟩
            rcases List.getElem?_of_mem member with ⟨there, located⟩
            exact others (there + 1) found (Nat.succ_ne_zero there) located
          rw [List.map_cons, List.flatten_cons, rest, present, List.append_nil]
      | succ here =>
          have empty : view head = [] := others 0 head (Nat.succ_ne_zero here).symm rfl
          rw [List.map_cons, List.flatten_cons, empty, List.nil_append]
          exact inductionHypothesis present fun there found different located =>
            others (there + 1) found (by omega) located

/-- An entry that loses some of its values makes the column lose them. -/
theorem flatten_map_set_sublist (present : tasks[here]? = some task)
    (fewer : (view replaced).Sublist (view task)) :
    ((tasks.set here replaced).map view).flatten.Sublist (tasks.map view).flatten := by
  induction tasks generalizing here with
  | nil => cases present
  | cons head tail inductionHypothesis =>
      cases here with
      | zero =>
          simp only [List.getElem?_cons_zero, Option.some.injEq] at present
          subst present
          exact fewer.append (List.Sublist.refl _)
      | succ here => exact (List.Sublist.refl _).append (inductionHypothesis present)

end Columns

end Slots

/-! ## Two tables whose entries belong together -/

section Pairs

variable {Left Right : Type*} {fits : Left -> Right -> Prop} {lefts : List Left}
  {rights : List Right} {here : Nat} {left : Left} {right : Right}

theorem forall₂_eraseIdx (every : List.Forall₂ fits lefts rights) :
    List.Forall₂ fits (lefts.eraseIdx here) (rights.eraseIdx here) := by
  induction every generalizing here with
  | nil => exact .nil
  | cons first _ inductionHypothesis =>
      cases here with
      | zero => assumption
      | succ here => exact .cons first inductionHypothesis

theorem fits_of_forall₂ (every : List.Forall₂ fits lefts rights)
    (leftHere : lefts[here]? = some left) (rightHere : rights[here]? = some right) :
    fits left right := by
  induction every generalizing here with
  | nil => cases leftHere
  | cons first _ inductionHypothesis =>
      cases here with
      | zero =>
          simp only [List.getElem?_cons_zero, Option.some.injEq] at leftHere rightHere
          exact leftHere ▸ rightHere ▸ first
      | succ here => exact inductionHypothesis leftHere rightHere

end Pairs

end Async
end Fpd
