import Mathlib.Tactic.TypeStar

namespace Fpd
namespace Async

/-!
# Machines whose nondeterminism is named

A machine is a partial step function on states and actions.  Everything that
a scheduler, a peer or a caller may decide is part of the action, so a run is
a list of actions and can be evaluated.  A law about every interleaving is a
law about every state that some list of actions reaches.

`Reaches` carries a condition that each step of the run meets, on the state
before the step and on the action.  The condition `anyStep` gives all runs;
other conditions single out the runs on which some branch is not taken.
-/

section Machine

variable {State : Type*} {Action : Type*} {step : State -> Action -> Option State}
  {allowed stronger : State -> Action -> Prop} {first state later : State}

/-- The condition that every step meets. -/
def anyStep (_ : State) (_ : Action) : Prop := True

/-- The states at the end of a run from `first` whose steps are all allowed. -/
inductive Reaches (step : State -> Action -> Option State)
    (allowed : State -> Action -> Prop) (first : State) : State -> Prop
  | refl : Reaches step allowed first first
  | tail {before after : State} {action : Action} :
      Reaches step allowed first before -> allowed before action ->
      step before action = some after -> Reaches step allowed first after

namespace Reaches

/-- A property of the first state that each allowed step of a run preserves
holds at the end of the run.  The step may use that its source is reached. -/
theorem invariant {holds : State -> Prop} (reached : Reaches step allowed first state)
    (initially : holds first)
    (preserved : forall before action after, Reaches step allowed first before ->
      holds before -> allowed before action -> step before action = some after -> holds after) :
    holds state := by
  induction reached with
  | refl => exact initially
  | tail earlier permitted taken inductionHypothesis =>
      exact preserved _ _ _ earlier inductionHypothesis permitted taken

/-- A weaker condition admits every run of a stronger one. -/
theorem mono (reached : Reaches step stronger first state)
    (weaker : forall before action, stronger before action -> allowed before action) :
    Reaches step allowed first state := by
  induction reached with
  | refl => exact .refl
  | tail _ permitted taken inductionHypothesis =>
      exact .tail inductionHypothesis (weaker _ _ permitted) taken

theorem trans (reached : Reaches step allowed first state)
    (onwards : Reaches step allowed state later) : Reaches step allowed first later := by
  induction onwards with
  | refl => exact reached
  | tail _ permitted taken inductionHypothesis => exact .tail inductionHypothesis permitted taken

end Reaches

/-- While the goal is not reached some allowed step makes the weight smaller, so
some run reaches the goal. -/
theorem exists_reaches_of_weight {holds goal : State -> Prop} (weight : State -> Nat)
    (progress : forall state, holds state -> goal state ∨ Exists fun action => Exists fun next =>
      allowed state action ∧ step state action = some next ∧ holds next ∧
        weight next < weight state)
    (initially : holds first) :
    Exists fun last => Reaches step allowed first last ∧ goal last := by
  induction bound : weight first using Nat.strongRecOn generalizing first with
  | ind size inductionHypothesis =>
      rcases progress first initially with done | ⟨action, next, permitted, taken, held, less⟩
      · exact ⟨first, .refl, done⟩
      · rcases inductionHypothesis _ (bound ▸ less) held rfl with ⟨last, onwards, done⟩
        exact ⟨last, (Reaches.tail .refl permitted taken).trans onwards, done⟩

/-- Evaluate a run.  The result is `none` as soon as an action is not enabled
or does not meet the condition. -/
def run (step : State -> Action -> Option State) (allowed : State -> Action -> Prop)
    [forall state action, Decidable (allowed state action)] (first : State) :
    List Action -> Option State
  | [] => some first
  | action :: actions =>
      if allowed first action then
        match step first action with
        | some next => run step allowed next actions
        | none => none
      else none

/-- The first action of an evaluated run is a step, and the others are a run. -/
theorem run_cons_eq_some_iff [forall state action, Decidable (allowed state action)]
    {action : Action} {actions : List Action} :
    run step allowed first (action :: actions) = some state ↔
      Exists fun next => allowed first action ∧ step first action = some next ∧
        run step allowed next actions = some state := by
  rw [run]
  by_cases permitted : allowed first action
  · rw [if_pos permitted]
    cases taken : step first action with
    | none => simp only [reduceCtorEq, false_and, and_false, exists_false]
    | some next => simp only [Option.some.injEq, permitted, true_and, exists_eq_left']
  · rw [if_neg permitted]
    simp only [reduceCtorEq, permitted, false_and, exists_false]

/-- An evaluated run is a run. -/
theorem reaches_of_run [forall state action, Decidable (allowed state action)]
    (actions : List Action) (evaluated : run step allowed first actions = some state) :
    Reaches step allowed first state := by
  induction actions generalizing first with
  | nil =>
      simp only [run, Option.some.injEq] at evaluated
      exact evaluated ▸ .refl
  | cons action actions inductionHypothesis =>
      rcases run_cons_eq_some_iff.mp evaluated with ⟨next, permitted, taken, onwards⟩
      exact (Reaches.tail .refl permitted taken).trans (inductionHypothesis onwards)

theorem reaches_get_run [forall state action, Decidable (allowed state action)]
    (actions : List Action) (enabled : (run step allowed first actions).isSome = true) :
    Reaches step allowed first ((run step allowed first actions).get enabled) :=
  reaches_of_run actions (Option.some_get enabled).symm

instance (state : State) (action : Action) : Decidable (anyStep state action) :=
  inferInstanceAs (Decidable True)

/-- Two evaluated runs in a row are one. -/
theorem run_append [forall state action, Decidable (allowed state action)]
    (actions others : List Action) (evaluated : run step allowed first actions = some state) :
    run step allowed first (actions ++ others) = run step allowed state others := by
  induction actions generalizing first with
  | nil =>
      simp only [run, Option.some.injEq] at evaluated
      rw [evaluated, List.nil_append]
  | cons action actions inductionHypothesis =>
      rcases run_cons_eq_some_iff.mp evaluated with ⟨next, permitted, taken, onwards⟩
      rw [List.cons_append, run, if_pos permitted, taken]
      exact inductionHypothesis onwards

/-- An evaluated run whose actions all have a property is a run under it. -/
theorem reaches_of_run_of_forall {holds : Action -> Prop} (actions : List Action)
    (evaluated : run step anyStep first actions = some state)
    (every : forall action, action ∈ actions -> holds action) :
    Reaches step (fun _ => holds) first state := by
  induction actions generalizing first with
  | nil =>
      simp only [run, Option.some.injEq] at evaluated
      exact evaluated ▸ .refl
  | cons action actions inductionHypothesis =>
      rcases run_cons_eq_some_iff.mp evaluated with ⟨next, _, taken, onwards⟩
      have reached := inductionHypothesis onwards fun later member =>
        every later (List.mem_cons_of_mem _ member)
      exact (Reaches.tail .refl (every action List.mem_cons_self) taken).trans reached

end Machine

end Async
end Fpd
