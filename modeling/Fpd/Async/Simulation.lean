import Fpd.Async.Machine

namespace Fpd
namespace Async

/-!
# Machines that do what other machines do

A machine follows another one if, from related states, each of its steps can
be matched by a run of the other that ends in related states.  Its runs are
then matched from beginning to end, and a law about every run of the other
machine says something about every run of the first.  A step that the other
machine does not see is matched by the empty run.
-/

section Simulation

variable {State Action Model Move : Type*} {step : State -> Action -> Option State}
  {allowed : State -> Action -> Prop} {move : Model -> Move -> Option Model}
  {permitted : Model -> Move -> Prop} {first state : State} {origin : Model}

namespace Reaches

/-- A single step is a run. -/
theorem single {action : Action} (permits : allowed first action)
    (taken : step first action = some state) : Reaches step allowed first state :=
  .tail .refl permits taken

/-- The states that a run reaches are related to states that the other machine
reaches. -/
theorem simulated (relates : State -> Model -> Prop) (reached : Reaches step allowed first state)
    (initially : relates first origin)
    (follows : forall before action after model, Reaches step allowed first before ->
      relates before model -> allowed before action -> step before action = some after ->
        Exists fun next => Reaches move permitted model next ∧ relates after next) :
    Exists fun model => Reaches move permitted origin model ∧ relates state model := by
  induction reached with
  | refl => exact ⟨origin, .refl, initially⟩
  | tail earlier permits taken inductionHypothesis =>
      rcases inductionHypothesis with ⟨model, reached, related⟩
      rcases follows _ _ _ model earlier related permits taken with ⟨next, onwards, relatedNext⟩
      exact ⟨next, reached.trans onwards, relatedNext⟩

/-- Where the relation is a function, the function maps runs to runs. -/
theorem mapped (view : State -> Model) (reached : Reaches step allowed first state)
    (follows : forall before action after, Reaches step allowed first before ->
      allowed before action -> step before action = some after ->
        Reaches move permitted (view before) (view after)) :
    Reaches move permitted (view first) (view state) := by
  have matched : Exists fun model =>
      Reaches move permitted (view first) model ∧ view state = model := by
    refine simulated (fun state model => view state = model) reached rfl ?_
    intro before action after model earlier related permits taken
    exact ⟨view after, related ▸ follows before action after earlier permits taken, rfl⟩
  rcases matched with ⟨model, reachedModel, rfl⟩
  exact reachedModel

end Reaches

end Simulation

end Async
end Fpd
