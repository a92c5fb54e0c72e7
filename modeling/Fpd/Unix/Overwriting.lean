import Mathlib.Data.List.Basic
import Mathlib.Logic.Function.Basic

namespace Fpd
namespace Overwriting

/-!
# Writes that take the place of what was there

A store holds at most one value at a place, and a write leaves nothing of what
stood there.  Items that are written one after another leave at each place what
the last of them wrote.  Some of them may be passed over without a trace exactly
if whatever such an item wrote last was to be found there anyway.
-/

variable {Item Place Value : Type*}

/-- None of the items is written there. -/
def Unwritten (write : Item -> Option (Place × Value)) (place : Place) (items : List Item) : Prop :=
  forall item, item ∈ items -> forall value, write item ≠ some (place, value)

variable {write : Item -> Option (Place × Value)} {items earlier later : List Item} {item : Item}
variable {place : Place} {value : Value}

theorem Unwritten.filter (unwritten : Unwritten write place items) (keeps : Item -> Bool) :
    Unwritten write place (items.filter keeps) :=
  fun item inside => unwritten item (List.mem_of_mem_filter inside)

/-- Unless nothing is written at a place, one of the items is the last to be. -/
theorem unwritten_or_exists_last (write : Item -> Option (Place × Value)) (place : Place)
    (items : List Item) :
    Unwritten write place items ∨
      Exists fun earlier => Exists fun item => Exists fun later => Exists fun value =>
        items = earlier ++ item :: later ∧ write item = some (place, value) ∧
          Unwritten write place later := by
  induction items with
  | nil => exact Or.inl fun _ inside => absurd inside List.not_mem_nil
  | cons first rest inductionHypothesis =>
      rcases inductionHypothesis with unwritten | ⟨earlier, item, later, value, split, last⟩
      · by_cases written : Exists fun value => write first = some (place, value)
        · obtain ⟨value, written⟩ := written
          exact Or.inr ⟨[], first, rest, value, rfl, written, unwritten⟩
        · refine Or.inl fun item inside value => ?_
          rcases List.mem_cons.mp inside with rfl | inside
          · exact fun same => written ⟨value, same⟩
          · exact unwritten item inside value
      · exact Or.inr ⟨first :: earlier, item, later, value, by rw [split]; rfl, last⟩

variable [DecidableEq Place] {store : Place -> Option Value}

def put (write : Item -> Option (Place × Value)) (store : Place -> Option Value) (item : Item) :
    Place -> Option Value :=
  match write item with
  | some (place, value) => Function.update store place (some value)
  | none => store

def replay (write : Item -> Option (Place × Value)) (store : Place -> Option Value)
    (items : List Item) : Place -> Option Value :=
  items.foldl (put write) store

theorem replay_append :
    replay write store (earlier ++ later) = replay write (replay write store earlier) later :=
  List.foldl_append

theorem put_of_eq_some (written : write item = some (place, value)) :
    put write store item = Function.update store place (some value) := by
  unfold put
  rw [written]

theorem put_of_ne (elsewhere : forall value, write item ≠ some (place, value)) :
    put write store item place = store place := by
  unfold put
  cases written : write item with
  | none => rfl
  | some target =>
      refine Function.update_of_ne (fun same => ?_) _ _
      exact elsewhere target.2 (by rw [written, same])

theorem replay_of_unwritten (unwritten : Unwritten write place items) :
    replay write store items place = store place := by
  induction items generalizing store with
  | nil => rfl
  | cons first rest inductionHypothesis =>
      have afterwards : replay write (put write store first) rest place =
          put write store first place :=
        inductionHypothesis fun item inside => unwritten item (List.mem_cons_of_mem _ inside)
      exact afterwards.trans (put_of_ne (unwritten first List.mem_cons_self))

theorem replay_last (written : write item = some (place, value))
    (last : Unwritten write place later) :
    replay write store (earlier ++ item :: later) place = some value := by
  rw [replay_append]
  refine (replay_of_unwritten last).trans ?_
  rw [put_of_eq_some written, Function.update_self]

/-- What stood at the places that are written makes no difference. -/
theorem replay_congr {other : Place -> Option Value}
    (same : forall place, Unwritten write place items -> store place = other place) :
    replay write store items = replay write other items := by
  funext place
  rcases unwritten_or_exists_last write place items with
    unwritten | ⟨earlier, item, later, value, split, written, last⟩
  · rw [replay_of_unwritten unwritten, replay_of_unwritten unwritten, same place unwritten]
  · rw [split, replay_last written last, replay_last written last]

/-- Passing over items that are not written at a place changes nothing there. -/
theorem replay_unwritten_append (unwritten : Unwritten write place later) :
    replay write store (earlier ++ later) place = replay write store earlier place := by
  rw [replay_append]
  exact replay_of_unwritten unwritten

/-- A place holds what the last item chosen for it holds, or what stood there. -/
theorem replay_eq_getLast? (chosen : Item -> Bool) (valueOf : Item -> Value)
    (writes : forall item, item ∈ items ->
      (chosen item = true ↔ write item = some (place, valueOf item)))
    (only : forall item value, write item = some (place, value) -> valueOf item = value) :
    replay write store items place =
      ((items.filter chosen).getLast?.map valueOf).or (store place) := by
  have none_chosen : forall rest : List Item, (forall item, item ∈ rest -> item ∈ items) ->
      Unwritten write place rest -> rest.filter chosen = [] := by
    intro rest inside unwritten
    rw [List.filter_eq_nil_iff]
    intro item member isChosen
    exact unwritten item member _ ((writes item (inside item member)).mp isChosen)
  rcases unwritten_or_exists_last write place items with
    unwritten | ⟨earlier, item, later, value, split, written, last⟩
  · rw [replay_of_unwritten unwritten, none_chosen items (fun _ inside => inside) unwritten]
    rfl
  · have value_eq : valueOf item = value := only item value written
    have isChosen : chosen item = true :=
      (writes item (by simp [split])).mpr (by rw [written, value_eq])
    have nothingLater : later.filter chosen = [] :=
      none_chosen later (fun other inside => by simp [split, inside]) last
    rw [split, replay_last written last, List.filter_append, List.filter_cons_of_pos isChosen,
      nothingLater, List.getLast?_append, List.getLast?_singleton]
    simp [value_eq]

/-- An item can be spared if what it writes is overwritten or stands there anyway. -/
def Spared (write : Item -> Option (Place × Value)) (keeps : Item -> Bool)
    (store : Place -> Option Value) (items : List Item) : Prop :=
  forall earlier item later place value, items = earlier ++ item :: later ->
    keeps item = false -> write item = some (place, value) ->
      ¬ Unwritten write place later ∨
        replay write store (earlier.filter keeps) place = some value

theorem replay_eq_replay_filter_iff (keeps : Item -> Bool) :
    replay write store items = replay write store (items.filter keeps) ↔
      Spared write keeps store items := by
  constructor
  · intro same earlier item later place value split passedOver written
    by_cases last : Unwritten write place later
    · refine Or.inr ?_
      have kept : items.filter keeps = earlier.filter keeps ++ later.filter keeps := by
        rw [split, List.filter_append, List.filter_cons_of_neg (by simp [passedOver])]
      calc replay write store (earlier.filter keeps) place
          = replay write store (items.filter keeps) place := by
            rw [kept, replay_unwritten_append (last.filter keeps)]
        _ = replay write store items place := by rw [same]
        _ = some value := by rw [split, replay_last written last]
    · exact Or.inl last
  · intro spared
    funext place
    rcases unwritten_or_exists_last write place items with
      unwritten | ⟨earlier, item, later, value, split, written, last⟩
    · rw [replay_of_unwritten unwritten, replay_of_unwritten (unwritten.filter keeps)]
    · rw [split, replay_last written last, List.filter_append]
      cases kept : keeps item with
      | true => rw [List.filter_cons_of_pos kept, replay_last written (last.filter keeps)]
      | false =>
          rw [List.filter_cons_of_neg (by simp [kept]),
            replay_unwritten_append (last.filter keeps)]
          rcases spared earlier item later place value split kept written with
            overwritten | present
          · exact absurd last overwritten
          · exact present.symm

end Overwriting
end Fpd
