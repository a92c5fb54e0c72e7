import Mathlib.Data.List.Forall2

namespace Fpd
namespace Async

/-!
# The traffic of several sources through one queue

A consumer that reads the sources one after the other has seen a prefix of
their concatenation.  Such a prefix takes a prefix of each source.
-/

section Traffic

variable {Item : Type*}

/-- A prefix of a concatenation is a concatenation of prefixes. -/
theorem exists_pieces {sources : List (List Item)} {seen : List Item}
    (beginning : seen <+: sources.flatten) :
    Exists fun pieces : List (List Item) =>
      List.Forall₂ (fun piece source => piece <+: source) pieces sources ∧
        pieces.flatten = seen := by
  induction sources generalizing seen with
  | nil => exact ⟨[], .nil, (List.prefix_nil.mp beginning).symm⟩
  | cons source sources inductionHypothesis =>
      rw [List.flatten_cons] at beginning
      rcases List.prefix_or_prefix_of_prefix beginning (List.prefix_append source _) with
        short | ⟨rest, whole⟩
      · rcases inductionHypothesis List.nil_prefix with ⟨pieces, fitting, empty⟩
        exact ⟨seen :: pieces, .cons short fitting, by
          rw [List.flatten_cons, empty, List.append_nil]⟩
      · subst whole
        rcases inductionHypothesis ((List.prefix_append_right_inj source).mp beginning) with
          ⟨pieces, fitting, same⟩
        exact ⟨source :: pieces, .cons List.prefix_rfl fitting, by rw [List.flatten_cons, same]⟩

theorem prefix_takeWhile {keep : Item -> Bool} {source seen : List Item}
    (beginning : seen <+: source) (kept : forall item, item ∈ seen -> keep item = true) :
    seen <+: source.takeWhile keep := by
  rcases beginning with ⟨rest, whole⟩
  subst whole
  rw [List.takeWhile_append_of_pos kept]
  exact List.prefix_append _ _

/-- A new item counts among the kept ones only if all before it were kept. -/
theorem mem_takeWhile_concat {keep : Item -> Bool} {source : List Item} {item found : Item}
    (member : found ∈ (source ++ [item]).takeWhile keep) :
    found ∈ source.takeWhile keep ∨ (found = item ∧ source.all keep = true) := by
  induction source with
  | nil =>
      rw [List.nil_append] at member
      exact Or.inr ⟨List.mem_singleton.mp ((List.takeWhile_prefix keep).subset member), rfl⟩
  | cons head tail inductionHypothesis =>
      cases kept : keep head with
      | false => simp only [List.cons_append, List.takeWhile_cons, kept] at member; cases member
      | true =>
          simp only [List.cons_append, List.takeWhile_cons, kept, if_true, List.mem_cons] at member
          simp only [List.takeWhile_cons, kept, if_true, List.mem_cons, List.all_cons,
            Bool.true_and]
          rcases member with first | later
          · exact Or.inl (Or.inl first)
          · exact (inductionHypothesis later).imp Or.inr id

/-- In what a source without repetitions gave, two values stand as they did in
the source. -/
theorem pair_sublist_of_sublist {source seen : List Item} (kept : seen.Sublist source)
    (once : source.Nodup) {first second : Item} (before : [first, second].Sublist source)
    (sawFirst : first ∈ seen) (sawSecond : second ∈ seen) : [first, second].Sublist seen := by
  induction kept with
  | slnil => cases before
  | cons head kept inductionHypothesis =>
      have parts := List.nodup_cons.mp once
      cases before with
      | cons _ before => exact inductionHypothesis parts.2 before sawFirst sawSecond
      | cons_cons _ _ => exact absurd (kept.subset sawFirst) parts.1
  | cons_cons head kept inductionHypothesis =>
      have parts := List.nodup_cons.mp once
      cases before with
      | cons _ before =>
          -- Neither value is the head, which the rest of the source lacks.
          have different {value : Item} (later : value ∈ [first, second]) : value ≠ head :=
            fun same => parts.1 (same ▸ before.subset later)
          have insideFirst := (List.mem_cons.mp sawFirst).resolve_left
            (different List.mem_cons_self)
          have insideSecond := (List.mem_cons.mp sawSecond).resolve_left
            (different (List.mem_cons_of_mem _ List.mem_cons_self))
          exact (inductionHypothesis parts.2 before insideFirst insideSecond).cons head
      | cons_cons _ before =>
          have later := before.subset List.mem_cons_self
          have different : second ≠ first := fun same => parts.1 (same ▸ later)
          exact (List.singleton_sublist.mpr
            ((List.mem_cons.mp sawSecond).resolve_left different)).cons_cons first

end Traffic

end Async
end Fpd
