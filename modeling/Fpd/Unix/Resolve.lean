import Fpd.Unix.Path
import Mathlib.Data.List.Induction

namespace Fpd
namespace Unix
namespace Path

/-!
# Where paths lead to

Different paths may lead to the same place.  That is up to the working directory
and to the links there are, and only this much of it is used: a name that is no
link itself leads to that name in the place of its directory, and places are told
apart by their components.

Where nothing is a link, a path is followed component by component, from the root
or from the working directory.
-/

variable {path name directory other file : OsStr} {names : List OsStr}
  {resolve : OsStr -> OsStr} {unlinked : OsStr -> Prop}

/-- Each path leads to a place, and that is written as a path too.  Names of a
certain kind are never those of links. -/
structure Resolves (resolve : OsStr -> OsStr) (unlinked : OsStr -> Prop) : Prop where
  below : forall directory name, PlainName name -> unlinked name ->
    resolve (push directory name) = push (resolve directory) name
  canonical : forall path other,
    components (resolve path) = components (resolve other) -> resolve path = resolve other

/-- Files in different directories are different files, whatever their names. -/
theorem Resolves.push_ne (resolves : Resolves resolve unlinked) (plain : PlainName name)
    (itself : unlinked name) (plainFile : PlainName file) (fileItself : unlinked file)
    (apart : resolve directory ≠ resolve other) :
    resolve (push directory name) ≠ resolve (push other file) := by
  intro same
  rw [resolves.below _ _ plain itself, resolves.below _ _ plainFile fileItself] at same
  have parents := congrArg parent same
  rw [parent_push plain.1 plain.2, parent_push plainFile.1 plainFile.2,
    Option.some.injEq] at parents
  exact apart (resolves.canonical _ _ parents)

/-! ## Without links -/

/-- The names on the way to a place, one component later. -/
def follow (names : List OsStr) : Component -> List OsStr
  | .rootDir => []
  | .curDir => names
  | .parentDir => names.dropLast
  | .normal name => names ++ [name]

/-- The names on the way from the root to the end of a path. -/
def way (path : OsStr) : List OsStr :=
  (components path).foldl follow []

/-- The path from the root by way of some names. -/
def absolute (names : List OsStr) : OsStr :=
  names.foldl push [separator]

/-- Where a path leads to from a working directory. -/
def resolveFrom (cwd path : OsStr) : OsStr :=
  absolute (way (push cwd path))

example : resolveFrom (ascii "/home/me") (ascii "./a/../b") = ascii "/home/me/b" := by decide

theorem way_push (plain : PlainName name) : way (push path name) = way path ++ [name] := by
  rw [way, components_push plain.1 plain.2, List.foldl_append]
  rfl

theorem absolute_concat (names : List OsStr) (name : OsStr) :
    absolute (names ++ [name]) = push (absolute names) name := by
  rw [absolute, List.foldl_append]
  rfl

theorem plainName_of_mem_foldl {steps : List Component}
    (plain : forall name, Component.normal name ∈ steps -> PlainName name)
    (before : forall name, name ∈ names -> PlainName name) :
    forall name, name ∈ steps.foldl follow names -> PlainName name := by
  induction steps generalizing names with
  | nil => exact before
  | cons step steps inductionHypothesis =>
      apply inductionHypothesis fun name member => plain name (List.mem_cons_of_mem _ member)
      intro name inside
      cases step with
      | rootDir => cases inside
      | curDir => exact before name inside
      | parentDir => exact before name (names.dropLast_subset inside)
      | normal added =>
          rcases List.mem_append.mp inside with old | new
          · exact before name old
          · rw [List.mem_singleton] at new
            exact plain name (new ▸ List.mem_cons_self)

theorem plainName_of_mem_way (inside : name ∈ way path) : PlainName name :=
  plainName_of_mem_foldl (fun _ => plainName_of_mem_components) (List.forall_mem_nil _) name inside

/-- The components of such a path are the names it was made of. -/
theorem components_absolute (plain : forall name, name ∈ names -> PlainName name) :
    components (absolute names) = .rootDir :: names.map .normal := by
  induction names using List.reverseRecOn with
  | nil => decide
  | append_singleton names name inductionHypothesis =>
      have last : PlainName name := plain name (by simp)
      rw [absolute_concat, components_push last.1 last.2,
        inductionHypothesis fun other member => plain other (List.mem_append_left _ member),
        List.map_append]
      rfl

theorem resolveFrom_resolves (cwd : OsStr) (unlinked : OsStr -> Prop) :
    Resolves (resolveFrom cwd) unlinked where
  below directory name plain _ := by
    rw [resolveFrom, push_push_name (isAbsolute_of_relative plain.1), way_push plain,
      absolute_concat]
    rfl
  canonical path other same := by
    have names := same
    rw [resolveFrom, resolveFrom, components_absolute fun _ => plainName_of_mem_way,
      components_absolute fun _ => plainName_of_mem_way, List.cons.injEq] at names
    rw [resolveFrom, resolveFrom,
      List.map_injective_iff.mpr (fun _ _ => Component.normal.inj) names.2]

end Path
end Unix
end Fpd
