import Mathlib.Data.List.Basic

namespace Fpd
namespace Text

/-!
# Looking for a pattern in a text

A text is a list of characters, and a pattern is a text too.  What is looked for
is found from left to right, and what has been found is not looked at again.
-/

variable {Character : Type*} [DecidableEq Character] {pattern text : List Character}

/-- `str::starts_with` -/
def startsWith (pattern text : List Character) : Bool :=
  pattern.isPrefixOf text

/-- `str::ends_with` -/
def endsWith (pattern text : List Character) : Bool :=
  pattern.isSuffixOf text

/-- Takes the pattern away as often as it stands at the start, but not more
often than the fuel allows. -/
def trimStart (pattern : List Character) : Nat -> List Character -> List Character
  | 0, text => text
  | fuel + 1, text =>
      if startsWith pattern text then trimStart pattern fuel (text.drop pattern.length) else text

/-- `str::trim_start_matches`, for patterns that are not empty. -/
def trimStartMatches (pattern text : List Character) : List Character :=
  trimStart pattern text.length text

/-- Writes the other text over what is left of an occurrence, and passes over
the characters of an occurrence that has been replaced. -/
def replaceFrom (pattern other : List Character) : Nat -> List Character -> List Character
  | _, [] => []
  | passed + 1, _ :: text => replaceFrom pattern other passed text
  | 0, character :: text =>
      if startsWith pattern (character :: text) then
        other ++ replaceFrom pattern other (pattern.length - 1) text
      else character :: replaceFrom pattern other 0 text

/-- `str::replace`, for patterns that are not empty. -/
def replace (pattern other text : List Character) : List Character :=
  replaceFrom pattern other 0 text

example : trimStartMatches "ab".toList "ababa".toList = "a".toList := by decide

example : replace "http".toList "ws".toList "https+http".toList = "wss+ws".toList := by decide

theorem startsWith_iff :
    startsWith pattern text = true ↔ Exists fun rest => text = pattern ++ rest := by
  rw [startsWith, List.isPrefixOf_iff_prefix, List.prefix_iff_eq_append]
  constructor
  · exact fun same => ⟨_, same.symm⟩
  · rintro ⟨rest, rfl⟩
    rw [List.drop_left]

/-! ## Trimming -/

/-- With fuel enough the pattern is gone from the start. -/
theorem startsWith_trimStart (proper : pattern ≠ []) {fuel : Nat} (enough : text.length ≤ fuel) :
    startsWith pattern (trimStart pattern fuel text) = false := by
  induction fuel generalizing text with
  | zero =>
      rw [Nat.le_zero, List.length_eq_zero_iff] at enough
      subst enough
      cases pattern with
      | nil => exact absurd rfl proper
      | cons => rfl
  | succ fuel inductionHypothesis =>
      rw [trimStart]
      by_cases starts : startsWith pattern text = true
      · rw [if_pos starts]
        apply inductionHypothesis
        have positive : 0 < pattern.length := List.length_pos_iff.mpr proper
        rw [List.length_drop]
        omega
      · rw [if_neg starts]
        exact Bool.eq_false_iff.mpr starts

theorem startsWith_trimStartMatches (proper : pattern ≠ []) (text : List Character) :
    startsWith pattern (trimStartMatches pattern text) = false :=
  startsWith_trimStart proper (Nat.le_refl _)

end Text
end Fpd
