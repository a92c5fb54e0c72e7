import Mathlib.Algebra.Group.Nat.Defs

namespace Fpd
namespace Arith

/-!
# Operations that may overflow

An unsigned operation on machine words computes an integer and keeps as many
bits of it as the word has.  What a program does about the others depends on how
it is built: with overflow checks it panics, without them it goes on with what
is left.  An operation therefore answers both, the word and whether it is the
whole integer.
-/

structure Overflowing (width : Nat) where
  value : BitVec width
  overflowed : Bool
  deriving DecidableEq, Repr

namespace Overflowing

variable {width exact : Nat}

/-- The operation whose exact result is the given integer. -/
def of (width exact : Nat) : Overflowing width :=
  ⟨BitVec.ofNat width exact, decide (2 ^ width ≤ exact)⟩

/-- The word, unless it is not the whole integer. -/
def checked (result : Overflowing width) : Option (BitVec width) :=
  if result.overflowed then none else some result.value

theorem overflowed_of_eq_false_iff : (of width exact).overflowed = false ↔ exact < 2 ^ width := by
  simp only [of, decide_eq_false_iff_not, Nat.not_le]

theorem toNat_value_of (fits : exact < 2 ^ width) : (of width exact).value.toNat = exact :=
  (BitVec.toNat_ofNat exact width).trans (Nat.mod_eq_of_lt fits)

theorem checked_of_eq_some_iff {word : BitVec width} :
    (of width exact).checked = some word ↔ word.toNat = exact := by
  unfold checked
  cases overflows : (of width exact).overflowed with
  | true =>
      have large : 2 ^ width ≤ exact := of_decide_eq_true overflows
      simp only [if_true, reduceCtorEq, false_iff]
      intro same
      exact absurd word.isLt (Nat.not_lt.mpr (same ▸ large))
  | false =>
      have value := toNat_value_of (overflowed_of_eq_false_iff.mp overflows)
      rw [if_neg Bool.false_ne_true, Option.some.injEq, ← BitVec.toNat_inj, value, eq_comm]

end Overflowing

/-- `u32::overflowing_add` and the like. -/
def overflowingAdd {width : Nat} (left right : BitVec width) : Overflowing width :=
  .of width (left.toNat + right.toNat)

/-- `u64::overflowing_mul` and the like. -/
def overflowingMul {width : Nat} (left right : BitVec width) : Overflowing width :=
  .of width (left.toNat * right.toNat)

/-- `u64::overflowing_pow` and the like. -/
def overflowingPow {width other : Nat} (base : BitVec width) (exponent : BitVec other) :
    Overflowing width :=
  .of width (base.toNat ^ exponent.toNat)

end Arith
end Fpd
