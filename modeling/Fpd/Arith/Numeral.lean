import Fpd.Arith.Overflow
import Mathlib.Data.Nat.Digits.Defs

namespace Fpd
namespace Arith

/-!
# Decimal numerals

What the standard library takes for an unsigned integer: decimal digits, at
least one, after a plus sign or without one.  The digits are read from the left,
and the first one that is none, or that makes the number too large, is the error.
-/

inductive IntErrorKind
  | empty
  | invalidDigit
  | posOverflow
  deriving DecidableEq, Repr

/-- The text of a `ParseIntError`. -/
def IntErrorKind.description : IntErrorKind -> String
  | .empty => "cannot parse integer from empty string"
  | .invalidDigit => "invalid digit found in string"
  | .posOverflow => "number too large to fit in target type"

/-- `char::to_digit(10)` -/
def toDigit (character : Char) : Option Nat :=
  if 48 ≤ character.toNat ∧ character.toNat < 58 then some (character.toNat - 48) else none

/-- The digits that follow a word already read.  Multiplying it by ten and adding
the digit are both checked, and fail alike. -/
def fromDigits {width : Nat} (value : BitVec width) :
    List Char -> Except IntErrorKind (BitVec width)
  | [] => .ok value
  | character :: rest =>
      match toDigit character with
      | none => .error .invalidDigit
      | some digit =>
          match (Overflowing.of width (value.toNat * 10 + digit)).checked with
          | none => .error .posOverflow
          | some value => fromDigits value rest

/-- `u64::from_str` and the like. -/
def fromStr (width : Nat) : List Char -> Except IntErrorKind (BitVec width)
  | [] => .error .empty
  | sign :: digits =>
      if (sign = '+' ∨ sign = '-') ∧ digits = [] then .error .invalidDigit
      else if sign = '+' then fromDigits 0 digits
      else fromDigits 0 (sign :: digits)

/-- The text is a numeral for this number. -/
def Spells (text : List Char) (number : Nat) : Prop :=
  Exists fun digits : List Nat => digits ≠ [] ∧ (forall digit, digit ∈ digits -> digit < 10) ∧
    number = Nat.ofDigits 10 digits.reverse ∧
    (text = digits.map Nat.digitChar ∨ text = '+' :: digits.map Nat.digitChar)

theorem toDigit_eq_some_iff {character : Char} {digit : Nat} :
    toDigit character = some digit ↔ digit < 10 ∧ character = Nat.digitChar digit := by
  unfold toDigit
  constructor
  · intro found
    split at found
    · next range =>
        rw [Option.some.injEq] at found
        refine ⟨by omega, Char.toNat_inj.mp ?_⟩
        rw [Nat.toNat_digitChar_of_lt_ten (by omega)]
        omega
    · cases found
  · rintro ⟨small, rfl⟩
    rw [Nat.toNat_digitChar_of_lt_ten small, if_pos (by omega), Option.some.injEq]
    omega

theorem ofDigits_reverse_cons (digit : Nat) (digits : List Nat) :
    Nat.ofDigits 10 (digit :: digits).reverse =
      Nat.ofDigits 10 digits.reverse + 10 ^ digits.length * digit := by
  rw [List.reverse_cons, Nat.ofDigits_append, Nat.ofDigits_singleton, List.length_reverse]

/-- Digits are read exactly if the number they make with the word before them is
again a word. -/
theorem fromDigits_eq_ok_iff {width : Nat} {value word : BitVec width} {text : List Char} :
    fromDigits value text = .ok word ↔ Exists fun digits : List Nat =>
      (forall digit, digit ∈ digits -> digit < 10) ∧ text = digits.map Nat.digitChar ∧
        word.toNat = value.toNat * 10 ^ digits.length + Nat.ofDigits 10 digits.reverse := by
  constructor
  · intro read
    induction text generalizing value with
    | nil =>
        rw [fromDigits, Except.ok.injEq] at read
        exact ⟨[], List.forall_mem_nil _, rfl, by simp [read]⟩
    | cons character rest inductionHypothesis =>
        rw [fromDigits] at read
        split at read
        · cases read
        · next digit isDigit =>
            split at read
            · cases read
            · next next fits =>
                rcases inductionHypothesis read with ⟨digits, small, rfl, number⟩
                rcases toDigit_eq_some_iff.mp isDigit with ⟨below, rfl⟩
                rw [Overflowing.checked_of_eq_some_iff] at fits
                refine ⟨digit :: digits, List.forall_mem_cons.mpr ⟨below, small⟩, rfl, ?_⟩
                rw [number, fits, ofDigits_reverse_cons, List.length_cons]
                ring
  · rintro ⟨digits, small, rfl, number⟩
    induction digits generalizing value with
    | nil =>
        rw [List.map_nil, fromDigits, Except.ok.injEq, ← BitVec.toNat_inj]
        simpa using number.symm
    | cons digit digits inductionHypothesis =>
        rw [List.forall_mem_cons] at small
        have reading := toDigit_eq_some_iff.mpr ⟨small.1, rfl⟩
        have exact : word.toNat = (value.toNat * 10 + digit) * 10 ^ digits.length +
            Nat.ofDigits 10 digits.reverse := by
          rw [number, ofDigits_reverse_cons, List.length_cons]
          ring
        have positive : 0 < 10 ^ digits.length := Nat.pow_pos (by decide)
        have fits : value.toNat * 10 + digit < 2 ^ width := by
          refine Nat.lt_of_le_of_lt ?_ word.isLt
          rw [exact]
          exact Nat.le_add_right_of_le (Nat.le_mul_of_pos_right _ positive)
        have next : (BitVec.ofNat width (value.toNat * 10 + digit)).toNat =
            value.toNat * 10 + digit := Overflowing.toNat_value_of fits
        rw [List.map_cons, fromDigits, reading]
        simp only [Overflowing.checked_of_eq_some_iff.mpr next]
        exact inductionHypothesis small.2 (by rw [next]; exact exact)

/-- The digits of a numeral do not start with a sign. -/
theorem digitChar_ne_sign {digit : Nat} (small : digit < 10) :
    Nat.digitChar digit ≠ '+' ∧ Nat.digitChar digit ≠ '-' := by
  have value := Nat.toNat_digitChar_of_lt_ten small
  constructor
  · intro same
    rw [same] at value
    exact absurd value (by have plus : '+'.toNat = 43 := rfl; omega)
  · intro same
    rw [same] at value
    exact absurd value (by have minus : '-'.toNat = 45 := rfl; omega)

/-- A word is read from the numerals for its number and from nothing else. -/
theorem fromStr_eq_ok_iff {width : Nat} {word : BitVec width} {text : List Char} :
    fromStr width text = .ok word ↔ Spells text word.toNat := by
  constructor
  · intro read
    cases text with
    | nil => cases read
    | cons sign rest =>
        rw [fromStr] at read
        split at read
        · cases read
        · next given =>
            split at read
            · next plus =>
                rcases fromDigits_eq_ok_iff.mp read with ⟨digits, small, rfl, number⟩
                refine ⟨digits, ?_, small, by simpa using number, Or.inr (by rw [plus])⟩
                rintro rfl
                exact given ⟨Or.inl plus, rfl⟩
            · rcases fromDigits_eq_ok_iff.mp read with ⟨digits, small, spelled, number⟩
              refine ⟨digits, ?_, small, by simpa using number, Or.inl spelled⟩
              rintro rfl
              cases spelled
  · rintro ⟨digits, given, small, number, rfl | rfl⟩
    · obtain ⟨first, rest, rfl⟩ := List.exists_cons_of_ne_nil given
      have noSign := digitChar_ne_sign (small first List.mem_cons_self)
      rw [List.map_cons, fromStr, if_neg (by tauto), if_neg noSign.1]
      exact fromDigits_eq_ok_iff.mpr ⟨first :: rest, small, rfl, by simpa using number⟩
    · have more : digits.map Nat.digitChar ≠ [] := by rwa [ne_eq, List.map_eq_nil_iff]
      rw [fromStr, if_neg (fun none => more none.2), if_pos rfl]
      exact fromDigits_eq_ok_iff.mpr ⟨digits, small, rfl, by simpa using number⟩

example : fromStr 64 ['+', '0', '7'] = .ok 7 := by decide

/-- The digits before the one that is none are already too large. -/
example : fromStr 8 ['2', '5', '6', 'x'] = .error .posOverflow := by decide

end Arith
end Fpd
