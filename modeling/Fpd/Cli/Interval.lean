import Fpd.Arith.Numeral
import Fpd.Service.Init

namespace Fpd
namespace Cli

open Arith
open Service

/-!
# `IntervalDuration`

The interval of the status checks is given on the command line as a number with
a unit.  The unit is taken for the last byte of the text, and the number is
turned into seconds in 64 bits.  What an overflow amounts to is up to the build:
with overflow checks it is a panic.
-/

/-- An arithmetic operation in a build with or without overflow checks. -/
def outcome {width : Nat} (overflowChecks : Bool) (result : Overflowing width) :
    Outcome (BitVec width) :=
  if overflowChecks && result.overflowed then .panicked else .returned result.value

/-- `str::len`, which counts bytes. -/
def len (text : List Char) : Nat :=
  (text.map Char.utf8Size).sum

/-- `str::split_at`, which panics if the offset is not between two characters. -/
def splitAt : List Char -> Nat -> Outcome (List Char × List Char)
  | [], mid => if mid = 0 then .returned ([], []) else .panicked
  | character :: rest, mid =>
      if mid = 0 then .returned ([], character :: rest)
      else if mid < character.utf8Size then .panicked
      else (splitAt rest (mid - character.utf8Size)).map fun parts =>
        (character :: parts.1, parts.2)

/-- `s.split_at(s.len() - 1)`, with offsets of 64 bits. -/
def splitLast (overflowChecks : Bool) (text : List Char) : Outcome (List Char × List Char) :=
  if len text = 0 then
    if overflowChecks then .panicked else splitAt text (2 ^ 64 - 1)
  else splitAt text (len text - 1)

/-- `Duration::from_secs` -/
def fromSecs (secs : BitVec 64) : Duration :=
  (secs.toNat : Rat)

/-- The number is parsed, and an error of that is passed on before its seconds
are computed. -/
def parsed (numeral : List Char) (seconds : BitVec 64 -> Outcome (BitVec 64)) :
    Outcome (Except String Duration) :=
  match Arith.fromStr 64 numeral with
  | .error kind => .returned (.error kind.description)
  | .ok number => (seconds number).map fun secs => .ok (fromSecs secs)

/-- `IntervalDuration::from_str` -/
def IntervalDuration.fromStr (overflowChecks : Bool) (s : String) :
    Outcome (Except String Duration) :=
  (splitLast overflowChecks s.toList).bind fun
    | (s, ['s']) => parsed s .returned
    | (s, ['m']) => parsed s fun number => outcome overflowChecks (overflowingMul number 60)
    | (s, ['h']) => parsed s fun number =>
        (outcome overflowChecks (overflowingMul number 60)).bind fun minutes =>
          outcome overflowChecks (overflowingMul minutes 60)
    | _ => .returned (.error "invalid interval")

example : IntervalDuration.fromStr true "5m" = .returned (.ok 300) := by decide

/-! ## Texts of the right form -/

inductive TimeUnit
  | seconds
  | minutes
  | hours
  deriving DecidableEq, Repr

namespace TimeUnit

def symbol : TimeUnit -> Char
  | .seconds => 's'
  | .minutes => 'm'
  | .hours => 'h'

/-- The seconds it has. -/
def length : TimeUnit -> Nat
  | .seconds => 1
  | .minutes => 60
  | .hours => 3600

end TimeUnit

/-- A numeral for a number of 64 bits, and a unit. -/
def IsInterval (s : String) (number : Nat) (unit : TimeUnit) : Prop :=
  Exists fun numeral => s.toList = numeral ++ [unit.symbol] ∧ Spells numeral number ∧
    number < 2 ^ 64

/-! ## The last byte -/

theorem len_append (before after : List Char) : len (before ++ after) = len before + len after := by
  rw [len, List.map_append, List.sum_append, len, len]

/-- What comes before the offset is passed over. -/
theorem splitAt_append (before rest : List Char) (mid : Nat) :
    splitAt (before ++ rest) (len before + mid) =
      (splitAt rest mid).map fun parts => (before ++ parts.1, parts.2) := by
  induction before with
  | nil =>
      have nothing : len [] + mid = mid := Nat.zero_add mid
      rw [List.nil_append, nothing]
      cases splitAt rest mid <;> rfl
  | cons character before inductionHypothesis =>
      have size : len (character :: before) = character.utf8Size + len before := rfl
      have positive := character.utf8Size_pos
      have inside : len (character :: before) + mid - character.utf8Size = len before + mid := by
        omega
      rw [List.cons_append, splitAt, if_neg (by omega), if_neg (by omega), inside,
        inductionHypothesis]
      cases splitAt rest mid <;> rfl

theorem splitLast_concat (overflowChecks : Bool) (before : List Char) (last : Char) :
    splitLast overflowChecks (before ++ [last]) =
      if last.utf8Size = 1 then .returned (before, [last]) else .panicked := by
  have positive := last.utf8Size_pos
  have size : len (before ++ [last]) = len before + last.utf8Size := len_append before [last]
  have offset : len (before ++ [last]) - 1 = len before + (last.utf8Size - 1) := by omega
  rw [splitLast, if_neg (by omega), offset, splitAt_append, splitAt]
  by_cases single : last.utf8Size = 1
  · rw [if_pos (by omega), if_pos single]
    simp [Outcome.map]
  · rw [if_neg (by omega), if_pos (by omega), if_neg single]
    rfl

/-- The text is split unless it has no last byte, or one that is only part of a
character. -/
theorem splitLast_panicked_iff {overflowChecks : Bool} {text : List Char} :
    splitLast overflowChecks text = .panicked ↔
      forall last, text.getLast? = some last -> last.utf8Size ≠ 1 := by
  rcases List.eq_nil_or_concat text with rfl | ⟨before, last, rfl⟩
  · have panics : splitLast overflowChecks [] = .panicked := by cases overflowChecks <;> rfl
    simp [panics]
  · rw [List.concat_eq_append, splitLast_concat, List.getLast?_concat]
    simp

/-! ## The seconds -/

section Parsing

variable {overflowChecks : Bool} {s : String} {numeral before : List Char} {last : Char}
  {unit : TimeUnit} {exact : Nat}

theorem outcome_of : outcome overflowChecks (.of 64 exact) =
    if overflowChecks = true ∧ 2 ^ 64 ≤ exact then .panicked
      else .returned (BitVec.ofNat 64 exact) := by
  simp [outcome, Overflowing.of]

namespace TimeUnit

/-- How a number of units is turned into seconds. -/
def scale (overflowChecks : Bool) : TimeUnit -> BitVec 64 -> Outcome (BitVec 64)
  | .seconds => .returned
  | .minutes => fun number => outcome overflowChecks (overflowingMul number 60)
  | .hours => fun number =>
      (outcome overflowChecks (overflowingMul number 60)).bind fun minutes =>
        outcome overflowChecks (overflowingMul minutes 60)

/-- Multiplying twice overflows like multiplying once. -/
theorem scale_eq (overflowChecks : Bool) (unit : TimeUnit) (number : BitVec 64) :
    unit.scale overflowChecks number =
      outcome overflowChecks (.of 64 (number.toNat * unit.length)) := by
  have below := number.isLt
  cases unit with
  | seconds =>
      rw [length, Nat.mul_one, outcome_of, if_neg (by omega), BitVec.ofNat_toNat,
        BitVec.setWidth_eq]
      rfl
  | minutes => rfl
  | hours =>
      have sixty : (60 : BitVec 64).toNat = 60 := rfl
      simp only [scale, length, overflowingMul, sixty, outcome_of]
      by_cases lost : overflowChecks = true ∧ 2 ^ 64 ≤ number.toNat * 60
      · rw [if_pos lost, if_pos ⟨lost.1, by omega⟩]
        rfl
      · rw [if_neg lost, Outcome.bind, BitVec.toNat_ofNat]
        by_cases checks : overflowChecks = true
        · have fits : number.toNat * 60 < 2 ^ 64 := by
            by_contra large
            exact lost ⟨checks, Nat.not_lt.mp large⟩
          rw [Nat.mod_eq_of_lt fits, Nat.mul_assoc]
        · rw [if_neg (fun both => checks both.1), if_neg (fun both => checks both.1)]
          congr 1
          apply BitVec.eq_of_toNat_eq
          rw [BitVec.toNat_ofNat, BitVec.toNat_ofNat, Nat.mod_mul_mod, Nat.mul_assoc]

end TimeUnit

theorem splitLast_symbol (made : s.toList = numeral ++ [unit.symbol]) :
    splitLast overflowChecks s.toList = .returned (numeral, [unit.symbol]) := by
  rw [made, splitLast_concat, if_pos (by cases unit <;> rfl)]

theorem fromStr_symbol (made : s.toList = numeral ++ [unit.symbol]) :
    IntervalDuration.fromStr overflowChecks s = parsed numeral (unit.scale overflowChecks) := by
  rw [IntervalDuration.fromStr, splitLast_symbol made]
  cases unit <;> rfl

/-- Any other last character is an invalid interval. -/
theorem fromStr_invalid (made : s.toList = before ++ [last]) (single : last.utf8Size = 1)
    (other : forall unit : TimeUnit, unit.symbol ≠ last) :
    IntervalDuration.fromStr overflowChecks s = .returned (.error "invalid interval") := by
  rw [IntervalDuration.fromStr, made, splitLast_concat, if_pos single, Outcome.bind]
  split
  · next same =>
      simp only [Prod.mk.injEq, List.cons.injEq] at same
      exact absurd same.2.1.symm (other .seconds)
  · next same =>
      simp only [Prod.mk.injEq, List.cons.injEq] at same
      exact absurd same.2.1.symm (other .minutes)
  · next same =>
      simp only [Prod.mk.injEq, List.cons.injEq] at same
      exact absurd same.2.1.symm (other .hours)
  · rfl

/-- What the code makes of a numeral and a unit. -/
theorem fromStr_of_isInterval {number : Nat} (interval : IsInterval s number unit) :
    IntervalDuration.fromStr overflowChecks s =
      if overflowChecks = true ∧ 2 ^ 64 ≤ number * unit.length then .panicked
      else .returned (.ok ((number * unit.length % 2 ^ 64 : Nat) : Rat)) := by
  rcases interval with ⟨numeral, made, spells, below⟩
  have word : (BitVec.ofNat 64 number).toNat = number := Overflowing.toNat_value_of below
  rw [← word] at spells
  rw [fromStr_symbol made, parsed, fromStr_eq_ok_iff.mpr spells]
  simp only [TimeUnit.scale_eq, outcome_of, word]
  split
  · rfl
  · simp [Outcome.map, fromSecs]

theorem fromStr_of_error {kind : IntErrorKind} (made : s.toList = numeral ++ [unit.symbol])
    (read : Arith.fromStr 64 numeral = .error kind) :
    IntervalDuration.fromStr overflowChecks s = .returned (.error kind.description) := by
  rw [fromStr_symbol made, parsed, read]

/-- A text ends in no whole byte, in a unit, or in another character of one byte. -/
theorem last_cases (s : String) :
    (forall last, s.toList.getLast? = some last -> last.utf8Size ≠ 1) ∨
    (Exists fun numeral => Exists fun unit : TimeUnit => s.toList = numeral ++ [unit.symbol]) ∨
    (Exists fun before => Exists fun last => s.toList = before ++ [last] ∧ last.utf8Size = 1 ∧
      forall unit : TimeUnit, unit.symbol ≠ last) := by
  rcases List.eq_nil_or_concat s.toList with empty | ⟨before, last, made⟩
  · refine Or.inl fun last found => ?_
    rw [empty] at found
    cases found
  · rw [List.concat_eq_append] at made
    by_cases known : Exists fun unit : TimeUnit => unit.symbol = last
    · rcases known with ⟨unit, rfl⟩
      exact Or.inr (Or.inl ⟨before, unit, made⟩)
    · by_cases single : last.utf8Size = 1
      · exact Or.inr (Or.inr ⟨before, last, made, single, not_exists.mp known⟩)
      · refine Or.inl fun other found => ?_
        rw [made, List.getLast?_concat, Option.some.injEq] at found
        rwa [← found]

/-- A text that is not panicked at is an interval or an error. -/
theorem isInterval_or_error (noPanic : splitLast overflowChecks s.toList ≠ .panicked) :
    (Exists fun number => Exists fun unit : TimeUnit => IsInterval s number unit) ∨
    Exists fun err => IntervalDuration.fromStr overflowChecks s = .returned (.error err) := by
  rcases last_cases s with noByte | ⟨numeral, unit, made⟩ | ⟨before, last, made, single, other⟩
  · exact absurd (splitLast_panicked_iff.mpr noByte) noPanic
  · cases read : Arith.fromStr 64 numeral with
    | ok number =>
        exact Or.inl ⟨_, unit, numeral, made, fromStr_eq_ok_iff.mp read, number.isLt⟩
    | error kind => exact Or.inr ⟨_, fromStr_of_error made read⟩
  · exact Or.inr ⟨_, fromStr_invalid made single other⟩

end Parsing

/-! ## Exact seconds -/

/-- The exact number of seconds, or an error if 64 bits are too few for it. -/
structure ExactSeconds (seconds : Nat) (result : Outcome (Except String Duration)) : Prop where
  fits : seconds < 2 ^ 64 -> result = .returned (.ok (seconds : Rat))
  large : 2 ^ 64 ≤ seconds -> Exists fun err => result = .returned (.error err)

/-- An interval is exact if its seconds fit into 64 bits, and only then: there is
no error for those that do not. -/
theorem fromStr_exactSeconds_iff (overflowChecks : Bool) (s : String) (number : Nat)
    (unit : TimeUnit) (interval : IsInterval s number unit) :
    ExactSeconds (number * unit.length) (IntervalDuration.fromStr overflowChecks s) ↔
      number * unit.length < 2 ^ 64 := by
  have result := @fromStr_of_isInterval overflowChecks s unit number interval
  constructor
  · intro exact
    by_contra large
    rcases exact.large (Nat.not_lt.mp large) with ⟨err, rejected⟩
    rw [result] at rejected
    split at rejected <;> cases rejected
  · intro fits
    refine ⟨fun _ => ?_, fun large => absurd fits (Nat.not_lt.mpr large)⟩
    rw [result, if_neg (fun both => absurd fits (Nat.not_lt.mpr both.2)), Nat.mod_eq_of_lt fits]

/-- Thirty hours. -/
theorem fromStr_exactSeconds_iff_thirty :
    ExactSeconds (30 * TimeUnit.hours.length) (IntervalDuration.fromStr true "30h") ↔
      30 * TimeUnit.hours.length < 2 ^ 64 :=
  fromStr_exactSeconds_iff true "30h" 30 .hours
    ⟨['3', '0'], by decide, ⟨[3, 0], by decide, by decide, by decide, Or.inl (by decide)⟩,
      by decide⟩

/-- So many minutes have 44 seconds more than fit into 64 bits. -/
theorem minutes_overflow :
    IntervalDuration.fromStr true "307445734561825861m" = .panicked ∧
    IntervalDuration.fromStr false "307445734561825861m" = .returned (.ok 44) ∧
    ¬ forall (overflowChecks : Bool) (s : String) (number : Nat) (unit : TimeUnit),
      IsInterval s number unit ->
        ExactSeconds (number * unit.length) (IntervalDuration.fromStr overflowChecks s) := by
  have checked : IntervalDuration.fromStr true "307445734561825861m" = .panicked := by decide
  refine ⟨checked, by decide, fun claim => ?_⟩
  have read : Arith.fromStr 64 "307445734561825861".toList = .ok 307445734561825861 := by decide
  have interval : IsInterval "307445734561825861m" 307445734561825861 .minutes :=
    ⟨"307445734561825861".toList, by decide, fromStr_eq_ok_iff.mp read, by decide⟩
  rcases (claim true _ _ _ interval).large (by decide) with ⟨err, rejected⟩
  rw [checked] at rejected
  cases rejected

/-! ## Total parsing -/

/-- The `match` is reached, and whatever is not an interval is an error. -/
structure ParsesTotally (overflowChecks : Bool) (s : String) : Prop where
  reached : splitLast overflowChecks s.toList ≠ .panicked
  rejected : (forall number unit, ¬ IsInterval s number unit) -> Exists fun err =>
    IntervalDuration.fromStr overflowChecks s = .returned (.error err)

/-- Parsing is total on the texts whose last character is a single byte, so it is
not on the empty text. -/
theorem parsesTotally_iff (overflowChecks : Bool) (s : String) :
    ParsesTotally overflowChecks s ↔
      Exists fun last => s.toList.getLast? = some last ∧ last.utf8Size = 1 := by
  constructor
  · intro total
    by_contra none
    refine total.reached (splitLast_panicked_iff.mpr fun last found single => ?_)
    exact none ⟨last, found, single⟩
  · rintro ⟨last, found, single⟩
    have noPanic : splitLast overflowChecks s.toList ≠ .panicked :=
      fun panics => splitLast_panicked_iff.mp panics last found single
    refine ⟨noPanic, fun noInterval => ?_⟩
    rcases isInterval_or_error noPanic with ⟨number, unit, interval⟩ | rejected
    · exact absurd interval (noInterval number unit)
    · exact rejected

/-- The empty text has no last byte, and a letter with an accent is no single
one. -/
theorem fromStr_panics :
    splitLast true "".toList = .panicked ∧ splitLast false "".toList = .panicked ∧
    splitLast true "5é".toList = .panicked ∧ splitLast false "5é".toList = .panicked ∧
    ¬ forall (overflowChecks : Bool) (s : String), ParsesTotally overflowChecks s := by
  have empty : splitLast true "".toList = .panicked := by decide
  exact ⟨empty, by decide, by decide, by decide, fun claim => (claim true "").reached empty⟩

end Cli
end Fpd
