import IntcodeMachine.Instruction
import Mathlib.Algebra.Group.Nat.Defs

/-!
# Mode digits

`Mode.ofDigits` peels digits off a number one by one.  This file says what it finds in terms
of the number itself: the digit in place `i` is the number divided by `10 ^ i`, modulo 10.

* `Mode.ofDigits_eq_ok_iff`: modes are read exactly when they stand for the lowest digits, in
  order.
* `Mode.ofDigits_eq_error_iff`: the digit reported is the lowest one that stands for no mode.
-/

namespace IntcodeMachine

/-- The decimal digit of a number in a place; the lowest place is 0. -/
def digitAt (number place : Nat) : Nat := number / 10 ^ place % 10

theorem digitAt_zero (number : Nat) : digitAt number 0 = number % 10 := by
  rw [digitAt, Nat.pow_zero, Nat.div_one]

theorem digitAt_succ (number place : Nat) :
    digitAt number (place + 1) = digitAt (number / 10) place := by
  rw [digitAt, digitAt, Nat.pow_succ, Nat.mul_comm, Nat.div_div_eq_div_mul]

/-- The digits of a number in the lowest places, lowest first: its last digit, and then those
of its tenth. -/
theorem map_digitAt_range_succ (number count : Nat) :
    (List.range (count + 1)).map (digitAt number) =
      number % 10 :: (List.range count).map (digitAt (number / 10)) := by
  rw [List.range_succ_eq_map, List.map_cons, List.map_map, digitAt_zero]
  congr 1
  apply List.map_congr_left
  intro place _
  exact digitAt_succ number place

namespace Mode

theorem digit_le_two (m : Mode) : m.digit ≤ 2 := by
  cases m <;> decide

theorem digit_injective {m n : Mode} (h : m.digit = n.digit) : m = n := by
  cases m <;> cases n <;> first | rfl | cases h

variable {count number : Nat}

/-- One more mode is read exactly when the lowest digit stands for it, and the others are read of
the digits above. -/
theorem ofDigits_succ_eq_ok_iff {modes : List Mode} :
    ofDigits (count + 1) number = .ok modes ↔
      ∃ mode rest, modes = mode :: rest ∧ mode.digit = number % 10 ∧
        ofDigits count (number / 10) = .ok rest := by
  rw [ofDigits]
  cases hfirst : ofDigit ((number % 10 : Nat) : Int) with
  | error e =>
      obtain ⟨hdigit, _⟩ := ofDigit_eq_error_iff.mp hfirst
      simp only [reduceCtorEq, false_iff]
      rintro ⟨mode, _, _, hmode, _⟩
      have hle := mode.digit_le_two
      omega
  | ok mode =>
      have hmode := ofDigit_eq_ok_iff.mp hfirst
      cases hrest : ofDigits count (number / 10) with
      | error e => simp [Except.map]
      | ok rest =>
          constructor
          · intro h
            cases h
            exact ⟨mode, rest, rfl, by omega, rfl⟩
          · rintro ⟨first, others, rfl, hfirst, hothers⟩
            cases hothers
            rw [digit_injective (show first.digit = mode.digit by omega)]
            rfl

/-- A digit is refused exactly if the lowest one is, or if that one stands for a mode and one of
those above is refused. -/
theorem ofDigits_succ_eq_error_iff {e : InvalidMode} :
    ofDigits (count + 1) number = .error e ↔
      2 < number % 10 ∧ e = { digit := (number % 10 : Nat) } ∨
        number % 10 ≤ 2 ∧ ofDigits count (number / 10) = .error e := by
  rw [ofDigits]
  cases hfirst : ofDigit ((number % 10 : Nat) : Int) with
  | error other =>
      obtain ⟨hdigit, rfl⟩ := ofDigit_eq_error_iff.mp hfirst
      have hbad : 2 < number % 10 := by omega
      simp [hbad, Nat.not_le.mpr hbad, eq_comm]
  | ok mode =>
      have hmode := ofDigit_eq_ok_iff.mp hfirst
      have hle := mode.digit_le_two
      have hgood : number % 10 ≤ 2 := by omega
      cases ofDigits count (number / 10) <;> simp [Except.map, hgood, Nat.not_lt.mpr hgood]

/-- Modes are read exactly when they stand for the lowest digits, in order. -/
theorem ofDigits_eq_ok_iff {modes : List Mode} :
    ofDigits count number = .ok modes ↔
      modes.map digit = (List.range count).map (digitAt number) := by
  induction count generalizing number modes with
  | zero =>
      simp only [ofDigits, Except.ok.injEq, List.range_zero, List.map_nil, List.map_eq_nil_iff]
      exact eq_comm
  | succ count ih =>
      rw [map_digitAt_range_succ, ofDigits_succ_eq_ok_iff, List.map_eq_cons_iff]
      simp only [ih]

/-- The digit reported is the lowest one that stands for no mode. -/
theorem ofDigits_eq_error_iff {e : InvalidMode} :
    ofDigits count number = .error e ↔
      ∃ place, place < count ∧ 2 < digitAt number place ∧
        (∀ lower, lower < place → digitAt number lower ≤ 2) ∧
        e = { digit := digitAt number place } := by
  induction count generalizing number with
  | zero => simp [ofDigits]
  | succ count ih =>
      rw [ofDigits_succ_eq_error_iff, ih, ← digitAt_zero]
      simp only [← digitAt_succ]
      constructor
      · rintro (⟨hbad, rfl⟩ | ⟨hgood, place, hplace, hbad, hlower, rfl⟩)
        · exact ⟨0, Nat.succ_pos count, hbad, fun _ h => absurd h (Nat.not_lt_zero _), rfl⟩
        · refine ⟨place + 1, Nat.succ_lt_succ hplace, hbad, ?_, rfl⟩
          intro lower hlt
          cases lower with
          | zero => exact hgood
          | succ lower => exact hlower lower (Nat.lt_of_succ_lt_succ hlt)
      · rintro ⟨place, hplace, hbad, hlower, rfl⟩
        cases place with
        | zero => exact .inl ⟨hbad, rfl⟩
        | succ place =>
            exact .inr ⟨hlower 0 (Nat.succ_pos place), place, Nat.lt_of_succ_lt_succ hplace, hbad,
              fun lower hlt => hlower (lower + 1) (Nat.succ_lt_succ hlt), rfl⟩

end Mode

end IntcodeMachine
