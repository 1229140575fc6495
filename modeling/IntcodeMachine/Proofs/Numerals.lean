import IntcodeMachine.Numeral
import IntcodeMachine.Text.Blank
import Mathlib.Data.List.TakeWhile

/-!
# What numerals denote

A numeral is read digit by digit, and every value on the way has to be a word.  That is no
restriction: the values only move away from 0, so if the last one is a word then all of them
are.  So a text is read exactly when it has the form of a numeral and denotes a word as a whole,
whatever its leading zeros.

* `Numeral.readDigits_eq`: reading digits goes by the longest run of them.
* `Numeral.readDigits_eq_ok_iff`: reading digits computes the number that they denote.
* `Numeral.read_eq_ok_iff`: a text is read as a word exactly when it denotes it.
* `Numeral.denotes_write`: the shortest numeral of a word denotes it.
-/

namespace IntcodeMachine

namespace Sign

/-- Of two magnitudes the smaller one gives a word if the greater one does. -/
theorem inRange_apply_of_le {sign : Sign} {n k : Nat} (hle : n ≤ k)
    (h : Word.InRange (sign.apply k)) : Word.InRange (sign.apply n) := by
  unfold Word.InRange at h ⊢
  cases sign with
  | plus =>
      simp only [apply] at h ⊢
      omega
  | minus =>
      simp only [apply] at h ⊢
      omega

/-- A digit is appended in the direction of the sign. -/
theorem apply_digit (sign : Sign) (n d : Nat) :
    10 * sign.apply n + sign.apply d = sign.apply (10 * n + d : Nat) := by
  cases sign with
  | plus =>
      simp only [apply]
      omega
  | minus =>
      simp only [apply]
      omega

end Sign

namespace Numeral

/-- Digits that follow after a number make it no smaller. -/
theorem le_ofDigitChars (digits : List Char) (n : Nat) : n ≤ Nat.ofDigitChars 10 digits n := by
  induction digits generalizing n with
  | nil => exact Nat.le_refl n
  | cons c cs ih =>
      rw [Nat.ofDigitChars_cons]
      have hrest := ih (10 * n + (c.toNat - '0'.toNat))
      omega

/-- At least one decimal digit and nothing else. -/
structure Digits (text : List Char) : Prop where
  ne_nil : text ≠ []
  isDigit : ∀ c ∈ text, c.isDigit = true

/-- The words that texts denote: an optional sign, then digits, whose number with this sign is
the value of the word. -/
inductive Denotes : List Char → Word → Prop where
  | unsigned {digits : List Char} {w : Word} (hdigits : Digits digits)
      (hvalue : w.toInt = Sign.plus.apply (Nat.ofDigitChars 10 digits 0)) : Denotes digits w
  | plus {digits : List Char} {w : Word} (hdigits : Digits digits)
      (hvalue : w.toInt = Sign.plus.apply (Nat.ofDigitChars 10 digits 0)) :
      Denotes ('+' :: digits) w
  | minus {digits : List Char} {w : Word} (hdigits : Digits digits)
      (hvalue : w.toInt = Sign.minus.apply (Nat.ofDigitChars 10 digits 0)) :
      Denotes ('-' :: digits) w

/-- The longest run of digits at the start of a text. -/
def leadingDigits (text : List Char) : List Char := text.takeWhile Char.isDigit

theorem leadingDigits_cons_of_isDigit {c : Char} (cs : List Char) (h : c.isDigit = true) :
    leadingDigits (c :: cs) = c :: leadingDigits cs := List.takeWhile_cons_of_pos h

theorem leadingDigits_cons_of_not {c : Char} (cs : List Char) (h : ¬ c.isDigit = true) :
    leadingDigits (c :: cs) = [] := List.takeWhile_cons_of_neg h

/-- **Reading digits goes by the longest run of them**: by the number that it denotes after what has
been read, and by whether it is all. -/
theorem readDigits_eq {sign : Sign} {value : Word} {n : Nat} (hvalue : value.toInt = sign.apply n)
    (text : List Char) :
    readDigits sign value text =
      match Word.ofInt? (sign.apply (Nat.ofDigitChars 10 (leadingDigits text) n)) with
      | none => .error sign.overflow
      | some w => if leadingDigits text = text then .ok w else .error .invalidDigit := by
  induction text generalizing value n with
  | nil =>
      have hself : Word.ofInt? (sign.apply n) = some value := Word.ofInt?_eq_some_iff.mpr hvalue
      simp only [leadingDigits, List.takeWhile_nil, Nat.ofDigitChars_nil, hself, if_true]
      rfl
  | cons c cs ih =>
      rw [readDigits]
      by_cases hdigit : c.isDigit = true
      · have hcons : Nat.ofDigitChars 10 (c :: leadingDigits cs) n =
            Nat.ofDigitChars 10 (leadingDigits cs) (10 * n + digitValue c) := Nat.ofDigitChars_cons
        rw [if_pos hdigit, leadingDigits_cons_of_isDigit cs hdigit, hcons, hvalue, Sign.apply_digit]
        cases hextended : Word.ofInt? (sign.apply (10 * n + digitValue c : Nat)) with
        | none =>
            -- the run goes on, but what it denotes only moves further away from 0
            have hout := Word.ofInt?_eq_none_iff.mp hextended
            have hle := le_ofDigitChars (leadingDigits cs) (10 * n + digitValue c)
            have hrun := mt (Sign.inRange_apply_of_le hle) hout
            rw [Word.ofInt?_eq_none_iff.mpr hrun]
        | some extended =>
            simp only [List.cons.injEq, true_and]
            exact ih (Word.ofInt?_eq_some_iff.mp hextended)
      · have hself : Word.ofInt? (sign.apply n) = some value := Word.ofInt?_eq_some_iff.mpr hvalue
        rw [if_neg hdigit, leadingDigits_cons_of_not cs hdigit]
        simp only [Nat.ofDigitChars_nil, hself]
        rfl

/-- **Reading digits computes the number that they denote.**  The values on the way are no
farther from 0 than the last one. -/
theorem readDigits_eq_ok_iff {sign : Sign} {value w : Word} {n : Nat} {digits : List Char}
    (hvalue : value.toInt = sign.apply n) :
    readDigits sign value digits = .ok w ↔
      (∀ c ∈ digits, c.isDigit = true) ∧
        w.toInt = sign.apply (Nat.ofDigitChars 10 digits n) := by
  have hall : leadingDigits digits = digits ↔ ∀ c ∈ digits, c.isDigit = true :=
    List.takeWhile_eq_self_iff
  rw [readDigits_eq hvalue, ← hall]
  cases hrun : Word.ofInt? (sign.apply (Nat.ofDigitChars 10 (leadingDigits digits) n)) with
  | none =>
      simp only [reduceCtorEq, false_iff, not_and]
      intro hdigits hw
      rw [hdigits] at hrun
      exact Word.ofInt?_eq_none_iff.mp hrun (hw ▸ Word.inRange_toInt w)
  | some v =>
      by_cases hdigits : leadingDigits digits = digits
      · have hv := Word.ofInt?_eq_some_iff.mp hrun
        rw [hdigits] at hv
        simp only [hdigits, if_true, true_and, Except.ok.injEq, ← hv, Int64.toInt_inj]
        exact eq_comm
      · simp [hdigits]

theorem readUnsigned_eq_ok_iff {sign : Sign} {w : Word} {digits : List Char} :
    readUnsigned sign digits = .ok w ↔
      Digits digits ∧ w.toInt = sign.apply (Nat.ofDigitChars 10 digits 0) := by
  have hzero : Int64.toInt 0 = sign.apply (0 : Nat) := by cases sign <;> decide
  cases digits with
  | nil =>
      simp only [readUnsigned, reduceCtorEq, false_iff]
      intro h
      exact h.1.ne_nil rfl
  | cons c cs =>
      rw [readUnsigned, readDigits_eq_ok_iff hzero]
      constructor
      · intro h
        exact ⟨⟨List.cons_ne_nil c cs, h.1⟩, h.2⟩
      · intro h
        exact ⟨h.1.isDigit, h.2⟩

/-- A sign is not a digit, so what follows a sign is not a numeral without one. -/
theorem not_digits_cons {c : Char} {cs : List Char} (h : c.isDigit = false) :
    ¬ Digits (c :: cs) := by
  intro hdigits
  have hdigit := hdigits.isDigit c List.mem_cons_self
  rw [h] at hdigit
  cases hdigit

/-- **A text is read as a word exactly when it denotes it.** -/
theorem read_eq_ok_iff {text : List Char} {w : Word} : read text = .ok w ↔ Denotes text w := by
  unfold read
  split
  · simp only [reduceCtorEq, false_iff]
    intro h
    cases h with
    | unsigned hdigits _ => exact hdigits.ne_nil rfl
  · next cs =>
    rw [readUnsigned_eq_ok_iff]
    constructor
    · intro h
      exact .plus h.1 h.2
    · intro h
      cases h with
      | unsigned hdigits _ => exact absurd hdigits (not_digits_cons (by decide))
      | plus hdigits hvalue => exact ⟨hdigits, hvalue⟩
  · next cs =>
    rw [readUnsigned_eq_ok_iff]
    constructor
    · intro h
      exact .minus h.1 h.2
    · intro h
      cases h with
      | unsigned hdigits _ => exact absurd hdigits (not_digits_cons (by decide))
      | minus hdigits hvalue => exact ⟨hdigits, hvalue⟩
  · next hplus hminus =>
    rw [readUnsigned_eq_ok_iff]
    constructor
    · intro h
      exact .unsigned h.1 h.2
    · intro h
      cases h with
      | unsigned hdigits hvalue => exact ⟨hdigits, hvalue⟩
      | plus _ _ => exact absurd rfl (hplus _)
      | minus _ _ => exact absurd rfl (hminus _)

theorem digits_toDigits (n : Nat) : Digits (Nat.toDigits 10 n) where
  ne_nil := Nat.toDigits_ne_nil
  isDigit := fun _ hc => Nat.isDigit_of_mem_toDigits (by decide) (by decide) hc

/-- The shortest numeral of a word denotes it. -/
theorem denotes_write (w : Word) : Denotes (write w) w := by
  unfold write
  split
  · next hneg =>
    refine .minus (digits_toDigits _) ?_
    have hvalue := Word.lt_zero_iff.mp hneg
    rw [Nat.ofDigitChars_ten_toDigits, Sign.apply]
    omega
  · next hnonneg =>
    refine .unsigned (digits_toDigits _) ?_
    have hvalue := mt Word.lt_zero_iff.mpr hnonneg
    rw [Nat.ofDigitChars_ten_toDigits, Sign.apply]
    omega

/-- A character of a numeral: a digit or a sign. -/
def IsMark (c : Char) : Prop := c.isDigit = true ∨ c = '+' ∨ c = '-'

theorem Digits.isMark {text : List Char} (h : Digits text) : ∀ c ∈ text, IsMark c :=
  fun c hc => Or.inl (h.isDigit c hc)

namespace Denotes

variable {text : List Char} {w : Word}

theorem ne_nil (h : Denotes text w) : text ≠ [] := by
  cases h with
  | unsigned hdigits _ => exact hdigits.ne_nil
  | plus _ _ => exact List.cons_ne_nil _ _
  | minus _ _ => exact List.cons_ne_nil _ _

theorem isMark (h : Denotes text w) : ∀ c ∈ text, IsMark c := by
  cases h with
  | unsigned hdigits _ => exact hdigits.isMark
  | plus hdigits _ => exact List.forall_mem_cons.mpr ⟨Or.inr (Or.inl rfl), hdigits.isMark⟩
  | minus hdigits _ => exact List.forall_mem_cons.mpr ⟨Or.inr (Or.inr rfl), hdigits.isMark⟩

end Denotes

namespace IsMark

variable {c : Char}

theorem not_blank (h : IsMark c) : Text.isBlank c = false := by
  rcases h with hdigit | rfl | rfl
  · obtain ⟨hlow, hhigh⟩ := Char.isDigit_iff_toNat.mp hdigit
    have hzero : '0'.toNat = 48 := by decide
    have hnine : '9'.toNat = 57 := by decide
    rw [hzero] at hlow
    rw [hnine] at hhigh
    simp only [Text.isBlank, Text.blankRanges, List.any_cons, List.any_nil, Bool.or_eq_false_iff,
      Bool.and_eq_false_iff, decide_eq_false_iff_not, and_true]
    omega
  · decide
  · decide

theorem ne_comma (h : IsMark c) : c ≠ ',' := by
  rintro rfl
  rcases h with h | h | h <;> revert h <;> decide

theorem ne_angle (h : IsMark c) : c ≠ '<' := by
  rintro rfl
  rcases h with h | h | h <;> revert h <;> decide

end IsMark

end Numeral

end IntcodeMachine
