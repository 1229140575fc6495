/-!
# Parameter modes

The mode of a parameter says how the cell that holds it is meant: as the address of the
value, as the value itself, or as an address counted from the relative base.  Modes are
written as the decimal digits 0, 1 and 2.

* `Mode.ofDigit_eq_ok_iff`: a digit is accepted exactly when it is the digit of the mode
  returned.
-/

namespace IntcodeMachine

/-- How a parameter is to be understood. -/
inductive Mode where
  /-- The parameter is the address of the value. -/
  | position
  /-- The parameter is the value. -/
  | immediate
  /-- The parameter plus the relative base is the address of the value. -/
  | relative
  deriving DecidableEq, Repr

/-- A digit that stands for no mode. -/
structure InvalidMode where
  /-- The digit. -/
  digit : Int
  deriving DecidableEq, Repr

/-- The wording of an invalid mode. -/
def InvalidMode.message (e : InvalidMode) : String :=
  s!"invalid parameter mode {e.digit}"

namespace Mode

/-- The digit that stands for a mode. -/
def digit : Mode → Nat
  | .position => 0
  | .immediate => 1
  | .relative => 2

/-- The mode that a digit stands for. -/
def ofDigit : Int → Except InvalidMode Mode
  | 0 => .ok .position
  | 1 => .ok .immediate
  | 2 => .ok .relative
  | d => .error { digit := d }

@[simp]
theorem ofDigit_digit (m : Mode) : ofDigit m.digit = .ok m := by
  cases m <;> rfl

theorem ofDigit_eq_ok_iff {d : Int} {m : Mode} : ofDigit d = .ok m ↔ d = m.digit := by
  constructor
  · intro h
    unfold ofDigit at h
    split at h <;> cases h <;> rfl
  · rintro rfl
    exact ofDigit_digit m

/-- Every digit but 0, 1 and 2 is refused, and named. -/
theorem ofDigit_eq_error_iff {d : Int} {e : InvalidMode} :
    ofDigit d = .error e ↔ (d < 0 ∨ 2 < d) ∧ e = { digit := d } := by
  unfold ofDigit
  split
  · simp
  · simp
  · simp
  · next h0 h1 h2 =>
    have hd : d < 0 ∨ 2 < d := by
      have hzero : d ≠ 0 := h0
      have hone : d ≠ 1 := h1
      have htwo : d ≠ 2 := h2
      omega
    simp [hd, eq_comm]

/-- The modes that the lowest `count` decimal digits of a number stand for, lowest digit
first.  The lowest digit that stands for no mode is the one reported. -/
def ofDigits : (count : Nat) → (number : Nat) → Except InvalidMode (List Mode)
  | 0, _ => .ok []
  | count + 1, number =>
      match ofDigit (number % 10 : Nat) with
      | .ok mode => (ofDigits count (number / 10)).map (mode :: ·)
      | .error e => .error e

end Mode

end IntcodeMachine
