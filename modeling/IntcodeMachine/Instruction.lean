import IntcodeMachine.Mode
import IntcodeMachine.Opcode

/-!
# Instructions

An instruction is an operation with one mode for each of its parameters, packed into one
word.  The class of the word selects the operation.  The decimal digits of its quotient by
100, rounded down and taken without its sign, are the modes, lowest digit first.  Digits
above the number of parameters do not matter.

* `Instruction.length_modes_of_modesOf`: as many modes are read as are asked for, at most
  three.
* `Instruction.length_modes_of_decode`: a decoded instruction has one mode per parameter.
-/

namespace IntcodeMachine

/-- An operation and the modes of its parameters. -/
structure Instruction where
  /-- The operation. -/
  opcode : Opcode
  /-- The modes of its parameters, first parameter first. -/
  modes : List Mode
  deriving DecidableEq, Repr

namespace Instruction

/-- The number whose decimal digits are the modes in a raw value. -/
def modeDigits (raw : Word) : Nat := (raw.toInt / 100).natAbs

/-- The first modes in a raw value.  No operation takes more than three parameters, so more
modes than three are never read. -/
def modesOf (raw : Word) (count : Nat) : Except InvalidMode (List Mode) :=
  Mode.ofDigits (min count Opcode.maxArity) (modeDigits raw)

/-- The instruction in a raw value; none if its class selects no operation. -/
def decode (raw : Word) : Except InvalidMode (Option Instruction) :=
  match Opcode.ofClass? (Opcode.classOf raw) with
  | none => .ok none
  | some opcode => (modesOf raw opcode.arity).map fun modes => some { opcode, modes }

/-- The number of parameters. -/
def arity (i : Instruction) : Nat := i.opcode.arity

theorem length_modes_of_ofDigits {count number : Nat} {modes : List Mode}
    (h : Mode.ofDigits count number = .ok modes) : modes.length = count := by
  induction count generalizing number modes with
  | zero =>
      cases h
      rfl
  | succ count ih =>
      unfold Mode.ofDigits at h
      split at h
      · cases hrest : Mode.ofDigits count (number / 10) with
        | error e =>
            rw [hrest] at h
            cases h
        | ok rest =>
            rw [hrest] at h
            cases h
            simp [ih hrest]
      · cases h

theorem length_modes_of_modesOf {raw : Word} {count : Nat} {modes : List Mode}
    (h : modesOf raw count = .ok modes) : modes.length = min count Opcode.maxArity :=
  length_modes_of_ofDigits h

theorem length_modes_of_decode {raw : Word} {i : Instruction}
    (h : decode raw = .ok (some i)) : i.modes.length = i.arity := by
  unfold decode at h
  split at h
  · cases h
  · next opcode _ =>
    cases hmodes : modesOf raw opcode.arity with
    | error e =>
        rw [hmodes] at h
        cases h
    | ok modes =>
        rw [hmodes] at h
        cases h
        rw [length_modes_of_modesOf hmodes]
        exact Nat.min_eq_left opcode.arity_le_maxArity

end Instruction

end IntcodeMachine
