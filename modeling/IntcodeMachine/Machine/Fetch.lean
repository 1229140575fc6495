import IntcodeMachine.Event
import IntcodeMachine.Fault
import IntcodeMachine.Instruction

/-!
# Fetching an instruction

The first half of a step reads the cell at the program counter, decodes it and reads as many
cells after it as the operation has parameters.  Nothing is resolved yet: parameters are
taken as they stand in memory.

* `length_parameters_of_fetch`: what is fetched has as many parameters as its operation
  takes.
-/

namespace IntcodeMachine

/-- A parameter as it stands in memory, with its mode. -/
structure Parameter where
  /-- The mode that the instruction gives to it. -/
  mode : Mode
  /-- The cell that holds it. -/
  value : Word
  deriving DecidableEq, Repr

/-- An instruction in its place, with its parameters. -/
structure Fetched where
  /-- Its address. -/
  pc : Word
  /-- The word that it is packed into. -/
  raw : Word
  /-- The operation. -/
  opcode : Opcode
  /-- The parameters, in order. -/
  parameters : List Parameter
  deriving DecidableEq, Repr

/-- What the program counter may point at. -/
inductive Fetch where
  /-- A cell whose class selects no operation. -/
  | unknown (raw : Word)
  /-- An instruction. -/
  | known (fetched : Fetched)
  deriving DecidableEq, Repr

/-- The value at an address, or the fault of reading there. -/
def Memory.load (memory : Memory) (address : Word) : Except Fault Word :=
  match memory.read address with
  | .ok value => .ok value
  | .error e => .error (.address e)

namespace Fetch

/-- The values of `count` cells, the first of which lies `offset` cells after the program
counter. -/
def window (memory : Memory) (pc raw : Word) (offset : Nat) : (count : Nat) →
    Except Fault (List Word)
  | 0 => .ok []
  | count + 1 =>
      match Word.ofInt? (pc.toInt + offset) with
      | none => .error (.overflow pc raw)
      | some address =>
          match memory.load address with
          | .error fault => .error fault
          | .ok value => (window memory pc raw (offset + 1) count).map (value :: ·)

/-- An instruction with the parameters that follow it. -/
def complete (memory : Memory) (pc raw : Word) (i : Instruction) : Except Fault Fetched :=
  (window memory pc raw 1 i.arity).map fun values =>
    { pc, raw, opcode := i.opcode, parameters := List.zipWith Parameter.mk i.modes values }

/-- Reads what the program counter points at. -/
def fetch (memory : Memory) (pc : Word) : Except Fault Fetch :=
  match memory.load pc with
  | .error fault => .error fault
  | .ok raw =>
      match Instruction.decode raw with
      | .error e => .error (.invalidMode pc raw e.digit)
      | .ok none => .ok (.unknown raw)
      | .ok (some i) => (complete memory pc raw i).map .known

theorem length_of_window {memory : Memory} {pc raw : Word} {offset count : Nat}
    {values : List Word} (h : window memory pc raw offset count = .ok values) :
    values.length = count := by
  induction count generalizing offset values with
  | zero =>
      cases h
      rfl
  | succ count ih =>
      unfold window at h
      split at h
      · cases h
      · split at h
        · cases h
        · cases hrest : window memory pc raw (offset + 1) count with
          | error fault =>
              rw [hrest] at h
              cases h
          | ok rest =>
              rw [hrest] at h
              cases h
              simp [ih hrest]

/-- What is fetched has as many parameters as its operation takes. -/
theorem length_parameters_of_fetch {memory : Memory} {pc : Word} {f : Fetched}
    (h : fetch memory pc = .ok (.known f)) : f.parameters.length = f.opcode.arity := by
  unfold fetch at h
  split at h
  · cases h
  · next raw _ =>
    split at h
    · cases h
    · cases h
    · next i hdecode =>
      unfold complete at h
      cases hwindow : window memory pc raw 1 i.arity with
      | error fault =>
          rw [hwindow] at h
          cases h
      | ok values =>
          rw [hwindow] at h
          cases h
          have hmodes := Instruction.length_modes_of_decode hdecode
          have hvalues := length_of_window hwindow
          simp only [List.length_zipWith, hmodes, hvalues, Nat.min_self]
          rfl

end Fetch

end IntcodeMachine
