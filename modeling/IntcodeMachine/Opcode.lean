import IntcodeMachine.Word

/-!
# Opcodes

The ten operations of the machine.  The class of a raw value, its remainder by 100, selects
the operation; a class outside the table selects none.

* `Opcode.ofClass?_eq_some_iff`: the table is read the same way in both directions.
-/

namespace IntcodeMachine

/-- The operations of the machine. -/
inductive Opcode where
  /-- Stores the sum of two operands. -/
  | add
  /-- Stores the product of two operands. -/
  | multiply
  /-- Stores a value taken from the input. -/
  | input
  /-- Hands an operand to the output. -/
  | output
  /-- Goes to the second operand unless the first is 0. -/
  | jumpIfTrue
  /-- Goes to the second operand if the first is 0. -/
  | jumpIfFalse
  /-- Stores whether the first operand is less than the second. -/
  | lessThan
  /-- Stores whether two operands are equal. -/
  | equals
  /-- Moves the relative base by an operand. -/
  | relativeBaseOffset
  /-- Stops the machine. -/
  | halt
  deriving DecidableEq, Repr

namespace Opcode

/-- The most parameters that an operation takes. -/
def maxArity : Nat := 3

/-- The class of a raw value: its remainder by 100, never negative. -/
def classOf (raw : Word) : Int := raw.toInt % 100

/-- The class that selects an operation. -/
def classNumber : Opcode → Int
  | .add => 1
  | .multiply => 2
  | .input => 3
  | .output => 4
  | .jumpIfTrue => 5
  | .jumpIfFalse => 6
  | .lessThan => 7
  | .equals => 8
  | .relativeBaseOffset => 9
  | .halt => 99

/-- The operation that a class selects, if any. -/
def ofClass? : Int → Option Opcode
  | 1 => some .add
  | 2 => some .multiply
  | 3 => some .input
  | 4 => some .output
  | 5 => some .jumpIfTrue
  | 6 => some .jumpIfFalse
  | 7 => some .lessThan
  | 8 => some .equals
  | 9 => some .relativeBaseOffset
  | 99 => some .halt
  | _ => none

/-- The number of parameters, a destination included. -/
def arity : Opcode → Nat
  | .add | .multiply | .lessThan | .equals => 3
  | .jumpIfTrue | .jumpIfFalse => 2
  | .input | .output | .relativeBaseOffset => 1
  | .halt => 0

/-- Whether the last parameter is the destination of a write. -/
def writes : Opcode → Bool
  | .add | .multiply | .input | .lessThan | .equals => true
  | .output | .jumpIfTrue | .jumpIfFalse | .relativeBaseOffset | .halt => false

/-- Whether the operation may go elsewhere than to the next instruction. -/
def isJump : Opcode → Bool
  | .jumpIfTrue | .jumpIfFalse => true
  | _ => false

/-- Whether the operation goes elsewhere when its condition has the given value. -/
def branches : Opcode → Word → Bool
  | .jumpIfTrue, condition => condition != 0
  | .jumpIfFalse, condition => condition == 0
  | _, _ => false

/-- The name of an operation in the event log. -/
def name : Opcode → String
  | .add => "Add"
  | .multiply => "Multiply"
  | .input => "Input"
  | .output => "Output"
  | .jumpIfTrue => "JumpIfTrue"
  | .jumpIfFalse => "JumpIfFalse"
  | .lessThan => "LessThan"
  | .equals => "Equals"
  | .relativeBaseOffset => "RelativeBaseOffset"
  | .halt => "Halt"

theorem arity_le_maxArity (op : Opcode) : op.arity ≤ maxArity := by
  cases op <;> decide

@[simp]
theorem ofClass?_classNumber (op : Opcode) : ofClass? op.classNumber = some op := by
  cases op <;> rfl

theorem ofClass?_eq_some_iff {c : Int} {op : Opcode} :
    ofClass? c = some op ↔ c = op.classNumber := by
  constructor
  · intro h
    unfold ofClass? at h
    split at h <;> cases h <;> rfl
  · rintro rfl
    exact ofClass?_classNumber op

theorem classOf_nonneg (raw : Word) : 0 ≤ classOf raw := by
  unfold classOf
  omega

theorem classOf_lt (raw : Word) : classOf raw < 100 := by
  unfold classOf
  omega

end Opcode

end IntcodeMachine
