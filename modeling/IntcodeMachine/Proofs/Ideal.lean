import IntcodeMachine.Proofs.Turn

/-!
# The ideal machine

The table of operations, read over unbounded integers.  Memory is a function on the addresses,
0 past the program; input is taken from the front of a list and output is put at the back of
another.  All of an instruction is read off the memory as it is before the instruction writes.

Where the table gives an instruction no meaning (a digit that stands for no mode, a negative
address, a destination given as a value, no input to take) there is no next state.

* `Ideal.step`: one step by the table.
* `Machine.ideal`: a machine with a script, seen as integers.
* `Fetched.InPlace.operand_ideal`, `Fetched.InPlace.destination_ideal`: words that were read or
  resolved are the integers that the table means.
-/

namespace IntcodeMachine

/-- A state of the ideal machine. -/
structure Ideal where
  memory : Nat → Int
  pc : Int := 0
  base : Int := 0
  halted : Bool := false
  input : List Int
  output : List Int := []

namespace Ideal

/-- A program on an input, before the first step. -/
def start (program input : List Int) : Ideal :=
  { memory := fun place => program.getD place 0, input }

variable (s : Ideal)

/-- The content of the cell at an address.  Only addresses that are not negative have one. -/
def cell (address : Int) : Int := s.memory address.toNat

/-- The raw value of the instruction. -/
def raw : Int := s.cell s.pc

/-- The digit that stands for the mode of a parameter. -/
def mode (place : Nat) : Nat := digitAt (s.raw / 100).natAbs place

/-- A parameter as it stands in memory. -/
def parameter (place : Nat) : Int := s.cell (s.pc + 1 + place)

/-- The address that a parameter means if it means one. -/
def address (place : Nat) : Int :=
  if s.mode place = 2 then s.parameter place + s.base else s.parameter place

/-- The value that a parameter means. -/
def operand (place : Nat) : Int :=
  if s.mode place = 1 then s.parameter place else s.cell (s.address place)

/-- Whether a parameter means a value. -/
def Readable (place : Nat) : Prop :=
  s.mode place ≤ 2 ∧ (s.mode place = 1 ∨ 0 ≤ s.address place)

/-- Whether a parameter means a place to write to. -/
def Writable (place : Nat) : Prop :=
  s.mode place ≤ 2 ∧ s.mode place ≠ 1 ∧ 0 ≤ s.address place

instance (place : Nat) : Decidable (s.Readable place) :=
  inferInstanceAs (Decidable (s.mode place ≤ 2 ∧ (s.mode place = 1 ∨ 0 ≤ s.address place)))

instance (place : Nat) : Decidable (s.Writable place) :=
  inferInstanceAs (Decidable (s.mode place ≤ 2 ∧ s.mode place ≠ 1 ∧ 0 ≤ s.address place))

/-- Memory with a value at an address. -/
def put (address value : Int) : Nat → Int :=
  fun place => if place = address.toNat then value else s.memory place

/-- Stores a combination of two operands. -/
def store (value : Int) : Option Ideal :=
  if s.Readable 0 ∧ s.Readable 1 ∧ s.Writable 2 then
    some { s with memory := s.put (s.address 2) value, pc := s.pc + 4 }
  else none

/-- Stores the next input value. -/
def accept : Option Ideal :=
  match s.input with
  | [] => none
  | value :: rest =>
      if s.Writable 0 then
        some { s with memory := s.put (s.address 0) value, input := rest, pc := s.pc + 2 }
      else none

/-- Puts an operand out. -/
def emit : Option Ideal :=
  if s.Readable 0 then some { s with output := s.output ++ [s.operand 0], pc := s.pc + 2 }
  else none

/-- Moves the relative base by an operand. -/
def shift : Option Ideal :=
  if s.Readable 0 then some { s with base := s.base + s.operand 0, pc := s.pc + 2 }
  else none

/-- Goes to the second operand or to the next instruction. -/
def branch (taken : Bool) : Option Ideal :=
  if s.Readable 0 ∧ s.Readable 1 then
    some { s with pc := if taken then s.operand 1 else s.pc + 3 }
  else none

/-- The table of operations, by class. -/
def perform : (classNumber : Int) → Option Ideal
  | 1 => s.store (s.operand 0 + s.operand 1)
  | 2 => s.store (s.operand 0 * s.operand 1)
  | 3 => s.accept
  | 4 => s.emit
  | 5 => s.branch (s.operand 0 != 0)
  | 6 => s.branch (s.operand 0 == 0)
  | 7 => s.store (if s.operand 0 < s.operand 1 then 1 else 0)
  | 8 => s.store (if s.operand 0 = s.operand 1 then 1 else 0)
  | 9 => s.shift
  | 99 => some { s with halted := true }
  | _ => some { s with pc := s.pc + 1 }

/-- One step.  A machine that has stopped stays as it is. -/
def step : Option Ideal :=
  if s.halted then some s
  else if s.pc < 0 then none
  else s.perform (s.raw % 100)

/-- The state after a number of steps, if all of them have a meaning. -/
def after : Nat → Option Ideal
  | 0 => some s
  | n + 1 => (after n).bind step

variable {s}

theorem step_of_halted (h : s.halted = true) : s.step = some s := if_pos h

theorem step_of_running (hrun : s.halted = false) (hpc : 0 ≤ s.pc) :
    s.step = s.perform (s.raw % 100) := by
  rw [step, if_neg (by simp [hrun]), if_neg (by omega)]

/-- A class that selects no operation is skipped. -/
theorem perform_of_unknown {c : Int} (h : Opcode.ofClass? c = none) :
    s.perform c = some { s with pc := s.pc + 1 } := by
  unfold perform
  split <;> first | rfl | cases h

/-- What is stored is the combination of the operands, as an integer. -/
theorem perform_of_combine? {op : Opcode} {combine : Word → Word → Option Word}
    {x y value : Word} (hop : op.combine? = some combine) (hvalue : combine x y = some value)
    (hx : s.operand 0 = x.toInt) (hy : s.operand 1 = y.toInt) :
    s.perform op.classNumber = s.store value.toInt := by
  cases op with
  | add =>
      cases hop
      rw [Word.add?_eq_some_iff.mp hvalue, ← hx, ← hy]
      rfl
  | multiply =>
      cases hop
      rw [Word.mul?_eq_some_iff.mp hvalue, ← hx, ← hy]
      rfl
  | lessThan =>
      cases hop
      cases hvalue
      simp only [Word.toInt_ofBool, decide_eq_true_eq, Int64.lt_iff_toInt_lt, ← hx, ← hy]
      rfl
  | equals =>
      cases hop
      cases hvalue
      simp only [Word.toInt_ofBool, decide_eq_true_eq, ← Int64.toInt_inj, ← hx, ← hy]
      rfl
  | input | output | jumpIfTrue | jumpIfFalse | relativeBaseOffset | halt => cases hop

theorem perform_of_isJump {op : Opcode} {condition : Word} (hop : op.isJump = true)
    (hcondition : s.operand 0 = condition.toInt) :
    s.perform op.classNumber = s.branch (op.branches condition) := by
  have hzero : condition.toInt = 0 ↔ condition = 0 := by
    rw [← Int64.toInt_inj]
    rfl
  cases op with
  | jumpIfTrue =>
      have htaken : Opcode.branches .jumpIfTrue condition = (s.operand 0 != 0) := by
        rw [hcondition, Bool.eq_iff_iff, bne_iff_ne, ne_eq, hzero]
        exact bne_iff_ne
      rw [htaken]
      rfl
  | jumpIfFalse =>
      have htaken : Opcode.branches .jumpIfFalse condition = (s.operand 0 == 0) := by
        rw [hcondition, Bool.eq_iff_iff, beq_iff_eq, hzero]
        exact beq_iff_eq
      rw [htaken]
      rfl
  | add | multiply | input | output | lessThan | equals | relativeBaseOffset | halt => cases hop

end Ideal

/-- A machine with a script, seen as integers. -/
def Machine.ideal (m : Machine Script) : Ideal where
  memory place := (m.memory.cell place).toInt
  pc := m.pc.toInt
  base := m.base.toInt
  halted := m.halted
  input := m.device.feed.pending.map Int64.toInt
  output := m.device.buffer.values.toList.map Int64.toInt

namespace Fetched.InPlace

variable {m : Machine Script} {f : Fetched} {p : Parameter} {i : Nat}

theorem raw_ideal (h : f.InPlace m.memory m.pc) : m.ideal.raw = f.raw.toInt := by
  rw [h.raw_eq]
  rfl

theorem class_ideal (h : f.InPlace m.memory m.pc) :
    m.ideal.raw % 100 = f.opcode.classNumber := by
  rw [h.raw_ideal]
  exact Opcode.ofClass?_eq_some_iff.mp h.opcode_eq

theorem mode_ideal (h : f.InPlace m.memory m.pc) (hp : f.parameters[i]? = some p) :
    m.ideal.mode i = p.mode.digit := by
  rw [Ideal.mode, h.raw_ideal, (h.parameter hp).1]
  rfl

theorem parameter_ideal (h : f.InPlace m.memory m.pc) (hp : f.parameters[i]? = some p) :
    m.ideal.parameter i = p.value.toInt := by
  have hpc := h.pc_nonneg
  have hplace : (m.pc.toInt + 1 + i).toNat = m.pc.toInt.toNat + 1 + i := by omega
  rw [(h.parameter hp).2, ← hplace]
  rfl

/-- A word that was read is the operand that the table means. -/
theorem operand_ideal (h : f.InPlace m.memory m.pc) (hp : f.parameters[i]? = some p)
    {w : Word} (hw : f.operand m.memory m.base p = .ok w) :
    m.ideal.Readable i ∧ m.ideal.operand i = w.toInt := by
  have hmode := h.mode_ideal hp
  have hparameter := h.parameter_ideal hp
  unfold operand at hw
  unfold Ideal.Readable Ideal.operand Ideal.address
  rw [hmode, hparameter]
  cases hp : p.mode with
  | position =>
      rw [hp] at hw
      obtain ⟨hnonneg, rfl⟩ := Memory.load_eq_ok_iff.mp hw
      exact ⟨⟨by decide, Or.inr hnonneg⟩, rfl⟩
  | immediate =>
      rw [hp] at hw
      cases hw
      exact ⟨⟨by decide, Or.inl rfl⟩, rfl⟩
  | relative =>
      rw [hp] at hw
      obtain ⟨address, hexact, hload⟩ := bind_eq_ok_iff.mp hw
      have hsum := Word.add?_eq_some_iff.mp (exact_eq_ok_iff.mp hexact)
      obtain ⟨hnonneg, rfl⟩ := Memory.load_eq_ok_iff.mp hload
      rw [hsum] at hnonneg ⊢
      exact ⟨⟨by decide, Or.inr hnonneg⟩, rfl⟩

/-- An address that was resolved is the one that the table means. -/
theorem destination_ideal (h : f.InPlace m.memory m.pc) (hp : f.parameters[i]? = some p)
    {address : Word} (haddress : f.destination m.base p = .ok address) :
    m.ideal.mode i ≤ 2 ∧ m.ideal.mode i ≠ 1 ∧ m.ideal.address i = address.toInt := by
  have hmode := h.mode_ideal hp
  have hparameter := h.parameter_ideal hp
  unfold destination at haddress
  unfold Ideal.address
  rw [hmode, hparameter]
  cases hp : p.mode with
  | position =>
      rw [hp] at haddress
      cases haddress
      exact ⟨by decide, by decide, rfl⟩
  | immediate =>
      rw [hp] at haddress
      cases haddress
  | relative =>
      rw [hp] at haddress
      have hsum := Word.add?_eq_some_iff.mp (exact_eq_ok_iff.mp haddress)
      exact ⟨by decide, by decide, hsum.symm⟩

/-- A parameter that is no value has an address, if the sum with the base is a word. -/
theorem exists_destination (h : f.InPlace m.memory m.pc) (hp : f.parameters[i]? = some p)
    (hmode : m.ideal.mode i ≠ 1) (hrange : Word.InRange (m.ideal.address i)) :
    ∃ address, f.destination m.base p = .ok address ∧ address.toInt = m.ideal.address i := by
  have hdigit := h.mode_ideal hp
  have hparameter := h.parameter_ideal hp
  unfold destination
  unfold Ideal.address at hrange ⊢
  rw [hdigit] at hmode hrange ⊢
  rw [hparameter] at hrange ⊢
  cases hp : p.mode with
  | position => exact ⟨p.value, rfl, rfl⟩
  | immediate =>
      rw [hp] at hmode
      exact absurd rfl hmode
  | relative =>
      rw [hp] at hrange
      have hsum : Word.add? p.value m.base = some (Int64.ofInt (p.value.toInt + m.base.toInt)) :=
        if_pos hrange
      exact ⟨_, exact_eq_ok_iff.mpr hsum, Word.toInt_ofInt_of_inRange hrange⟩

end Fetched.InPlace

end IntcodeMachine
