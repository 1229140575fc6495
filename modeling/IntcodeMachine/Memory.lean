import IntcodeMachine.Program

/-!
# Memory

Memory is a row of words that starts as the program and reads as 0 past its end.  A write
past the end makes the row longer and fills the gap with zeros, as long as the address is
below the limit of the memory.  No address is negative.

* `Memory.cell_put`: after a write the written cell holds the new value, and every other
  cell is as before.
* `Memory.size_put`: a write at an index makes the row long enough to hold it, no longer.
* `Memory.slot_eq_ok_iff`, `Memory.slot_eq_error_iff`: a write is possible exactly at the
  addresses below the present end or below the limit.
-/

namespace IntcodeMachine

/-- Why an address cannot be used. -/
inductive AddressError where
  /-- The address is negative. -/
  | negative (address : Word)
  /-- Memory cannot grow as far as this address. -/
  | beyond (address : Word)
  deriving DecidableEq, Repr

/-- The wording of an address error. -/
def AddressError.message : AddressError → String
  | .negative address => s!"negative address {Numeral.text address}"
  | .beyond address => s!"address {Numeral.text address} is beyond addressable memory"

/-- The limit of a memory for which no other is asked. -/
def Memory.defaultLimit : Nat := 0x4000000

/-- The cells of a machine and the limit below which they may grow. -/
structure Memory where
  cells : Array Word
  /-- Growth to an address at or above the limit fails. -/
  limit : Nat := Memory.defaultLimit
  deriving DecidableEq, Repr

namespace Memory

/-- The memory that holds just a program. -/
def ofProgram (program : Program) : Memory := { cells := program.toArray }

/-- The number of cells present. -/
def size (m : Memory) : Nat := m.cells.size

/-- The content of a cell; cells past the end hold 0. -/
def cell (m : Memory) (index : Nat) : Word := m.cells[index]?.getD 0

/-- The index of the cell at an address. -/
def index (address : Word) : Except AddressError Nat :=
  if address < 0 then .error (.negative address) else .ok address.toInt.toNat

/-- The value at an address. -/
def read (m : Memory) (address : Word) : Except AddressError Word :=
  (index address).map m.cell

/-- The index at which a write to an address takes place. -/
def slot (m : Memory) (address : Word) : Except AddressError Nat :=
  match index address with
  | .error e => .error e
  | .ok i => if i < m.size ∨ i < m.limit then .ok i else .error (.beyond address)

/-- Memory with `value` in the cell at an index, made longer if need be. -/
def put (m : Memory) (i : Nat) (value : Word) : Memory :=
  if h : i < m.cells.size then { m with cells := m.cells.set i value }
  else { m with cells := (m.cells ++ Array.replicate (i - m.cells.size) 0).push value }

/-- Memory after a write to an address. -/
def write (m : Memory) (address value : Word) : Except AddressError Memory :=
  match m.slot address with
  | .error e => .error e
  | .ok i => .ok (m.put i value)

@[simp]
theorem limit_put (m : Memory) (i : Nat) (value : Word) : (m.put i value).limit = m.limit := by
  unfold put
  split <;> rfl

@[simp]
theorem size_put (m : Memory) (i : Nat) (value : Word) :
    (m.put i value).size = max m.size (i + 1) := by
  unfold put size
  split
  · simp only [Array.size_set]
    omega
  · simp only [Array.size_push, Array.size_append, Array.size_replicate]
    omega

theorem cell_of_size_le {m : Memory} {i : Nat} (h : m.size ≤ i) : m.cell i = 0 := by
  unfold cell
  rw [Array.getElem?_eq_none h]
  rfl

/-- After a write the written cell holds the new value, and every other cell is as before. -/
theorem cell_put (m : Memory) (i : Nat) (value : Word) (j : Nat) :
    (m.put i value).cell j = if j = i then value else m.cell j := by
  unfold put cell
  split
  · next h =>
    simp only [Array.getElem?_set]
    by_cases hij : i = j
    · simp [hij]
    · simp [hij, Ne.symm hij]
  · next h =>
    simp only [Array.getElem?_push, Array.getElem?_append, Array.size_append,
      Array.size_replicate, Array.getElem?_replicate]
    by_cases hij : j = i
    · have hi : i = m.cells.size + (i - m.cells.size) := by omega
      rw [if_pos (hij.trans hi), if_pos hij]
      rfl
    · rw [if_neg (by omega), if_neg hij]
      by_cases hj : j < m.cells.size
      · rw [if_pos hj]
      · rw [if_neg hj, Array.getElem?_eq_none (by omega)]
        split <;> rfl

@[simp]
theorem cell_put_self (m : Memory) (i : Nat) (value : Word) : (m.put i value).cell i = value := by
  simp [cell_put]

theorem cell_put_of_ne (m : Memory) {i j : Nat} (value : Word) (h : j ≠ i) :
    (m.put i value).cell j = m.cell j := by
  simp [cell_put, h]

theorem index_eq_ok_iff {address : Word} {i : Nat} :
    index address = .ok i ↔ address.toInt = i := by
  unfold index
  split
  · next h =>
    have hneg := Word.lt_zero_iff.mp h
    simp only [reduceCtorEq, false_iff]
    omega
  · next h =>
    have hnot := mt Word.lt_zero_iff.mpr h
    simp only [Except.ok.injEq]
    omega

theorem index_eq_error_iff {address : Word} {e : AddressError} :
    index address = .error e ↔ address.toInt < 0 ∧ e = .negative address := by
  unfold index
  split
  · next h => simp [Word.lt_zero_iff.mp h, eq_comm]
  · next h => simp [mt Word.lt_zero_iff.mpr h]

/-- A write is possible exactly at the addresses below the present end or below the limit. -/
theorem slot_eq_ok_iff {m : Memory} {address : Word} {i : Nat} :
    m.slot address = .ok i ↔ address.toInt = i ∧ (i < m.size ∨ i < m.limit) := by
  unfold slot
  cases hidx : index address with
  | error e =>
      obtain ⟨hneg, _⟩ := index_eq_error_iff.mp hidx
      simp only [reduceCtorEq, false_iff]
      omega
  | ok k =>
      have hk := index_eq_ok_iff.mp hidx
      simp only
      split
      · simp only [Except.ok.injEq]
        omega
      · simp only [reduceCtorEq, false_iff]
        omega

/-- A write fails at a negative address, and at one past both the present end and the limit. -/
theorem slot_eq_error_iff {m : Memory} {address : Word} {e : AddressError} :
    m.slot address = .error e ↔
      (address.toInt < 0 ∧ e = .negative address) ∨
        (m.size ≤ address.toInt ∧ m.limit ≤ address.toInt ∧ e = .beyond address) := by
  unfold slot
  cases hidx : index address with
  | error other =>
      obtain ⟨hneg, rfl⟩ := index_eq_error_iff.mp hidx
      constructor
      · intro h
        cases h
        exact Or.inl ⟨hneg, rfl⟩
      · intro h
        rcases h with ⟨_, rfl⟩ | ⟨hsize, _⟩
        · rfl
        · omega
  | ok k =>
      have hk := index_eq_ok_iff.mp hidx
      simp only
      split
      · simp only [reduceCtorEq, false_iff]
        omega
      · next hroom =>
        constructor
        · intro h
          cases h
          exact Or.inr ⟨by omega, by omega, rfl⟩
        · intro h
          rcases h with ⟨hneg, _⟩ | ⟨_, _, rfl⟩
          · omega
          · rfl

end Memory

end IntcodeMachine
