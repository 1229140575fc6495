import IntcodeMachine.Memory
import IntcodeMachine.Script

/-!
# Operations with guards

Some operations have no result everywhere: a row has no element past its end, nothing can be
divided by 0, and a number of 64 bits has an end.  With a guard such an operation tells its
misuse, and a computation made of guarded operations is a `Guarded` one.  A guarded computation
that is `Guarded.of` a plain one comes to the same and misuses nothing, neither when it succeeds
nor when it fails.

* `Memory.guardedWrite_eq`: a write misuses nothing.
* `Buffer.guardedServe_eq`: however values are put in and taken out, nothing is misused.
-/

namespace IntcodeMachine

/-- How an operation can be misused. -/
inductive Misuse where
  /-- A row has no element at an index. -/
  | index (index length : Nat)
  /-- A row, or the room for one, is not as long as the part that is asked for. -/
  | extent (count length : Nat)
  /-- A word is divided by 0. -/
  | divisor (dividend : Word)
  /-- A number is no word. -/
  | word (value : Int)
  /-- A number is no size of a row. -/
  | size (value : Int)
  deriving DecidableEq, Repr

/-- A computation with guards, which may also fail on its own account. -/
abbrev Guarded (ε α : Type) := ExceptT ε (Except Misuse) α

namespace Guarded

variable {ε α β : Type}

/-- A plain computation as a guarded one. -/
def of (result : Except ε α) : Guarded ε α := ExceptT.mk (.ok result)

theorem run_of (result : Except ε α) : (of result).run = .ok result := rfl

/-- Nothing is misused in two steps if nothing is misused in either. -/
theorem of_bind (first : Except ε α) (second : α → Except ε β) :
    of (first >>= second) = of first >>= fun a => of (second a) := by
  cases first <;> rfl

theorem of_map (f : α → β) (result : Except ε α) :
    of (result.map f) = of result >>= fun a => of (.ok (f a)) := by
  cases result <;> rfl

theorem of_ok_bind (a : α) (second : α → Guarded ε β) : of (.ok a) >>= second = second a := rfl

/-- Within a computation that may fail on its own account, an operation that is not misused hands
its result on. -/
theorem lift_ok_bind (a : α) (second : α → Guarded ε β) :
    (liftM (.ok a : Except Misuse α) : Guarded ε α) >>= second = second a := rfl

end Guarded

namespace Guard

variable {α β : Type}

/-- An operation that is not misused hands its result on. -/
theorem ok_bind (a : α) (second : α → Except Misuse β) :
    (.ok a : Except Misuse α) >>= second = second a := rfl

/-- The element of a row at an index. -/
def element (row : List α) (i : Nat) : Except Misuse α :=
  match row[i]? with
  | some a => .ok a
  | none => .error (.index i row.length)

/-- The first elements of a row. -/
def front (row : List α) (count : Nat) : Except Misuse (List α) :=
  if count ≤ row.length then .ok (row.take count) else .error (.extent count row.length)

/-- A row without its first elements. -/
def behind (row : List α) (count : Nat) : Except Misuse (List α) :=
  if count ≤ row.length then .ok (row.drop count) else .error (.extent count row.length)

/-- The word of a value. -/
def word (value : Int) : Except Misuse Word :=
  match Word.ofInt? value with
  | some w => .ok w
  | none => .error (.word value)

/-- The size of a value; a size has 64 bits and no sign. -/
def size (value : Int) : Except Misuse Nat :=
  if 0 ≤ value ∧ value < 0x10000000000000000 then .ok value.toNat else .error (.size value)

/-- The quotient of two words, rounded so that the remainder is not negative. -/
def quotient (dividend divisor : Word) : Except Misuse Word :=
  if divisor = 0 then .error (.divisor dividend) else word (dividend.toInt / divisor.toInt)

/-- The remainder of two words, never negative.  It is refused with the quotient. -/
def remainder (dividend divisor : Word) : Except Misuse Word := do
  let _ ← quotient dividend divisor
  word (dividend.toInt % divisor.toInt)

/-- Cells with another value at an index. -/
def assign (cells : Array Word) (i : Nat) (value : Word) : Except Misuse (Array Word) :=
  if h : i < cells.size then .ok (cells.set i value) else .error (.index i cells.size)

/-- Cells with zeros added up to a length for which there is room. -/
def extend (cells : Array Word) (length room : Nat) : Except Misuse (Array Word) :=
  if length ≤ room then .ok (cells ++ Array.replicate (length - cells.size) 0)
  else .error (.extent length room)

theorem element_eq_ok {row : List α} {i : Nat} {a : α} (h : row[i]? = some a) :
    element row i = .ok a := by
  rw [element, h]

theorem element_of_length_le {row : List α} {i : Nat} (h : row.length ≤ i) :
    element row i = .error (.index i row.length) := by
  rw [element, List.getElem?_eq_none h]

theorem front_eq_ok {row : List α} {count : Nat} (h : count ≤ row.length) :
    front row count = .ok (row.take count) :=
  if_pos h

theorem word_eq_ok {value : Int} (h : Word.InRange value) :
    word value = .ok (Int64.ofInt value) := by
  rw [word, Word.ofInt?, if_pos h]

@[simp]
theorem word_toInt (w : Word) : word w.toInt = .ok w := by
  rw [word, Word.ofInt?_toInt]

theorem size_eq_ok {n : Nat} (h : n < 0x10000000000000000) : size n = .ok n := by
  rw [size, if_pos (by omega), Int.toNat_natCast]

/-- A word is divided by a positive one without misuse, the least word too. -/
theorem quotient_of_pos (dividend : Word) {divisor : Word} (h : 0 < divisor.toInt) :
    quotient dividend divisor = .ok (Int64.ofInt (dividend.toInt / divisor.toInt)) := by
  have hdivisor : divisor ≠ 0 := by
    rintro rfl
    exact absurd h (by decide)
  have hlow : -0x8000000000000000 ≤ dividend.toInt / divisor.toInt := by
    apply (Int.le_ediv_iff_mul_le h).mpr
    have hle := Int64.le_toInt dividend
    omega
  have hhigh : dividend.toInt / divisor.toInt < 0x8000000000000000 := by
    apply (Int.ediv_lt_iff_lt_mul h).mpr
    have hlt := Int64.toInt_lt dividend
    omega
  rw [quotient, if_neg hdivisor, word_eq_ok ⟨hlow, hhigh⟩]

example : quotient (-0x8000000000000000) 100 = .ok (-92233720368547759) := rfl
example : quotient (-0x8000000000000000) (-1) = .error (.word 0x8000000000000000) := rfl

theorem remainder_of_pos (dividend : Word) {divisor : Word} (h : 0 < divisor.toInt) :
    remainder dividend divisor = .ok (Int64.ofInt (dividend.toInt % divisor.toInt)) := by
  have hnonneg := Int.emod_nonneg dividend.toInt (Int.ne_of_gt h)
  have hless := Int.emod_lt_of_pos dividend.toInt h
  have hlt := Int64.toInt_lt divisor
  have hrange : Word.InRange (dividend.toInt % divisor.toInt) := by
    unfold Word.InRange
    omega
  rw [remainder, quotient_of_pos dividend h, ← word_eq_ok hrange]
  rfl

theorem assign_eq_ok {cells : Array Word} {i : Nat} (value : Word) (h : i < cells.size) :
    assign cells i value = .ok (cells.set i value) :=
  dif_pos h

theorem extend_eq_ok {cells : Array Word} {length room : Nat} (h : length ≤ room) :
    extend cells length room = .ok (cells ++ Array.replicate (length - cells.size) 0) :=
  if_pos h

end Guard

namespace Memory

/-- The number of cells for which there is room after more cells have been asked for. -/
def reserve (m : Memory) (address : Word) (extra : Nat) : Except AddressError Nat :=
  if m.size + extra ≤ m.limit then .ok (m.size + extra) else .error (.beyond address)

/-- The cells of a memory, made as many as a write at an index needs. -/
def guardedReach (m : Memory) (address : Word) (i : Nat) : Guarded AddressError (Array Word) :=
  if m.size ≤ i then do
    let length ← Guard.size (i + 1 : Nat)
    let extra ← Guard.size (length - m.size)
    let room ← Guarded.of (m.reserve address extra)
    Guard.extend m.cells length room
  else Guarded.of (.ok m.cells)

/-- A write with guards. -/
def guardedWrite (m : Memory) (address value : Word) : Guarded AddressError Memory := do
  let i ← Guarded.of (index address)
  let cells ← m.guardedReach address i
  let cells ← Guard.assign cells i value
  return { m with cells }

theorem guardedReach_of_lt {m : Memory} {i : Nat} (address : Word) (h : i < m.size) :
    m.guardedReach address i = Guarded.of (.ok m.cells) :=
  if_neg (Nat.not_le.mpr h)

/-- Memory is made longer, or not, without misuse: an index is far below the greatest size. -/
theorem guardedReach_of_le {m : Memory} {i : Nat} {address : Word} (hindex : address.toInt = i)
    (h : m.size ≤ i) :
    m.guardedReach address i =
      Guarded.of (if i < m.limit then
          .ok (m.cells ++ Array.replicate (i + 1 - m.cells.size) 0)
        else .error (.beyond address)) := by
  -- An index is an address, below half of the sizes, so one more is still a size.
  have hlt := Int64.toInt_lt address
  have hlength : Guard.size (i + 1 : Nat) = .ok (i + 1) := Guard.size_eq_ok (by omega)
  have hextra : Guard.size ((i + 1 : Nat) - m.size : Int) = .ok (i + 1 - m.size) := by
    rw [← Int.ofNat_sub (Nat.le_succ_of_le h)]
    exact Guard.size_eq_ok (by omega)
  have hreserve : m.reserve address (i + 1 - m.size) =
      if i < m.limit then .ok (i + 1) else .error (.beyond address) := by
    rw [reserve, Nat.add_sub_cancel' (Nat.le_succ_of_le h)]
    rfl
  rw [guardedReach, if_pos h, hlength, Guarded.lift_ok_bind, hextra, Guarded.lift_ok_bind,
    hreserve]
  by_cases hroom : i < m.limit
  · rw [if_pos hroom, if_pos hroom, Guarded.of_ok_bind, Guard.extend_eq_ok (Nat.le_refl _)]
    rfl
  · rw [if_neg hroom, if_neg hroom]
    rfl

/-- Zeros up to an index, with a value in the place of the last one. -/
theorem set_append_replicate (cells : Array Word) {i : Nat} (value : Word) (h : cells.size ≤ i)
    (hbound : i < (cells ++ Array.replicate (i + 1 - cells.size) 0).size) :
    (cells ++ Array.replicate (i + 1 - cells.size) 0).set i value hbound =
      (cells ++ Array.replicate (i - cells.size) 0).push value := by
  apply Array.ext
  · simp only [Array.size_set, Array.size_append, Array.size_replicate, Array.size_push]
    omega
  · intro j hj _
    rw [Array.size_set, Array.size_append, Array.size_replicate] at hj
    by_cases hij : j = i
    · subst hij
      rw [Array.getElem_set_self, Array.getElem_push, dif_neg]
      rw [Array.size_append, Array.size_replicate]
      omega
    · have hless : j < (cells ++ Array.replicate (i - cells.size) (0 : Word)).size := by
        rw [Array.size_append, Array.size_replicate]
        omega
      have hlonger : j < (cells ++ Array.replicate (i + 1 - cells.size) (0 : Word)).size := by
        rw [Array.size_append, Array.size_replicate]
        exact hj
      rw [Array.getElem_set_ne _ hlonger (Ne.symm hij), Array.getElem_push, dif_pos hless]
      simp only [Array.getElem_append, Array.getElem_replicate]

/-- A row of cells with a value put in the place of one of them. -/
theorem put_of_lt {m : Memory} {i : Nat} (value : Word) (h : i < m.cells.size) :
    m.put i value = { m with cells := m.cells.set i value } :=
  dif_pos h

/-- A row of cells that is made longer first, with a value put in the place of the last one. -/
theorem put_of_le {m : Memory} {i : Nat} (value : Word) (h : m.cells.size ≤ i)
    (hbound : i < (m.cells ++ Array.replicate (i + 1 - m.cells.size) 0).size) :
    m.put i value =
      { m with
        cells := (m.cells ++ Array.replicate (i + 1 - m.cells.size) 0).set i value hbound } := by
  rw [put, dif_neg (Nat.not_lt.mpr h), set_append_replicate m.cells value h]

/-- **A write misuses nothing**, at whatever address and in whatever memory. -/
theorem guardedWrite_eq (m : Memory) (address value : Word) :
    m.guardedWrite address value = Guarded.of (m.write address value) := by
  rw [guardedWrite, write, slot]
  cases hindex : index address with
  | error e => rfl
  | ok i =>
      rw [Guarded.of_ok_bind]
      rcases Nat.lt_or_ge i m.size with hlt | hle
      · rw [guardedReach_of_lt address hlt, Guarded.of_ok_bind, Guard.assign_eq_ok value hlt,
          Guarded.lift_ok_bind]
        simp only [hlt, true_or, if_true, put_of_lt value hlt]
        rfl
      · have hbound : i < (m.cells ++ Array.replicate (i + 1 - m.cells.size) 0).size := by
          rw [Array.size_append, Array.size_replicate]
          omega
        rw [guardedReach_of_le (index_eq_ok_iff.mp hindex) hle]
        by_cases hroom : i < m.limit
        · rw [if_pos hroom, Guarded.of_ok_bind, Guard.assign_eq_ok value hbound,
            Guarded.lift_ok_bind]
          simp only [hroom, or_true, if_true, put_of_le value hle hbound]
          rfl
        · simp only [hroom, Nat.not_lt.mpr hle, or_self, if_false]
          rfl

end Memory

namespace Buffer

/-- Takes the oldest three values away, with guards. -/
def guardedTakeTriple (b : Buffer) : Except Misuse (Option (Word × Word × Word) × Buffer) :=
  if b.values.size < 3 then .ok (none, b)
  else do
    let x ← Guard.element b.values.toList 0
    let y ← Guard.element b.values.toList 1
    let z ← Guard.element b.values.toList 2
    let rest ← Guard.behind b.values.toList 3
    return (some (x, y, z), { values := rest.toArray })

/-- What can be asked of a buffer. -/
inductive Request where
  /-- Keep a value. -/
  | receive (value : Word)
  /-- Give the oldest three values away. -/
  | takeTriple
  deriving DecidableEq, Repr

/-- What a buffer gives away on one request, and what it is afterwards. -/
def answer (b : Buffer) : Request → Option (Word × Word × Word) × Buffer
  | .receive value => (none, b.receive value)
  | .takeTriple => b.takeTriple

/-- What a buffer gives away on one request after another, and what it is in the end. -/
def serve (b : Buffer) : List Request → List (Option (Word × Word × Word)) × Buffer
  | [] => ([], b)
  | request :: rest =>
      let (triple, b) := b.answer request
      let (triples, b) := b.serve rest
      (triple :: triples, b)

/-- Answers a request with guards. -/
def guardedAnswer (b : Buffer) : Request → Except Misuse (Option (Word × Word × Word) × Buffer)
  | .receive value => .ok (none, b.receive value)
  | .takeTriple => b.guardedTakeTriple

/-- Answers one request after another with guards. -/
def guardedServe (b : Buffer) :
    List Request → Except Misuse (List (Option (Word × Word × Word)) × Buffer)
  | [] => .ok ([], b)
  | request :: rest => do
      let (triple, b) ← b.guardedAnswer request
      let (triples, b) ← b.guardedServe rest
      return (triple :: triples, b)

theorem guardedTakeTriple_eq (b : Buffer) : b.guardedTakeTriple = .ok b.takeTriple := by
  obtain ⟨⟨values⟩⟩ := b
  obtain _ | ⟨x, _ | ⟨y, _ | ⟨z, rest⟩⟩⟩ := values
  · rfl
  · rfl
  · rfl
  · rw [guardedTakeTriple, if_neg (by simp)]
    rfl

theorem guardedAnswer_eq (b : Buffer) (request : Request) :
    b.guardedAnswer request = .ok (b.answer request) := by
  cases request with
  | receive value => rfl
  | takeTriple => exact b.guardedTakeTriple_eq

/-- **However values are put in and taken out, nothing is misused.** -/
theorem guardedServe_eq (b : Buffer) (requests : List Request) :
    b.guardedServe requests = .ok (b.serve requests) := by
  induction requests generalizing b with
  | nil => rfl
  | cons request rest ih =>
      rw [guardedServe, guardedAnswer_eq, Guard.ok_bind]
      dsimp only
      rw [ih]
      rfl

end Buffer

end IntcodeMachine
