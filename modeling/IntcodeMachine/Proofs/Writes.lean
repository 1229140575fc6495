import IntcodeMachine.Memory
import Mathlib.Data.List.Induction
import Mathlib.Order.MinMax
import Mathlib.Order.Nat

/-!
# Histories of writes

A memory is written to many times, and some of the writes fail.  Which of them fail is known
beforehand: those to a negative address and those to an address at or above the limit.  Of the
others only the last one to each cell counts (`Write.latest`).  So two histories that end in the
same last writes leave the same memory, of the same size.

* `Memory.cell_history`: a cell holds what the last write to it left, or what it held before.
* `Memory.size_history`: the size is that of the largest write, or the size before.
* `Memory.history_congr`: the last writes determine the memory.
* `Memory.zeroExtended_history`: all of this about the cells themselves.
-/

namespace IntcodeMachine

/-- A value and the address that it is to be written to. -/
structure Write where
  address : Word
  value : Word
  deriving DecidableEq, Repr

namespace Write

/-- The index of the cell that a write changes, in a memory that grows up to a limit. -/
def target (limit : Nat) (w : Write) : Option Nat :=
  if 0 ≤ w.address.toInt ∧ w.address.toInt < limit then some w.address.toInt.toNat else none

/-- The value of the last of several writes that change a cell. -/
def latest (limit : Nat) (writes : List Write) (i : Nat) : Option Word :=
  (writes.filter fun w => w.target limit = some i).getLast?.map value

variable {limit : Nat}

theorem target_eq_some_iff {w : Write} {i : Nat} :
    w.target limit = some i ↔ w.address.toInt = i ∧ i < limit := by
  unfold target
  split
  · simp only [Option.some.injEq]
    omega
  · simp only [reduceCtorEq, false_iff]
    omega

theorem target_eq_none_iff {w : Write} :
    w.target limit = none ↔ w.address.toInt < 0 ∨ limit ≤ w.address.toInt := by
  unfold target
  split
  · simp only [reduceCtorEq, false_iff]
    omega
  · simp only [true_iff]
    omega

/-- Two writes that change the same cell have the same address. -/
theorem address_eq_of_target {v w : Write} {i : Nat} (hv : v.target limit = some i)
    (hw : w.target limit = some i) : v.address = w.address := by
  have hfirst := (target_eq_some_iff.mp hv).1
  have hsecond := (target_eq_some_iff.mp hw).1
  exact Int64.toInt_inj.mp (hfirst.trans hsecond.symm)

@[simp]
theorem latest_nil (i : Nat) : latest limit [] i = none := rfl

/-- Writes count only where no later write does. -/
theorem latest_append (earlier later : List Write) (i : Nat) :
    latest limit (earlier ++ later) i = (latest limit later i).or (latest limit earlier i) := by
  unfold latest
  rw [List.filter_append, List.getLast?_append, Option.map_or]

theorem latest_singleton (w : Write) (i : Nat) :
    latest limit [w] i = if w.target limit = some i then some w.value else none := by
  unfold latest
  by_cases h : w.target limit = some i <;> simp [h]

/-- A write is the last one to its cell. -/
theorem latest_concat (writes : List Write) (w : Write) (i : Nat) :
    latest limit (writes ++ [w]) i =
      if w.target limit = some i then some w.value else latest limit writes i := by
  rw [latest_append, latest_singleton]
  split <;> rfl

/-- Two writes to different addresses may change places. -/
theorem latest_swap {v w : Write} (h : v.address ≠ w.address) (i : Nat) :
    latest limit [v, w] i = latest limit [w, v] i := by
  have hsplit : ∀ x y : Write, [x, y] = [x] ++ [y] := fun _ _ => rfl
  rw [hsplit v w, hsplit w v, latest_append, latest_append, latest_singleton, latest_singleton]
  by_cases hv : v.target limit = some i
  · have hw : w.target limit ≠ some i := fun hw => h (address_eq_of_target hv hw)
    simp [hw]
  · simp [hv]

/-- A write makes no difference if there is a later one to its address. -/
theorem latest_cons_of_address {v w : Write} (h : v.address = w.address)
    (between : List Write) (i : Nat) :
    latest limit (v :: (between ++ [w])) i = latest limit (between ++ [w]) i := by
  have hsplit : v :: (between ++ [w]) = [v] ++ (between ++ [w]) := rfl
  have hsame : v.target limit = w.target limit := by rw [target, target, h]
  rw [hsplit, latest_append, latest_singleton, latest_concat, hsame]
  by_cases hw : w.target limit = some i
  · simp [hw]
  · simp [hw]

end Write

namespace Memory

/-- Two memories with the same limit, size and cells are the same. -/
theorem eq_of_cell {m k : Memory} (hlimit : m.limit = k.limit) (hsize : m.size = k.size)
    (hcell : ∀ i, m.cell i = k.cell i) : m = k := by
  obtain ⟨cells, limit⟩ := m
  obtain ⟨cells', limit'⟩ := k
  have hcells : cells = cells' := by
    apply Array.ext hsize
    intro i hi hi'
    have h := hcell i
    simpa [cell, hi, hi'] using h
  rw [hcells, show limit = limit' from hlimit]

/-- Memory after a write is tried; if it fails nothing changes. -/
def attempt (m : Memory) (w : Write) : Memory :=
  match m.write w.address w.value with
  | .ok written => written
  | .error _ => m

/-- Memory after several writes are tried, first one first. -/
def history (m : Memory) (writes : List Write) : Memory := writes.foldl attempt m

variable {m : Memory} {writes : List Write}

/-- A memory no longer than its limit refuses just the writes outside of it. -/
theorem write_eq_error_iff {address value : Word} {e : AddressError} (hsize : m.size ≤ m.limit) :
    m.write address value = .error e ↔
      (address.toInt < 0 ∧ e = .negative address) ∨
        (m.limit ≤ address.toInt ∧ e = .beyond address) := by
  have hslot : m.write address value = .error e ↔ m.slot address = .error e := by
    unfold write
    cases m.slot address <;> simp
  rw [hslot, slot_eq_error_iff]
  constructor
  · intro h
    rcases h with h | ⟨_, hlimit, he⟩
    · exact Or.inl h
    · exact Or.inr ⟨hlimit, he⟩
  · intro h
    rcases h with h | ⟨hlimit, he⟩
    · exact Or.inl h
    · exact Or.inr ⟨by omega, hlimit, he⟩

theorem attempt_of_error {w : Write} {e : AddressError}
    (h : m.write w.address w.value = .error e) : m.attempt w = m := by
  rw [attempt, h]

theorem attempt_of_target {w : Write} {i : Nat} (h : w.target m.limit = some i) :
    m.attempt w = m.put i w.value := by
  obtain ⟨haddress, hlt⟩ := Write.target_eq_some_iff.mp h
  have hslot : m.slot w.address = .ok i := slot_eq_ok_iff.mpr ⟨haddress, Or.inr hlt⟩
  rw [attempt, write, hslot]

theorem attempt_of_no_target {w : Write} (hsize : m.size ≤ m.limit)
    (h : w.target m.limit = none) : m.attempt w = m := by
  rcases Write.target_eq_none_iff.mp h with hneg | hlimit
  · exact attempt_of_error ((write_eq_error_iff hsize).mpr (Or.inl ⟨hneg, rfl⟩))
  · exact attempt_of_error ((write_eq_error_iff hsize).mpr (Or.inr ⟨hlimit, rfl⟩))

@[simp]
theorem limit_attempt (m : Memory) (w : Write) : (m.attempt w).limit = m.limit := by
  unfold attempt write
  cases m.slot w.address <;> simp

@[simp]
theorem history_nil (m : Memory) : m.history [] = m := rfl

theorem history_concat (m : Memory) (writes : List Write) (w : Write) :
    m.history (writes ++ [w]) = (m.history writes).attempt w := by
  rw [history, List.foldl_append]
  rfl

@[simp]
theorem limit_history (m : Memory) (writes : List Write) :
    (m.history writes).limit = m.limit := by
  induction writes using List.reverseRecOn with
  | nil => rfl
  | append_singleton writes w ih => rw [history_concat, limit_attempt, ih]

/-- No write makes a memory longer than its limit. -/
theorem size_history_le (hsize : m.size ≤ m.limit) (writes : List Write) :
    (m.history writes).size ≤ m.limit := by
  induction writes using List.reverseRecOn with
  | nil => exact hsize
  | append_singleton writes w ih =>
      rw [history_concat]
      cases htarget : w.target m.limit with
      | none =>
          rw [attempt_of_no_target (by simpa using ih) (by simpa using htarget)]
          exact ih
      | some i =>
          have hlt := (Write.target_eq_some_iff.mp htarget).2
          rw [attempt_of_target (by simpa using htarget), size_put]
          omega

theorem attempt_history_of_target {w : Write} {i : Nat} (h : w.target m.limit = some i) :
    m.history (writes ++ [w]) = (m.history writes).put i w.value := by
  rw [history_concat]
  exact attempt_of_target (by simpa using h)

theorem attempt_history_of_no_target {w : Write} (hsize : m.size ≤ m.limit)
    (h : w.target m.limit = none) : m.history (writes ++ [w]) = m.history writes := by
  have hle := size_history_le hsize writes
  rw [history_concat]
  exact attempt_of_no_target (by simpa using hle) (by simpa using h)

/-- **A cell holds what the last write to it left**, or what it held before. -/
theorem cell_history (hsize : m.size ≤ m.limit) (writes : List Write) (i : Nat) :
    (m.history writes).cell i = (Write.latest m.limit writes i).getD (m.cell i) := by
  -- From the end of the history: only its last write can be newer than what the rest left.
  induction writes using List.reverseRecOn with
  | nil => rfl
  | append_singleton writes w ih =>
      rw [Write.latest_concat]
      cases htarget : w.target m.limit with
      | none =>
          rw [attempt_history_of_no_target hsize htarget, ih]
          rfl
      | some k =>
          rw [attempt_history_of_target htarget, cell_put]
          by_cases hik : i = k
          · rw [if_pos hik, if_pos (by rw [hik])]
            rfl
          · have hki : ¬ some k = some i := fun h => hik (Option.some.inj h).symm
            rw [if_neg hik, if_neg hki, ih]

/-- **The size is the size before, or that of the largest write.** -/
theorem size_history (hsize : m.size ≤ m.limit) (writes : List Write) :
    (m.history writes).size =
      ((writes.filterMap (Write.target m.limit)).map (· + 1)).foldl max m.size := by
  induction writes using List.reverseRecOn with
  | nil => rfl
  | append_singleton writes w ih =>
      rw [List.filterMap_append, List.map_append, List.foldl_append, ← ih]
      cases htarget : w.target m.limit with
      | none =>
          rw [attempt_history_of_no_target hsize htarget]
          simp [htarget]
      | some i =>
          rw [attempt_history_of_target htarget, size_put]
          simp [htarget]

/-- A cell is there if it was there before, or if a write changed it or one behind it. -/
theorem lt_size_history_iff (hsize : m.size ≤ m.limit) (writes : List Write) (j : Nat) :
    j < (m.history writes).size ↔
      j < m.size ∨ ∃ i, j ≤ i ∧ Write.latest m.limit writes i ≠ none := by
  induction writes using List.reverseRecOn with
  | nil => simp
  | append_singleton writes w ih =>
      cases htarget : w.target m.limit with
      | none =>
          rw [attempt_history_of_no_target hsize htarget, ih]
          simp [Write.latest_concat, htarget]
      | some k =>
          rw [attempt_history_of_target htarget, size_put, lt_max_iff, ih]
          simp only [Write.latest_concat, htarget, Option.some.injEq]
          constructor
          · intro h
            rcases h with (hold | ⟨i, hji, hi⟩) | hk
            · exact Or.inl hold
            · refine Or.inr ⟨i, hji, ?_⟩
              split
              · exact Option.some_ne_none _
              · exact hi
            · exact Or.inr ⟨k, Nat.le_of_lt_succ hk, by simp⟩
          · intro h
            rcases h with hold | ⟨i, hji, hi⟩
            · exact Or.inl (Or.inl hold)
            · by_cases hki : k = i
              · exact Or.inr (by omega)
              · rw [if_neg hki] at hi
                exact Or.inl (Or.inr ⟨i, hji, hi⟩)

/-- **The last writes determine the memory.** -/
theorem history_congr {other : List Write} (hsize : m.size ≤ m.limit)
    (h : ∀ i, Write.latest m.limit writes i = Write.latest m.limit other i) :
    m.history writes = m.history other := by
  apply eq_of_cell
  · rw [limit_history, limit_history]
  · apply eq_of_forall_lt_iff
    intro j
    rw [lt_size_history_iff hsize, lt_size_history_iff hsize]
    simp only [h]
  · intro i
    rw [cell_history hsize, cell_history hsize, h]

theorem getElem?_cells_history (hsize : m.size ≤ m.limit) (writes : List Write) {i : Nat}
    (hi : i < (m.history writes).size) :
    (m.history writes).cells[i]? =
      some ((Write.latest m.limit writes i).getD (m.cells[i]?.getD 0)) := by
  have hcell := cell_history hsize writes i
  have hsome : (m.history writes).cells[i]? = some (m.history writes).cells[i] :=
    Array.getElem?_eq_getElem hi
  rw [cell, hsome, Option.getD_some] at hcell
  rw [hsome, hcell, cell]

theorem read_of_nonneg (m : Memory) {address : Word} (h : 0 ≤ address.toInt) :
    m.read address = .ok (m.cells[address.toInt.toNat]?.getD 0) := by
  have hindex : index address = .ok address.toInt.toNat := by
    rw [index_eq_ok_iff]
    omega
  rw [read, hindex]
  rfl

/-- **Memory is a store that is zero where nothing was written**, whatever the history of writes.
The parts say which writes fail and that these change nothing, how many cells there are, what
they hold, what is read, and when the order of writes or an earlier write makes no difference. -/
theorem zeroExtended_history (m : Memory) (hsize : m.size ≤ m.limit) (writes : List Write) :
    (∀ (w : Write) (e : AddressError),
      ((m.history writes).write w.address w.value = .error e ↔
        (w.address.toInt < 0 ∧ e = .negative w.address) ∨
          (m.limit ≤ w.address.toInt ∧ e = .beyond w.address)) ∧
      ((m.history writes).write w.address w.value = .error e →
        m.history (writes ++ [w]) = m.history writes)) ∧
    (m.history writes).size =
      ((writes.filterMap (Write.target m.limit)).map (· + 1)).foldl max m.size ∧
    (∀ i, i < (m.history writes).size → (m.history writes).cells[i]? =
      some ((Write.latest m.limit writes i).getD (m.cells[i]?.getD 0))) ∧
    (∀ address : Word, 0 ≤ address.toInt → (m.history writes).read address =
      .ok ((m.history writes).cells[address.toInt.toNat]?.getD 0)) ∧
    (∀ (v w : Write) (later : List Write), v.address ≠ w.address →
      m.history (writes ++ ([v, w] ++ later)) = m.history (writes ++ ([w, v] ++ later))) ∧
    (∀ (v w : Write) (between later : List Write), v.address = w.address →
      m.history (writes ++ (v :: (between ++ [w]) ++ later)) =
        m.history (writes ++ (between ++ [w] ++ later))) := by
  have hgrown : (m.history writes).size ≤ (m.history writes).limit := by
    rw [limit_history]
    exact size_history_le hsize writes
  refine ⟨?_, size_history hsize writes, ?_, ?_, ?_, ?_⟩
  · intro w e
    constructor
    · rw [write_eq_error_iff hgrown, limit_history]
    · intro h
      rw [history_concat]
      exact attempt_of_error h
  · intro i hi
    exact getElem?_cells_history hsize writes hi
  · intro address hnonneg
    exact read_of_nonneg (m.history writes) hnonneg
  · intro v w later h
    apply history_congr hsize
    intro i
    simp only [Write.latest_append, Write.latest_swap h]
  · intro v w between later h
    apply history_congr hsize
    intro i
    simp only [Write.latest_append, Write.latest_cons_of_address h]

/-- A write to the last address below the limit fills the gap; the one to the limit and the one
to a negative address fail. -/
theorem zeroExtended_history_gap :
    let m : Memory := { cells := #[7], limit := 4 }
    let writes : List Write := [⟨3, 1⟩, ⟨4, 5⟩, ⟨-1, 6⟩, ⟨0, 2⟩, ⟨3, 9⟩]
    m.size ≤ m.limit ∧ (m.history writes).size = 4 ∧
      (m.history writes).cells[0]? = some 2 ∧ (m.history writes).cells[2]? = some 0 ∧
        (m.history writes).cells[3]? = some 9 := by
  intro m writes
  have hsize : m.size ≤ m.limit := by decide
  obtain ⟨_, hlength, hcells, _⟩ := zeroExtended_history m hsize writes
  have hfour : (m.history writes).size = 4 := by
    rw [hlength]
    decide
  refine ⟨hsize, hfour, ?_, ?_, ?_⟩
  · exact hcells 0 (by omega)
  · exact hcells 2 (by omega)
  · exact hcells 3 (by omega)

end Memory

end IntcodeMachine
