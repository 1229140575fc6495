import IntcodeMachine.Proofs.Devices
import IntcodeMachine.Proofs.Halting

/-!
# Running off the code

Cells past the end of memory read as 0, and no operation has the class 0.  So a machine that has
passed the last cell with an operation skips, one cell at each step.  Skipping writes nothing, and
asks no device; so there is nothing but such cells ahead for as long as there are addresses.  At the
greatest word there is no next address, and the machine fails there however often it tries.

* `Machine.OffCode.step_below`, `Machine.OffCode.step_at_greatest`: what one step does.
* `Machine.OffCode.after`: a number of steps moves the program counter by this number.
* `Machine.runs_off_code`: all that such a machine does, and that a program gets there by passing
  the end of memory.
-/

namespace IntcodeMachine

namespace Machine

variable {δ : Type}

/-- The machine runs in a memory that can be held, and no cell from the program counter on selects
an operation. -/
structure OffCode (m : Machine δ) : Prop where
  running : m.halted = false
  size_lt : m.memory.size < Memory.capacity
  pc_nonneg : 0 ≤ m.pc.toInt
  unknown : ∀ i : Nat, m.pc.toInt ≤ i →
    Opcode.ofClass? (Opcode.classOf (m.memory.cell i)) = none

/-- The same machine, with a record of what its device is asked for from now on. -/
def recorded (m : Machine δ) : Machine (Recorder δ) :=
  { memory := m.memory, pc := m.pc, base := m.base, halted := m.halted,
    device := { device := m.device } }

namespace OffCode

variable {m : Machine δ}

/-- Only the cells in memory need to be looked at. -/
theorem of_cells (hrun : m.halted = false) (hsize : m.memory.size < Memory.capacity)
    (hpc : 0 ≤ m.pc.toInt)
    (hcells : ∀ i, i < m.memory.size → m.pc.toInt ≤ i →
      Opcode.ofClass? (Opcode.classOf (m.memory.cell i)) = none) : m.OffCode where
  running := hrun
  size_lt := hsize
  pc_nonneg := hpc
  unknown := by
    intro i hi
    rcases Nat.lt_or_ge i m.memory.size with hlt | hle
    · exact hcells i hlt hi
    · rw [Memory.cell_of_size_le hle]
      decide

/-- Behind the end of memory there are only zeros. -/
theorem of_past_end (hrun : m.halted = false)
    (hsize : m.memory.size < Memory.capacity) (hpast : m.memory.size ≤ m.pc.toInt) : m.OffCode :=
  of_cells hrun hsize (by omega) fun i hi hle => by omega

theorem moved (h : m.OffCode) (pc : Word) (hle : m.pc.toInt ≤ pc.toInt) :
    OffCode { m with pc } where
  running := h.running
  size_lt := h.size_lt
  pc_nonneg := Int.le_trans h.pc_nonneg hle
  unknown := fun i hi => h.unknown i (Int.le_trans hle hi)

theorem recorded (h : m.OffCode) : m.recorded.OffCode :=
  ⟨h.running, h.size_lt, h.pc_nonneg, h.unknown⟩

variable [Device δ]

theorem step_eq_skip (h : m.OffCode) : m.step = m.skip (Fetch.rawAt m.memory m.pc) := by
  have hpc := h.pc_nonneg
  have hunknown := h.unknown m.pc.toInt.toNat (by omega)
  exact step_of_unknown h.running (Fetch.fetch_of_unknown m.memory hpc hunknown)

/-- **One cell is skipped**, and nothing else happens. -/
theorem step_below (h : m.OffCode) (hlt : m.pc.toInt < Int64.maxValue.toInt) :
    ∃ next : Word, next.toInt = m.pc.toInt + 1 ∧ m.step.outcome = .ok false ∧
      m.step.machine = { m with pc := next } := by
  have hpc := h.pc_nonneg
  rw [Int64.toInt_maxValue] at hlt
  have hrange : Word.InRange (m.pc.toInt + 1) := by
    unfold Word.InRange
    omega
  have hnext : (Int64.ofInt (m.pc.toInt + 1)).toInt = m.pc.toInt + 1 :=
    Word.toInt_ofInt_of_inRange hrange
  have hinc : m.pc.inc? 1 = some (Int64.ofInt (m.pc.toInt + 1)) :=
    Register.inc?_eq_some_iff.mpr hnext
  refine ⟨Int64.ofInt (m.pc.toInt + 1), hnext, ?_⟩
  rw [h.step_eq_skip, skip, hinc]
  exact ⟨rfl, rfl⟩

/-- **At the greatest word the machine fails**, and stays as it is. -/
theorem step_at_greatest (h : m.OffCode) (hpc : m.pc = Int64.maxValue) :
    m.step.outcome = .error (.overflow Int64.maxValue 0) ∧ m.step.machine = m := by
  have hsize := h.size_lt
  unfold Memory.capacity at hsize
  have hraw : Fetch.rawAt m.memory m.pc = 0 := by
    apply Memory.cell_of_size_le
    rw [hpc, Int64.toInt_maxValue]
    omega
  have hinc : m.pc.inc? 1 = none := by
    rw [hpc]
    decide
  rw [h.step_eq_skip, skip, hinc, hraw, hpc]
  exact ⟨rfl, rfl⟩

/-- **A number of steps moves the program counter by this number**, and changes nothing else. -/
theorem after (h : m.OffCode) {k : Nat} (hk : m.pc.toInt + k ≤ Int64.maxValue.toInt) :
    ∃ pc : Word, pc.toInt = m.pc.toInt + k ∧ m.after k = { m with pc } := by
  induction k with
  | zero => exact ⟨m.pc, (Int.add_zero _).symm, rfl⟩
  | succ k ih =>
      obtain ⟨pc, hpc, hafter⟩ := ih (by omega)
      obtain ⟨next, hnext, _, hstep⟩ :=
        (h.moved pc (by omega)).step_below (by simp only; omega)
      simp only at hnext
      refine ⟨next, by omega, ?_⟩
      rw [after_succ, hafter, hstep]

theorem outcomeAt_below (h : m.OffCode) {k : Nat}
    (hk : m.pc.toInt + k < Int64.maxValue.toInt) : m.outcomeAt k = .ok false := by
  obtain ⟨pc, hpc, hafter⟩ := h.after (k := k) (by omega)
  obtain ⟨_, _, houtcome, _⟩ := (h.moved pc (by omega)).step_below (by simp only; omega)
  rw [Machine.outcomeAt, hafter, houtcome]

/-- From the greatest word on, every step fails in the same way. -/
theorem stuck (h : m.OffCode) {n : Nat} (hn : Int64.maxValue.toInt ≤ m.pc.toInt + n) :
    m.outcomeAt n = .error (.overflow Int64.maxValue 0) ∧
      m.after n = { m with pc := Int64.maxValue } := by
  have hlt := m.pc.toInt_lt
  have hmax := Int64.toInt_maxValue
  obtain ⟨extra, rfl⟩ :=
    Nat.exists_eq_add_of_le (show (Int64.maxValue.toInt - m.pc.toInt).toNat ≤ n by omega)
  obtain ⟨pc, hpc, hafter⟩ :=
    h.after (k := (Int64.maxValue.toInt - m.pc.toInt).toNat) (by omega)
  obtain rfl : pc = Int64.maxValue := Int64.toInt_inj.mp (by omega)
  obtain ⟨houtcome, hsame⟩ :=
    (h.moved Int64.maxValue (by omega)).step_at_greatest rfl
  have hstays : m.after ((Int64.maxValue.toInt - m.pc.toInt).toNat + extra) =
      { m with pc := Int64.maxValue } := by
    rw [after_add, hafter]
    exact after_of_fixed hsame extra
  refine ⟨?_, hstays⟩
  rw [Machine.outcomeAt, hstays, houtcome]

/-- Every state of such a machine is the first one with another program counter. -/
theorem exists_pc_after (h : m.OffCode) (n : Nat) : ∃ pc : Word, m.after n = { m with pc } := by
  rcases Int.le_total (m.pc.toInt + n) Int64.maxValue.toInt with hbelow | habove
  · obtain ⟨pc, _, hafter⟩ := h.after hbelow
    exact ⟨pc, hafter⟩
  · exact ⟨Int64.maxValue, (h.stuck habove).2⟩

/-- A run without a limit comes to an end at the greatest word, with the failure there. -/
theorem executes_iff (h : m.OffCode) {outcome : Except Fault Unit} {k : Machine δ} :
    m.Executes outcome k ↔
      outcome = .error (.overflow Int64.maxValue 0) ∧ k = { m with pc := Int64.maxValue } := by
  have hlt := m.pc.toInt_lt
  have hmax := Int64.toInt_maxValue
  rw [Machine.executes_iff]
  constructor
  · rintro ⟨n, _, hends, houtcome, hlast⟩
    have hn : Int64.maxValue.toInt ≤ m.pc.toInt + n := by
      by_contra hbelow
      exact hends (h.outcomeAt_below (by omega))
    rw [(h.stuck hn).1] at houtcome
    rw [(h.stuck (n := n + 1) (by omega)).2] at hlast
    exact ⟨houtcome.symm, hlast.symm⟩
  · rintro ⟨rfl, rfl⟩
    obtain ⟨n, hn⟩ : ∃ n : Nat, m.pc.toInt + n = Int64.maxValue.toInt :=
      ⟨(Int64.maxValue.toInt - m.pc.toInt).toNat, by omega⟩
    have hfirst := (h.stuck (n := n) (by omega)).1
    refine ⟨n, fun j hj => h.outcomeAt_below (by omega), ?_, ?_, (h.stuck (by omega)).2⟩
    · rw [hfirst]
      exact nofun
    · rw [hfirst]
      rfl

end OffCode

variable [Device δ]

/-- All that a machine does which runs off its code.  It skips up to the greatest word, asking its
device for nothing, fails there for ever, and so does not stop; and a run without a limit comes to
an end with that failure only. -/
structure RunsOff (m : Machine δ) : Prop where
  skips : ∀ k : Nat, m.pc.toInt + k ≤ Int64.maxValue.toInt →
    (∀ j, j < k → m.outcomeAt j = .ok false) ∧
      ∃ pc : Word, pc.toInt = m.pc.toInt + k ∧ m.after k = { m with pc }
  asks_nothing : ∀ n, (m.recorded.after n).device.calls = []
  fails : ∀ n : Nat, Int64.maxValue.toInt ≤ m.pc.toInt + n →
    m.outcomeAt n = .error (.overflow Int64.maxValue 0) ∧
      m.after n = { m with pc := Int64.maxValue }
  running : ∀ n, (m.after n).halted = false
  executes_iff : ∀ outcome k, m.Executes outcome k ↔
    outcome = .error (.overflow Int64.maxValue 0) ∧ k = { m with pc := Int64.maxValue }

theorem OffCode.runsOff {m : Machine δ} (h : m.OffCode) : m.RunsOff where
  skips := fun _ hk => ⟨fun _ hj => h.outcomeAt_below (by omega), h.after hk⟩
  asks_nothing := by
    intro n
    obtain ⟨pc, hafter⟩ := h.recorded.exists_pc_after n
    rw [hafter]
    rfl
  fails := fun _ hn => h.stuck hn
  running := by
    intro n
    obtain ⟨pc, hafter⟩ := h.exists_pc_after n
    rw [hafter]
    exact h.running
  executes_iff := fun _ _ => h.executes_iff

/-- A machine that stops stands at an instruction, so it has not passed the end of memory. -/
theorem running_of_past_end {m : Machine δ} (hstart : m.halted = false) (n : Nat)
    (hpast : (m.after n).memory.size ≤ (m.after n).pc.toInt) : (m.after n).halted = false := by
  by_contra hflag
  obtain ⟨_, hclass⟩ := halted_after hstart n (eq_true_of_ne_false hflag)
  rw [Memory.cell_of_size_le (by omega)] at hclass
  revert hclass
  decide

/-- **Running off the code.**  If no cell from the program counter on selects an operation, the
machine never stops and never acts: it skips one cell at each step up to the greatest word, and
fails there.  So does every program whose program counter has passed the end of memory. -/
theorem runs_off_code :
    (∀ m : Machine δ, m.OffCode → m.RunsOff) ∧
    ∀ (program : Program) (limit : Nat) (device : δ) (n : Nat),
      program.length < Memory.capacity → limit < Memory.capacity →
      let m := (ofProgram program limit device).after n
      m.memory.size ≤ m.pc.toInt → m.RunsOff := by
  refine ⟨fun m h => h.runsOff, ?_⟩
  intro program limit device n hprogram hlimit m hpast
  have hstart : (ofProgram program limit device).memory.Bounded := by
    refine ⟨?_, hlimit⟩
    rwa [Memory.size, ofProgram, List.size_toArray]
  have hrun : m.halted = false := running_of_past_end rfl n hpast
  exact (OffCode.of_past_end hrun (bounded_after hstart n).size_lt hpast).runsOff

/-- The machine stands behind an instruction to stop, before two cells without an operation, one of
them negative; and a program jumps to its end. -/
theorem runs_off_code_to_greatest :
    (let m : Machine Script := { memory := { cells := #[99, 5000, -5] }, pc := 1, device := {} }
     m.OffCode ∧
      m.outcomeAt 0x7FFFFFFFFFFFFFFE = .error (.overflow 0x7FFFFFFFFFFFFFFF 0)) ∧
    let m := (ofProgram [1106, 0, 3] 16 (Script.ofInput [])).after 1
    m.memory.size ≤ m.pc.toInt ∧ ∀ k, ¬ m.Executes (.ok ()) k := by
  obtain ⟨hoff, hprogram⟩ := runs_off_code (δ := Script)
  refine ⟨?_, ?_⟩
  · intro m
    have hm : m.OffCode := .of_cells rfl (by decide) (by decide) (by decide)
    exact ⟨hm, ((hoff m hm).fails _ (by decide)).1⟩
  · intro m
    have hpast : m.memory.size ≤ m.pc.toInt := by decide
    have hruns : m.RunsOff :=
      hprogram [1106, 0, 3] 16 (Script.ofInput []) 1 (by decide) (by decide) hpast
    refine ⟨hpast, fun k h => ?_⟩
    cases ((hruns.executes_iff _ k).mp h).1

end Machine

end IntcodeMachine
