import IntcodeMachine.Proofs.Footprints
import IntcodeMachine.Script
import Mathlib.Data.Set.Defs

/-!
# What a run depends on

A step reads the instruction, its parameters and the cells that the parameters to be read mean:
`Machine.reads`.  The cell that it writes is not among them, and both operands of a jump are,
whether it is taken or not.  On another memory that reads the same at these addresses the step
is the same.  In a run the cells that differ become fewer, since what is written is written alike;
so two memories may differ where nothing is read before it is written.

* `Machine.turn_of_reads`: what a machine is about to do depends on the cells that it reads.
* `Memory.SameReach.read_history`: after the same writes two memories read the same where they did,
  and where they were written to.
* `Machine.determined_by_reads`: a step and a run depend on the cells that are read.
* `Machine.trailing_zeros_unobservable`: zeros at the end of a program make no difference.
-/

namespace IntcodeMachine

/-- The address of the cell that a parameter is read from.  None if the parameter is the value
itself, or if it means no address. -/
def Parameter.source? (base : Word) (p : Parameter) : Option Word :=
  match p.mode with
  | .position => some p.value
  | .immediate => none
  | .relative => Word.add? p.value base

namespace Fetched

/-- The addresses of the cells that hold the parameters. -/
def places (f : Fetched) : List Word :=
  (List.range f.opcode.arity).filterMap fun i : Nat => Word.ofInt? (f.pc.toInt + 1 + i)

/-- The parameters that are read. -/
def operands (f : Fetched) : List Parameter :=
  if f.opcode.writes then f.parameters.dropLast else f.parameters

variable {f : Fetched} {memory other : Memory} {base : Word}

theorem operand_congr {p : Parameter}
    (h : ∀ a, p.source? base = some a → other.load a = memory.load a) :
    f.operand other base p = f.operand memory base p := by
  unfold Parameter.source? at h
  unfold operand
  cases hmode : p.mode with
  | position =>
      simp only [hmode] at h
      exact h p.value rfl
  | immediate => rfl
  | relative =>
      simp only [hmode] at h
      cases hsum : Word.add? p.value base with
      | none => rfl
      | some address => exact h address hsum

/-- The effect of an instruction depends on the operands only. -/
theorem effect_congr (hlength : f.parameters.length = f.opcode.arity)
    (h : ∀ p ∈ f.operands, f.operand other base p = f.operand memory base p) :
    f.effect other base = f.effect memory base := by
  obtain ⟨pc, raw, opcode, parameters⟩ := f
  cases opcode with
  | add | multiply | lessThan | equals =>
      obtain ⟨a, b, d, rfl⟩ := List.length_eq_three.mp hlength
      have ha := h a List.mem_cons_self
      have hb := h b (List.mem_cons_of_mem a List.mem_cons_self)
      simp only [effect, combination, ha, hb]
  | jumpIfTrue | jumpIfFalse =>
      obtain ⟨c, t, rfl⟩ := List.length_eq_two.mp hlength
      have hc := h c List.mem_cons_self
      have ht := h t (List.mem_cons_of_mem c List.mem_cons_self)
      simp only [effect, branch, hc, ht]
  | input =>
      obtain ⟨d, rfl⟩ := List.length_eq_one_iff.mp hlength
      rfl
  | output | relativeBaseOffset =>
      obtain ⟨a, rfl⟩ := List.length_eq_one_iff.mp hlength
      have ha := h a List.mem_cons_self
      simp only [effect, ha]
  | halt =>
      obtain rfl := List.length_eq_zero_iff.mp hlength
      rfl

end Fetched

namespace Memory

variable {m k : Memory}

/-- A load says what a read does. -/
theorem load_congr {a : Word} (h : k.read a = m.read a) : k.load a = m.load a := by
  rw [load, load, h]

theorem cell_eq_of_read {a : Word} {i : Nat} (hi : a.toInt = i) (h : k.read a = m.read a) :
    k.cell i = m.cell i := by
  have hplace : a.toInt.toNat = i := by omega
  rw [read_of_nonneg k (by omega), read_of_nonneg m (by omega), hplace] at h
  exact Except.ok.inj h

theorem read_congr (h : ∀ i, k.cell i = m.cell i) (a : Word) : k.read a = m.read a := by
  rw [read, read, funext h]

theorem read_put_of_ne (m : Memory) {i : Nat} {a : Word} (value : Word) (h : a.toInt ≠ i) :
    (m.put i value).read a = m.read a := by
  unfold read
  cases hindex : index a with
  | error e => rfl
  | ok j =>
      have hj := index_eq_ok_iff.mp hindex
      exact congrArg Except.ok (m.cell_put_of_ne value (by omega))

end Memory

namespace Machine

variable {δ : Type}

/-- The addresses that a step reads.  A machine that has stopped reads nothing. -/
def reads (m : Machine δ) : List Word :=
  if m.halted then []
  else
    m.pc ::
      match Fetch.fetch m.memory m.pc with
      | .ok (.known f) => f.places ++ f.operands.filterMap (Parameter.source? m.base)
      | _ => []

variable {m : Machine δ} {other : Memory}

theorem mem_reads_pc (hrun : m.halted = false) : m.pc ∈ m.reads := by
  rw [reads, if_neg (by simp [hrun])]
  exact List.mem_cons_self

theorem mem_reads_of_known {f : Fetched} (hrun : m.halted = false)
    (hfetch : Fetch.fetch m.memory m.pc = .ok (.known f)) {a : Word}
    (h : a ∈ f.places ∨ ∃ p ∈ f.operands, p.source? m.base = some a) : a ∈ m.reads := by
  rw [reads, if_neg (by simp [hrun]), hfetch]
  refine List.mem_cons_of_mem _ (List.mem_append.mpr ?_)
  rcases h with hplace | ⟨p, hp, hsource⟩
  · exact Or.inl hplace
  · exact Or.inr (List.mem_filterMap.mpr ⟨p, hp, hsource⟩)

/-- The same is fetched from a memory that reads the same. -/
theorem fetch_of_reads (hrun : m.halted = false)
    (h : ∀ a ∈ m.reads, other.read a = m.memory.read a) :
    Fetch.fetch other m.pc = Fetch.fetch m.memory m.pc := by
  rcases Int.lt_or_le m.pc.toInt 0 with hneg | hpc
  · rw [Fetch.fetch_of_neg other hneg, Fetch.fetch_of_neg m.memory hneg]
  · have hraw : Fetch.rawAt other m.pc = Fetch.rawAt m.memory m.pc :=
      Memory.cell_eq_of_read (by omega) (h m.pc (mem_reads_pc hrun))
    have hfetch := Fetch.fetch_of_nonneg m.memory hpc
    rw [Fetch.fetch_of_nonneg other hpc, hraw]
    cases hdecode : Instruction.decode (Fetch.rawAt m.memory m.pc) with
    | error e => rw [hfetch, hdecode]
    | ok decoded =>
        cases decoded with
        | none => rw [hfetch, hdecode]
        | some i =>
            rw [hfetch, hdecode]
            simp only [Fetch.complete, Fetch.window_eq _ _ hpc]
            -- whether the parameters have addresses does not depend on memory
            by_cases hfits : i.arity = 0 ∨
                m.pc.toInt + (1 : Nat) + i.arity ≤ 0x8000000000000000
            · rw [if_pos hfits, if_pos hfits]
              rw [hdecode] at hfetch
              simp only [Fetch.complete, Fetch.window_eq _ _ hpc, if_pos hfits] at hfetch
              have hwindow : ∀ j ∈ List.range i.arity,
                  other.cell (m.pc.toInt.toNat + 1 + j) =
                    m.memory.cell (m.pc.toInt.toNat + 1 + j) := by
                intro j hj
                have hlt := List.mem_range.mp hj
                have hrange : Word.InRange (m.pc.toInt + 1 + j) := by
                  unfold Word.InRange
                  omega
                have hvalue := Word.toInt_ofInt_of_inRange hrange
                refine Memory.cell_eq_of_read (a := Int64.ofInt (m.pc.toInt + 1 + j)) (by omega) ?_
                refine h _ (mem_reads_of_known hrun hfetch (Or.inl ?_))
                exact List.mem_filterMap.mpr ⟨j, hj, if_pos hrange⟩
              rw [List.map_congr_left hwindow]
            · rw [if_neg hfits, if_neg hfits]

/-- **What a machine is about to do depends on the cells that it reads.** -/
theorem turn_of_reads (h : ∀ a ∈ m.reads, other.read a = m.memory.read a) :
    (m.withMemory other).turn = m.turn := by
  cases hhalted : m.halted with
  | true => rw [turn_of_halted hhalted, turn_of_halted (m := m.withMemory other) hhalted]
  | false =>
      have hfetch := fetch_of_reads hhalted h
      simp only [turn, withMemory, hhalted, hfetch]
      cases hfound : Fetch.fetch m.memory m.pc with
      | error fault => rfl
      | ok found =>
          cases found with
          | unknown raw => rfl
          | known f =>
              have heffect : f.effect other m.base = f.effect m.memory m.base := by
                apply Fetched.effect_congr (Fetch.length_parameters_of_fetch hfound)
                intro p hp
                apply Fetched.operand_congr
                intro a hsource
                apply Memory.load_congr
                exact h a (mem_reads_of_known hhalted hfound (Or.inr ⟨p, hp, hsource⟩))
              simp only [heffect]

end Machine

/-- Of several writes to a cell one is the last. -/
theorem Write.latest_ne_none {limit : Nat} {writes : List Write} {w : Write} {i : Nat}
    (hw : w ∈ writes) (htarget : w.target limit = some i) : latest limit writes i ≠ none := by
  have hmem : w ∈ writes.filter fun w => w.target limit = some i :=
    List.mem_filter.mpr ⟨hw, decide_eq_true htarget⟩
  intro hnone
  rw [latest, Option.map_eq_none_iff, List.getLast?_eq_none_iff] at hnone
  rw [hnone] at hmem
  cases hmem

/-- **After the same writes two memories read the same** where they did before, and where they were
written to. -/
theorem Memory.SameReach.read_history {m k : Memory} (h : m.SameReach k) {writes : List Write}
    {a : Word} (hread : k.read a = m.read a ∨ ∃ w ∈ writes, w.address = a) :
    (k.history writes).read a = (m.history writes).read a := by
  rcases Int.lt_or_le a.toInt 0 with hneg | hnonneg
  · have hindex := index_eq_error_iff.mpr ⟨hneg, rfl⟩
    rw [read, read, hindex]
    rfl
  · obtain ⟨i, hi⟩ := Int.eq_ofNat_of_zero_le hnonneg
    have hcell : k.cell i = m.cell i ∨ Write.latest m.limit writes i ≠ none := by
      rcases hread with hread | ⟨w, hw, rfl⟩
      · exact Or.inl (cell_eq_of_read hi hread)
      · rcases Nat.lt_or_ge i m.limit with hlt | hge
        · exact Or.inr (Write.latest_ne_none hw (Write.target_eq_some_iff.mpr ⟨hi, hlt⟩))
        · have hm : m.size ≤ i := Nat.le_trans h.size_le hge
          have hk : k.size ≤ i := Nat.le_trans h.other_size_le hge
          exact Or.inl ((cell_of_size_le hk).trans (cell_of_size_le hm).symm)
    have hplace : a.toInt.toNat = i := by omega
    rw [read_of_nonneg _ hnonneg, read_of_nonneg _ hnonneg, hplace]
    refine congrArg Except.ok ?_
    change (k.history writes).cell i = (m.history writes).cell i
    rw [cell_history h.size_le, cell_history (h.limit_eq ▸ h.other_size_le), h.limit_eq]
    rcases hcell with hcell | hlatest
    · rw [hcell]
    · obtain ⟨value, hvalue⟩ := Option.ne_none_iff_exists'.mp hlatest
      rw [hvalue]
      rfl

namespace Machine

variable {δ : Type}

/-- Two machines that differ in memory at most. -/
structure Twins (s t : Machine δ) : Prop where
  pc_eq : t.pc = s.pc
  base_eq : t.base = s.base
  halted_eq : t.halted = s.halted
  device_eq : t.device = s.device

theorem Twins.eq_withMemory {s t : Machine δ} (h : s.Twins t) : t = s.withMemory t.memory := by
  obtain ⟨memory, pc, base, halted, device⟩ := t
  obtain ⟨rfl, rfl, rfl, rfl⟩ := h
  rfl

theorem twins_withMemory (m : Machine δ) (other : Memory) : m.Twins (m.withMemory other) :=
  ⟨rfl, rfl, rfl, rfl⟩

variable [Device δ]

/-- In a run nothing is read from a cell that differs, unless it has been written to before. -/
theorem turn_of_unread {m : Machine δ} {other : Memory} (h : m.memory.SameReach other)
    {differing : Set Word} {k : Nat}
    (hagree : ∀ a, a ∉ differing → other.read a = m.memory.read a)
    (hunread : ∀ a ∈ (m.after k).reads, a ∈ differing → ∃ w ∈ m.writes k, w.address = a) :
    ((m.after k).withMemory (other.history (m.writes k))).turn = (m.after k).turn := by
  apply turn_of_reads
  intro a ha
  rw [memory_after]
  apply h.read_history
  by_cases hdiffers : a ∈ differing
  · exact Or.inr (hunread a ha hdiffers)
  · exact Or.inl (hagree a hdiffers)

/-- **A run depends on the cells that it reads.**  If two machines differ in memory at most, and
memory reads the same at the addresses that the first one reads, a step comes to the same, leaves
them with a difference in memory at most, and makes the same write in both, or none in both.  Over
a run memories may differ in cells that are read only after they were written to; then all steps
come to the same, and in the end memories read the same in the other cells and in those that were
written to. -/
theorem determined_by_reads (s t : Machine Script) (htwins : s.Twins t)
    (hreach : s.memory.SameReach t.memory) :
    ((∀ a ∈ s.reads, t.memory.read a = s.memory.read a) →
      t.step.outcome = s.step.outcome ∧ s.step.machine.Twins t.step.machine ∧
        t.written = s.written ∧
        s.step.machine.memory = s.memory.history s.written.toList ∧
        t.step.machine.memory = t.memory.history s.written.toList) ∧
    ∀ (differing : Set Word) (n : Nat),
      (∀ a, a ∉ differing → t.memory.read a = s.memory.read a) →
      (∀ k, k < n → ∀ a ∈ (s.after k).reads, a ∈ differing →
        ∃ w ∈ s.writes k, w.address = a) →
      (∀ k, k < n → t.outcomeAt k = s.outcomeAt k) ∧
        (s.after n).Twins (t.after n) ∧
        ∀ a, (a ∈ differing → ∃ w ∈ s.writes n, w.address = a) →
          (t.after n).memory.read a = (s.after n).memory.read a := by
  obtain ⟨other, rfl⟩ : ∃ other, t = s.withMemory other := ⟨t.memory, htwins.eq_withMemory⟩
  simp only [memory_withMemory] at hreach ⊢
  refine ⟨?_, ?_⟩
  · intro hreads
    obtain ⟨hstep, hwritten⟩ := step_withMemory hreach.slot_eq (turn_of_reads hreads)
    rw [hstep]
    exact ⟨rfl, twins_withMemory _ _, hwritten, memory_step s, rfl⟩
  · intro differing n hagree hunread
    have hturns : ∀ k, k < n →
        ((s.after k).withMemory (other.history (s.writes k))).turn = (s.after k).turn :=
      fun k hk => turn_of_unread hreach hagree (hunread k hk)
    rw [after_withMemory hreach hturns]
    refine ⟨?_, twins_withMemory _ _, ?_⟩
    · intro k hk
      exact outcomeAt_withMemory hreach fun j hj => hturns j (Nat.lt_of_le_of_lt hj hk)
    · intro a ha
      rw [memory_after]
      apply hreach.read_history
      by_cases hdiffers : a ∈ differing
      · exact Or.inr (ha hdiffers)
      · exact Or.inl (hagree a hdiffers)

/-- Cell 9 differs, and it is written to before it is put out. -/
theorem determined_by_reads_written_first :
    let s := ofProgram [1101, 2, 3, 9, 4, 9, 99, 7, 8, 5] 16 (Script.ofInput [])
    let t := s.withMemory (s.memory.put 9 77)
    let differing : Set Word := { a | a.toInt = 9 }
    s.Twins t ∧ s.memory.SameReach t.memory ∧
      (∀ a ∈ s.reads, t.memory.read a = s.memory.read a) ∧
      (∀ a, a ∉ differing → t.memory.read a = s.memory.read a) ∧
      (∀ k, k < 3 → ∀ a ∈ (s.after k).reads, a ∈ differing → ∃ w ∈ s.writes k, w.address = a) ∧
      t.step.machine.memory = t.memory.history [⟨9, 5⟩] ∧
      (t.after 3).device.buffer.values = #[5] ∧ (t.after 3).memory.read 9 = .ok 5 := by
  intro s t differing
  have htwins : s.Twins t := twins_withMemory s _
  have hreach : s.memory.SameReach t.memory := ⟨by decide, by decide, by decide⟩
  have hagree : ∀ a, a ∉ differing → t.memory.read a = s.memory.read a :=
    fun a ha => s.memory.read_put_of_ne 77 ha
  have hfirst : (s.reads.all fun a => a.toInt ≠ 9) = true := by decide
  have hreads : ∀ a ∈ s.reads, t.memory.read a = s.memory.read a := by
    intro a ha
    have hother : a.toInt ≠ 9 := of_decide_eq_true (List.all_eq_true.mp hfirst a ha)
    exact hagree a hother
  have hwritten : ((List.range 3).all fun k => (s.after k).reads.all fun a =>
      a.toInt = 9 → ∃ w ∈ s.writes k, w.address = a) = true := by decide
  have hunread : ∀ k, k < 3 → ∀ a ∈ (s.after k).reads, a ∈ differing →
      ∃ w ∈ s.writes k, w.address = a := by
    intro k hk a ha hdiffers
    have hstep := List.all_eq_true.mp hwritten k (List.mem_range.mpr hk)
    exact of_decide_eq_true (List.all_eq_true.mp hstep a ha) hdiffers
  obtain ⟨hstep, hrun⟩ := determined_by_reads s t htwins hreach
  obtain ⟨_, hends, hmemory⟩ := hrun differing 3 hagree hunread
  refine ⟨htwins, hreach, hreads, hagree, hunread, ?_, ?_, ?_⟩
  · have hwritten : s.written.toList = [⟨9, 5⟩] := by decide
    rw [(hstep hreads).2.2.2.2, hwritten]
  · rw [hends.device_eq]
    decide
  · rw [hmemory 9 fun _ => ⟨⟨9, 5⟩, by decide, rfl⟩]
    decide

/-- Zeros at the end of a program are read where there would be nothing. -/
theorem cell_append_zeros (program : Program) (limit k i : Nat) :
    Memory.cell { cells := (program ++ List.replicate k 0).toArray, limit } i =
      Memory.cell { cells := program.toArray, limit } i := by
  simp only [Memory.cell, List.getElem?_toArray]
  rcases Nat.lt_or_ge i program.length with hlt | hge
  · rw [List.getElem?_append_left hlt]
  · rw [List.getElem?_append_right hge, List.getElem?_eq_none hge, List.getElem?_replicate]
    split <;> rfl

/-- **Zeros at the end of a program cannot be observed**, as long as the program stays below the
limit.  Every step comes to the same and leaves the same registers and the same device, memory reads
the same at every address, and only its size tells that there were more cells in the beginning. -/
theorem trailing_zeros_unobservable (program : Program) (limit k : Nat) (device : δ)
    (h : program.length + k ≤ limit) (n : Nat) :
    let short := ofProgram program limit device
    let long := ofProgram (program ++ List.replicate k 0) limit device
    long.outcomeAt n = short.outcomeAt n ∧ (short.after n).Twins (long.after n) ∧
      (∀ a, (long.after n).memory.read a = (short.after n).memory.read a) ∧
      (long.after n).memory.size = max (short.after n).memory.size (program.length + k) := by
  intro short long
  have hlong : long = short.withMemory long.memory := rfl
  have hshortSize : short.memory.size = program.length := rfl
  have hlongSize : long.memory.size = program.length + k := by
    simp [long, ofProgram, Memory.size]
  have hreach : short.memory.SameReach long.memory := by
    refine ⟨rfl, ?_, ?_⟩
    · rw [hshortSize]
      exact Nat.le_trans (Nat.le_add_right _ k) h
    · rw [hlongSize]
      exact h
  have hagree : ∀ a, long.memory.read a = short.memory.read a :=
    Memory.read_congr (cell_append_zeros program limit k)
  have hreads : ∀ j a, (long.memory.history (short.writes j)).read a =
      (short.after j).memory.read a := by
    intro j a
    rw [memory_after]
    exact hreach.read_history (Or.inl (hagree a))
  have hturns : ∀ j, ((short.after j).withMemory (long.memory.history (short.writes j))).turn =
      (short.after j).turn := fun j => turn_of_reads fun a _ => hreads j a
  have hafter : long.after n = (short.after n).withMemory (long.memory.history (short.writes n)) :=
    after_withMemory hreach fun j _ => hturns j
  refine ⟨outcomeAt_withMemory hreach fun j _ => hturns j, ?_, ?_, ?_⟩
  · rw [hafter]
    exact twins_withMemory _ _
  · rw [hafter]
    exact hreads n
  · have hmax : program.length + k = max (program.length + k) program.length := by omega
    rw [hafter, memory_withMemory, memory_after, Memory.size_history hreach.size_le,
      Memory.size_history hreach.other_size_le, hlongSize, hshortSize]
    -- the sizes grow from the two starting points by the same writes
    rw [hmax, List.foldl_assoc, ← hmax]
    exact Nat.max_comm _ _

/-- The instruction overlaps the end of the shorter memory, and one of its writes is to a cell that
only the longer one has. -/
theorem trailing_zeros_unobservable_overlap :
    let short := ofProgram [1101, 7, 8, 5, 101, 1] 9 (Script.ofInput [])
    let long := ofProgram ([1101, 7, 8, 5, 101, 1] ++ List.replicate 3 0) 9 (Script.ofInput [])
    [1101, 7, 8, 5, 101, 1].length + 3 ≤ 9 ∧
      long.outcomeAt 2 = short.outcomeAt 2 ∧ (long.after 2).memory.size = 9 := by
  intro short long
  have hfits : [1101, 7, 8, 5, 101, 1].length + 3 ≤ 9 := by decide
  obtain ⟨houtcome, _, _, hsize⟩ :=
    trailing_zeros_unobservable [1101, 7, 8, 5, 101, 1] 9 3 (Script.ofInput []) hfits 2
  refine ⟨hfits, houtcome, ?_⟩
  rw [hsize]
  decide

end Machine

end IntcodeMachine
