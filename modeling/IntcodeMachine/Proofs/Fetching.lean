import IntcodeMachine.Machine.Effect
import IntcodeMachine.Proofs.Decoding
import IntcodeMachine.Register

/-!
# What is fetched

Fetching reads cells only, so what it finds can be said by the cells: `Fetched.InPlace`.  An
operation that is known has a class other than 0, so its cell is not past the end of memory.
A memory that can be held at all ends far below the greatest word; so the parameters, and the
next instruction, have addresses that are words.

* `Fetch.fetch_eq_known_iff`: what is fetched, said by the cells and what the first decodes to.
* `Fetch.inPlace_of_fetch`: what is fetched stands in memory, mode digits and parameters.
* `Fetch.fetch_of_modes`: an instruction with valid modes is fetched.
* `Fetched.InPlace.exists_next`: the next instruction has an address.
-/

namespace IntcodeMachine

/-- A row of words has fewer cells than this. -/
def Memory.capacity : Nat := 0x1000000000000000

theorem Word.toInt_ofBool (b : Bool) : (Word.ofBool b).toInt = if b then 1 else 0 := by
  cases b <;> decide

namespace Memory

theorem load_of_nonneg (memory : Memory) {address : Word} (h : 0 ≤ address.toInt) :
    memory.load address = .ok (memory.cell address.toInt.toNat) := by
  have hindex : index address = .ok address.toInt.toNat := by
    rw [index_eq_ok_iff]
    omega
  rw [load, read, hindex]
  rfl

theorem load_of_neg (memory : Memory) {address : Word} (h : address.toInt < 0) :
    memory.load address = .error (.address (.negative address)) := by
  have hindex : index address = .error (.negative address) :=
    index_eq_error_iff.mpr ⟨h, rfl⟩
  rw [load, read, hindex]
  rfl

theorem load_eq_ok_iff {memory : Memory} {address value : Word} :
    memory.load address = .ok value ↔
      0 ≤ address.toInt ∧ value = memory.cell address.toInt.toNat := by
  rcases Int.lt_or_le address.toInt 0 with hneg | hnonneg
  · rw [load_of_neg memory hneg]
    simp only [reduceCtorEq, false_iff]
    omega
  · rw [load_of_nonneg memory hnonneg]
    simp only [Except.ok.injEq, hnonneg, true_and]
    exact eq_comm

end Memory

/-- The raw value that the program counter points at, in a memory. -/
def Fetch.rawAt (memory : Memory) (pc : Word) : Word := memory.cell pc.toInt.toNat

/-- An instruction stands in memory at an address: its cell selects the operation and gives
the modes, and the cells after it are the parameters. -/
structure Fetched.InPlace (f : Fetched) (memory : Memory) (pc : Word) : Prop where
  pc_eq : f.pc = pc
  pc_nonneg : 0 ≤ pc.toInt
  raw_eq : f.raw = Fetch.rawAt memory pc
  opcode_eq : Opcode.ofClass? (Opcode.classOf f.raw) = some f.opcode
  modes_eq : f.parameters.map (·.mode.digit) =
    (List.range f.opcode.arity).map (digitAt (Instruction.modeDigits f.raw))
  values_eq : f.parameters.map (·.value) =
    (List.range f.opcode.arity).map fun i => memory.cell (pc.toInt.toNat + 1 + i)

/-- What is found at an address: the instruction that its cell decodes to, on the cells after it.
All of these must have addresses. -/
structure Fetched.FoundAt (f : Fetched) (memory : Memory) (pc : Word) : Prop where
  pc_eq : f.pc = pc
  pc_nonneg : 0 ≤ pc.toInt
  raw_eq : f.raw = Fetch.rawAt memory pc
  decode_eq : Instruction.decode f.raw = .ok (some ⟨f.opcode, f.parameters.map (·.mode)⟩)
  fits : f.opcode.arity = 0 ∨ pc.toInt + 1 + f.opcode.arity ≤ 0x8000000000000000
  values_eq : f.parameters.map (·.value) =
    (List.range f.opcode.arity).map fun i => memory.cell (pc.toInt.toNat + 1 + i)

namespace Opcode

/-- A cell that holds 0 selects no operation. -/
theorem ne_zero_of_ofClass? {raw : Word} {op : Opcode} (h : ofClass? (classOf raw) = some op) :
    raw ≠ 0 := by
  intro hzero
  subst hzero
  have hclass : classOf 0 = 0 := by decide
  rw [hclass] at h
  cases h

end Opcode

namespace Fetch

/-- The cells after the program counter are read unless their addresses leave the range of
words. -/
theorem window_eq (memory : Memory) {pc : Word} (raw : Word) (hpc : 0 ≤ pc.toInt)
    (offset count : Nat) :
    window memory pc raw offset count =
      if count = 0 ∨ pc.toInt + offset + count ≤ 0x8000000000000000 then
        .ok ((List.range count).map fun i => memory.cell (pc.toInt.toNat + offset + i))
      else .error (.overflow pc raw) := by
  induction count generalizing offset with
  | zero => rfl
  | succ count ih =>
      unfold window
      cases haddress : Word.ofInt? (pc.toInt + offset) with
      | none =>
          have hout := Word.ofInt?_eq_none_iff.mp haddress
          unfold Word.InRange at hout
          rw [if_neg (by omega)]
      | some address =>
          have hvalue := Word.ofInt?_eq_some_iff.mp haddress
          have hlt := address.toInt_lt
          have hnonneg : 0 ≤ address.toInt := by omega
          have hplace : address.toInt.toNat = pc.toInt.toNat + offset := by omega
          simp only [memory.load_of_nonneg hnonneg, hplace, ih]
          by_cases hfits : pc.toInt + offset + (count + 1 : Nat) ≤ 0x8000000000000000
          · rw [if_pos (Or.inr (by omega)), if_pos (Or.inr hfits)]
            simp only [Except.map, List.range_succ_eq_map, List.map_cons, List.map_map,
              Nat.add_zero, Except.ok.injEq, List.cons.injEq, true_and]
            apply List.map_congr_left
            intro i _
            simp only [Function.comp_apply]
            congr 1
            omega
          · rw [if_neg (by omega), if_neg (by omega)]
            rfl

theorem fetch_of_neg (memory : Memory) {pc : Word} (h : pc.toInt < 0) :
    fetch memory pc = .error (.address (.negative pc)) := by
  rw [fetch, memory.load_of_neg h]

theorem fetch_of_nonneg (memory : Memory) {pc : Word} (h : 0 ≤ pc.toInt) :
    fetch memory pc =
      match Instruction.decode (rawAt memory pc) with
      | .error e => .error (.invalidMode pc (rawAt memory pc) e.digit)
      | .ok none => .ok (.unknown (rawAt memory pc))
      | .ok (some i) => (complete memory pc (rawAt memory pc) i).map .known := by
  rw [fetch, memory.load_of_nonneg h]
  rfl

theorem fetch_of_unknown (memory : Memory) {pc : Word} (hpc : 0 ≤ pc.toInt)
    (h : Opcode.ofClass? (Opcode.classOf (rawAt memory pc)) = none) :
    fetch memory pc = .ok (.unknown (rawAt memory pc)) := by
  rw [fetch_of_nonneg memory hpc, Instruction.decode, h]

theorem fetch_of_invalidMode (memory : Memory) {pc : Word} {op : Opcode} {e : InvalidMode}
    (hpc : 0 ≤ pc.toInt)
    (hop : Opcode.ofClass? (Opcode.classOf (rawAt memory pc)) = some op)
    (h : Instruction.modesOf (rawAt memory pc) op.arity = .error e) :
    fetch memory pc = .error (.invalidMode pc (rawAt memory pc) e.digit) := by
  rw [fetch_of_nonneg memory hpc, Instruction.decode, hop]
  simp only [h]
  rfl

/-- A cell whose class selects an operation is not past the end of memory. -/
theorem toNat_lt_size {memory : Memory} {pc : Word} {op : Opcode}
    (h : Opcode.ofClass? (Opcode.classOf (rawAt memory pc)) = some op) :
    pc.toInt.toNat < memory.size := by
  rcases Nat.lt_or_ge pc.toInt.toNat memory.size with hlt | hle
  · exact hlt
  · exact absurd (Memory.cell_of_size_le hle) (Opcode.ne_zero_of_ofClass? h)

/-- **Fetching an instruction.**  In a memory that can be held, an operation whose modes are
valid is fetched together with its parameters. -/
theorem fetch_of_modes {memory : Memory} {pc : Word} {op : Opcode} {modes : List Mode}
    (hsize : memory.size < Memory.capacity) (hpc : 0 ≤ pc.toInt)
    (hop : Opcode.ofClass? (Opcode.classOf (rawAt memory pc)) = some op)
    (h : Instruction.modesOf (rawAt memory pc) op.arity = .ok modes) :
    ∃ f, fetch memory pc = .ok (.known f) ∧ f.opcode = op := by
  have hplace := toNat_lt_size hop
  have harity := op.arity_le_maxArity
  unfold Memory.capacity at hsize
  unfold Opcode.maxArity at harity
  rw [fetch_of_nonneg memory hpc, Instruction.decode, hop]
  simp only [h, Except.map, complete, Instruction.arity, window_eq memory _ hpc]
  rw [if_pos (by omega)]
  exact ⟨_, rfl, rfl⟩

theorem rawAt_of_fetch_unknown {memory : Memory} {pc raw : Word}
    (h : fetch memory pc = .ok (.unknown raw)) :
    0 ≤ pc.toInt ∧ raw = rawAt memory pc ∧
      Opcode.ofClass? (Opcode.classOf raw) = none := by
  rcases Int.lt_or_le pc.toInt 0 with hneg | hpc
  · rw [fetch_of_neg memory hneg] at h
    cases h
  · rw [fetch_of_nonneg memory hpc] at h
    unfold Instruction.decode at h
    cases hop : Opcode.ofClass? (Opcode.classOf (rawAt memory pc)) with
    | none =>
        rw [hop] at h
        cases h
        exact ⟨hpc, rfl, hop⟩
    | some op =>
        simp only [hop] at h
        cases hmodes : Instruction.modesOf (rawAt memory pc) op.arity with
        | error e =>
            rw [hmodes] at h
            cases h
        | ok modes =>
            simp only [hmodes, Except.map] at h
            split at h <;> cases h

/-- **What is fetched is what is found in memory.** -/
theorem fetch_eq_known_iff {memory : Memory} {pc : Word} {f : Fetched} :
    fetch memory pc = .ok (.known f) ↔ f.FoundAt memory pc := by
  constructor
  · intro h
    rcases Int.lt_or_le pc.toInt 0 with hneg | hpc
    · rw [fetch_of_neg memory hneg] at h
      cases h
    · rw [fetch_of_nonneg memory hpc] at h
      cases hdecode : Instruction.decode (rawAt memory pc) with
      | error e =>
          rw [hdecode] at h
          cases h
      | ok decoded =>
          cases decoded with
          | none =>
              rw [hdecode] at h
              cases h
          | some i =>
              have hlength := Instruction.length_modes_of_decode hdecode
              simp only [hdecode, complete, window_eq memory _ hpc] at h
              by_cases hfits : i.arity = 0 ∨ pc.toInt + (1 : Nat) + i.arity ≤ 0x8000000000000000
              · rw [if_pos hfits] at h
                cases h
                refine ⟨rfl, hpc, rfl, ?_, hfits, ?_⟩
                · have hmodes : (List.zipWith Parameter.mk i.modes
                      ((List.range i.arity).map fun j =>
                        memory.cell (pc.toInt.toNat + 1 + j))).map (·.mode) = i.modes := by
                    apply List.ext_getElem <;> simp [hlength]
                  rw [hmodes]
                  exact hdecode
                · apply List.ext_getElem <;> simp [hlength, Instruction.arity]
              · rw [if_neg hfits] at h
                cases h
  · intro h
    obtain ⟨at_, raw, opcode, parameters⟩ := f
    obtain ⟨hat, hpc, hraw, hdecode, hfits, hvalues⟩ := h
    simp only at hat hraw hdecode hfits hvalues
    subst hat hraw
    have hpair : List.zipWith Parameter.mk (parameters.map (·.mode)) (parameters.map (·.value)) =
        parameters := by
      rw [List.zipWith_map, List.zipWith_self]
      exact List.map_id parameters
    have hwindow : window memory at_ (rawAt memory at_) 1 opcode.arity =
        .ok (parameters.map (·.value)) := by
      rw [window_eq memory _ hpc, hvalues]
      exact if_pos hfits
    rw [fetch_of_nonneg memory hpc, hdecode]
    simp only [complete, Instruction.arity, hwindow, Except.map, hpair]

/-- **What is fetched stands in memory.** -/
theorem inPlace_of_fetch {memory : Memory} {pc : Word} {f : Fetched}
    (h : fetch memory pc = .ok (.known f)) : f.InPlace memory pc := by
  obtain ⟨hat, hpc, hraw, hdecode, _, hvalues⟩ := fetch_eq_known_iff.mp h
  unfold Instruction.decode at hdecode
  cases hop : Opcode.ofClass? (Opcode.classOf f.raw) with
  | none =>
      rw [hop] at hdecode
      cases hdecode
  | some op =>
      simp only [hop] at hdecode
      cases hmodes : Instruction.modesOf f.raw op.arity with
      | error e =>
          rw [hmodes] at hdecode
          cases hdecode
      | ok modes =>
          rw [hmodes] at hdecode
          cases hdecode
          have hdigits := Mode.ofDigits_eq_ok_iff.mp hmodes
          rw [Nat.min_eq_left f.opcode.arity_le_maxArity, List.map_map] at hdigits
          exact ⟨hat, hpc, hraw, hop, hdigits, hvalues⟩

end Fetch

namespace Fetched

/-- The parameter in a place is the cell as far after the instruction, with the mode that the
digit in that place stands for. -/
theorem InPlace.parameter {f : Fetched} {memory : Memory} {pc : Word} (h : f.InPlace memory pc)
    {i : Nat} {p : Parameter} (hp : f.parameters[i]? = some p) :
    p.mode.digit = digitAt (Instruction.modeDigits f.raw) i ∧
      p.value = memory.cell (pc.toInt.toNat + 1 + i) := by
  have hmode := congrArg (·[i]?) h.modes_eq
  have hvalue := congrArg (·[i]?) h.values_eq
  simp only [List.getElem?_map, hp, Option.map_some] at hmode hvalue
  obtain ⟨place, hplace, hdigit⟩ := Option.map_eq_some_iff.mp hmode.symm
  obtain ⟨place', hplace', hcell⟩ := Option.map_eq_some_iff.mp hvalue.symm
  obtain ⟨_, rfl⟩ := List.getElem?_eq_some_iff.mp hplace
  obtain ⟨_, rfl⟩ := List.getElem?_eq_some_iff.mp hplace'
  rw [List.getElem_range] at hdigit hcell
  exact ⟨hdigit.symm, hcell.symm⟩

theorem InPlace.length_parameters {f : Fetched} {memory : Memory} {pc : Word}
    (h : f.InPlace memory pc) : f.parameters.length = f.opcode.arity := by
  simpa using congrArg List.length h.values_eq

/-- In a memory that can be held, the next instruction has an address. -/
theorem InPlace.exists_next {f : Fetched} {memory : Memory} {pc : Word}
    (h : f.InPlace memory pc) (hsize : memory.size < Memory.capacity) :
    ∃ next, Register.inc? pc f.width = some next := by
  have hop := h.opcode_eq
  have hpc := h.pc_nonneg
  rw [h.raw_eq] at hop
  have hplace := Fetch.toNat_lt_size hop
  have harity := f.opcode.arity_le_maxArity
  have hwidth := f.toInt_width
  unfold Memory.capacity at hsize
  unfold Opcode.maxArity at harity
  have hrange : Word.InRange (pc.toInt + f.width.toInt) := by
    unfold Word.InRange
    omega
  exact ⟨Int64.ofInt (pc.toInt + f.width.toInt), if_pos hrange⟩

end Fetched

end IntcodeMachine
