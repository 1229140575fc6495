import IntcodeMachine.Proofs.Courses
import IntcodeMachine.Proofs.Triples
import Mathlib

/-!
# Programs that check the machine

Some small programs make use of all operations and modes.  What each of them computes is proved for
every input, every operand that is not part of its layout, and every length.

A program of fixed length is followed from one place to the next, and the cells that it writes stand
in the program that memory then is.  While no step looks at the input the course is evaluated; where
one does, the course goes on by cases.  Code that is as long as the row of its values is followed by
induction on this row.

* `Machine.haltsWith_compareWithEight`, `Machine.haltsWith_equalToEight`,
  `Machine.haltsWith_jumpOnZero`: the answers of the programs that ask for one value.
* `Machine.leads_roundTrip`: a value is written by way of the relative base, and put out again.
* `Machine.leads_puttingOut`: a row of values is put out.
* `Machine.self_checks`: all of this, for runs from the start.
-/

namespace IntcodeMachine

namespace Program

/-- Compares the input with 8.  The result of a comparison is in cell 20 and the input in cell 21,
both of them between the code. -/
def comparing (result kept : Word) : Program :=
  [3, 21, 1008, 21, 8, 20, 1005, 20, 22, 107, 8, 21, 20, 1006, 20, 31, 1106, 0, 36, 98, result,
    kept, 1002, 21, 125, 20, 4, 20, 1105, 1, 46, 104, 999, 1105, 1, 46, 1101, 1000, 1, 20, 4, 20,
    1105, 1, 46, 98, 99]

/-- Puts out 999, 1000 or 1001 if the input is less than 8, equal to it, or greater. -/
def compareWithEight : Program := comparing 0 0

/-- Compares the input with 8, in the cell that the input is kept in. -/
def equating (kept : Word) : Program := [3, 9, 8, 9, 10, 9, 4, 9, 99, kept, 8]

/-- Puts out 1 if the input is equal to 8, and 0 otherwise. -/
def equalToEight : Program := equating (-1)

/-- Jumps over an addition if the input, in cell 12, is 0.  The sum is in cell 13. -/
def jumping (kept sum : Word) : Program :=
  [3, 12, 6, 12, 15, 1, 13, 14, 13, 4, 13, 99, kept, sum, 1, 9]

/-- Puts out 0 if the input is 0, and 1 otherwise. -/
def jumpOnZero : Program := jumping (-1) 0

/-- Moves the relative base there and back.  In between it writes the input at an offset from the
base, and in the end it puts out what stands at the sum of both. -/
def roundTrip (offset base : Word) : Program :=
  [109, base, 203, offset, 109, -base, 4, offset + base, 99]

/-- Puts out some values. -/
def puttingOut : List Word → Program
  | [] => [99]
  | value :: rest => 104 :: value :: puttingOut rest

end Program

namespace Word

/-- Of all words only the least one has no negative. -/
theorem toInt_neg_of_ne {a : Word} (h : a ≠ Int64.minValue) : (-a).toInt = -a.toInt := by
  have hlow := a.le_toInt
  have hhigh := a.toInt_lt
  have hmin : a.toInt ≠ Int64.minValue.toInt := mt Int64.toInt_inj.mp h
  rw [Int64.toInt_minValue] at hmin
  rw [Int64.toInt_neg]
  exact Int.bmod_eq_of_le (by omega) (by omega)

/-- A sum that is a word does not wrap around. -/
theorem toInt_add_of_inRange {a b : Word} (h : InRange (a.toInt + b.toInt)) :
    (a + b).toInt = a.toInt + b.toInt := by
  obtain ⟨hlow, hhigh⟩ := h
  rw [Int64.toInt_add]
  exact Int.bmod_eq_of_le (by omega) (by omega)

end Word

theorem Memory.read_put_self (m : Memory) {address : Word} {i : Nat} (value : Word)
    (h : address.toInt = i) : (m.put i value).read address = .ok value := by
  rw [read, index_eq_ok_iff.mpr h]
  exact congrArg Except.ok (m.cell_put_self i value)

/-- Values that are received one after another are kept in their order. -/
theorem Buffer.foldl_receive (values : List Word) (b : Buffer) :
    values.foldl receive b = { values := b.values ++ values.toArray } := by
  induction values generalizing b with
  | nil => simp
  | cons value rest ih =>
      rw [List.foldl_cons, ih, receive]
      simp

namespace Machine

open Program

/-- Run without a limit, the machine stops and has put out some values. -/
def HaltsWith (m : Machine Script) (output : List Word) : Prop :=
  ∃ k, m.Executes (.ok ()) k ∧ k.halted = true ∧ k.device.buffer.values.toList = output

/-- A machine that runs within a program. -/
def within (program : Program) (limit : Nat) (pc : Word) (output : List Word) :
    Machine Script :=
  { memory := { cells := program.toArray, limit }, pc,
    device := { buffer := { values := output.toArray } } }

theorem Leads.haltsWith {m : Machine Script} {n limit : Nat} {program : Program} {pc : Word}
    {output : List Word} (h : m.Leads n (within program limit pc output))
    (hhalts : Fetch.Halts { cells := program.toArray, limit } pc) : m.HaltsWith output :=
  ⟨_, h.executes rfl hhalts, rfl, rfl⟩

variable (limit : Nat) (x : Word)

section Comparing

/-- The courses of a comparison with 8, from one branch to the next.  None of their steps looks at
the input, but for the one that stores whether it is 8. -/
theorem leads_comparing :
    (ofProgram compareWithEight limit (.ofInput [x])).Leads 2
      (within (comparing (Word.ofBool (decide (x = 8))) x) limit 6 []) ∧
    (within (comparing 1 8) limit 6 []).Leads 4 (within (comparing 1000 8) limit 46 [1000]) ∧
    (within (comparing 0 x) limit 6 []).Leads 1 (within (comparing 0 x) limit 9 []) ∧
    (within (comparing 0 x) limit 13 []).Leads 3 (within (comparing 0 x) limit 46 [999]) ∧
    (within (comparing 1 x) limit 13 []).Leads 5 (within (comparing 1001 x) limit 46 [1001]) := by
  refine ⟨?input, ?equal, ?unequal, ?less, ?greater⟩ <;> cbv

/-- The input is compared with 8 once more, now by order. -/
theorem leads_ordered : (within (comparing 0 x) limit 9 []).Leads 1
    (within (comparing (Word.ofBool (decide (8 < x))) x) limit 13 []) := by
  have hstands : (within (comparing 0 x) limit 9 []).Stands
      ⟨9, 107, .lessThan, [⟨.immediate, 8⟩, ⟨.position, 21⟩, ⟨.position, 20⟩]⟩ 13 :=
    ⟨rfl, by cbv, by cbv⟩
  have hkept : (within (comparing 0 x) limit 9 []).memory.load 21 = .ok x := by cbv
  -- where the result is stored does not depend on it
  generalize hresult : Word.ofBool (decide (8 < x)) = result
  exact hstands.leads (.store rfl rfl rfl hkept rfl (congrArg some hresult)) (by cbv)

/-- **The three answers of a comparison with 8.** -/
theorem haltsWith_compareWithEight : (ofProgram compareWithEight limit (.ofInput [x])).HaltsWith
    [if x < 8 then 999 else if x = 8 then 1000 else 1001] := by
  obtain ⟨hcompared, hequal, hunequal, hless, hgreater⟩ := leads_comparing limit x
  have hstop : ∀ result, Fetch.Halts { cells := (comparing result x).toArray, limit } 46 :=
    fun result => ⟨by decide, by cbv⟩
  by_cases heq : x = 8
  · subst heq
    exact (hcompared.trans hequal).haltsWith (hstop 1000)
  · rw [decide_eq_false heq] at hcompared
    have hordered := (hcompared.trans hunequal).trans (leads_ordered limit x)
    rcases Int64.lt_or_lt_of_ne heq with hlt | hgt
    · rw [decide_eq_false (Int64.lt_asymm hlt)] at hordered
      rw [if_pos hlt]
      exact (hordered.trans hless).haltsWith (hstop 0)
    · rw [decide_eq_true hgt] at hordered
      rw [if_neg (Int64.lt_asymm hgt), if_neg heq]
      exact (hordered.trans hgreater).haltsWith (hstop 1001)

end Comparing

section Equating

theorem haltsWith_equalToEight : (ofProgram equalToEight limit (.ofInput [x])).HaltsWith
    [if x = 8 then 1 else 0] := by
  have hequated : (ofProgram equalToEight limit (.ofInput [x])).Leads 3
      (within (equating (Word.ofBool (decide (x = 8)))) limit 8
        [Word.ofBool (decide (x = 8))]) := by
    cbv
  have hhalts := hequated.haltsWith ⟨by decide, by cbv⟩
  simpa only [Word.ofBool, decide_eq_true_eq] using hhalts

end Equating

section Jumping

/-- The courses of the jump over an addition.  None of their steps looks at the input. -/
theorem leads_jumping :
    (ofProgram jumpOnZero limit (.ofInput [x])).Leads 1 (within (jumping x 0) limit 2 []) ∧
    (within (jumping 0 0) limit 2 []).Leads 2 (within (jumping 0 0) limit 11 [0]) ∧
    (within (jumping x 0) limit 5 []).Leads 2 (within (jumping x 1) limit 11 [1]) := by
  refine ⟨?input, ?zero, ?sum⟩ <;> cbv

/-- An input other than 0 is not jumped over. -/
theorem leads_passed (hne : x ≠ 0) : (within (jumping x 0) limit 2 []).Leads 1
    (within (jumping x 0) limit 5 []) := by
  have hstands : (within (jumping x 0) limit 2 []).Stands
      ⟨2, 6, .jumpIfFalse, [⟨.position, 12⟩, ⟨.position, 15⟩]⟩ 5 := ⟨rfl, by cbv, by cbv⟩
  have hkept : (within (jumping x 0) limit 2 []).memory.load 12 = .ok x := by cbv
  have htarget : (within (jumping x 0) limit 2 []).memory.load 15 = .ok 9 := by cbv
  have hbranches : ¬ Opcode.jumpIfFalse.branches x = true := by simpa [Opcode.branches] using hne
  exact hstands.leads (.jump rfl rfl hkept htarget (if_neg hbranches).symm) (by cbv)

theorem haltsWith_jumpOnZero : (ofProgram jumpOnZero limit (.ofInput [x])).HaltsWith
    [if x = 0 then 0 else 1] := by
  obtain ⟨hinput, hjumped, hadded⟩ := leads_jumping limit x
  have hstop : ∀ sum, Fetch.Halts { cells := (jumping x sum).toArray, limit } 11 :=
    fun sum => ⟨by decide, by cbv⟩
  by_cases hzero : x = 0
  · subst hzero
    exact (hinput.trans hjumped).haltsWith (hstop 0)
  · rw [if_neg hzero]
    exact ((hinput.trans (leads_passed limit x hzero)).trans hadded).haltsWith (hstop 1)

end Jumping

section SingleParameter

variable {m : Machine Script} {place : Nat} {raw p next : Word} {mode : Mode}

/-- An offset is added to the relative base. -/
theorem leads_rebase {offset moved : Word} (hrun : m.halted = false) (hpc : m.pc.toInt = place)
    (hcode : m.memory.Shows place [raw, p])
    (hdecode : Instruction.decode raw = .ok (some ⟨.relativeBaseOffset, [mode]⟩))
    (hnext : next.toInt = place + 2)
    (hoffset : Fetched.operand ⟨m.pc, raw, .relativeBaseOffset, [⟨mode, p⟩]⟩ m.memory m.base
      ⟨mode, p⟩ = .ok offset)
    (hmoved : moved.toInt = m.base.toInt + offset.toInt) :
    m.Leads 1 { m with pc := next, base := moved } := by
  have hstands := stands_of_shows hrun hpc hcode hdecode rfl hnext
  exact hstands.leads (.rebase rfl rfl hoffset (Word.add?_eq_some_iff.mpr hmoved))
    (advance_of_next hstands.next_eq)

/-- The input at the front is written. -/
theorem leads_input {address value : Word} {rest : List Word} {i : Nat} (hrun : m.halted = false)
    (hpc : m.pc.toInt = place) (hcode : m.memory.Shows place [raw, p])
    (hdecode : Instruction.decode raw = .ok (some ⟨.input, [mode]⟩))
    (hnext : next.toInt = place + 2)
    (haddress : Fetched.destination ⟨m.pc, raw, .input, [⟨mode, p⟩]⟩ m.base ⟨mode, p⟩ =
      .ok address)
    (hslot : m.memory.slot address = .ok i) (hinput : m.device.feed.pending = value :: rest) :
    m.Leads 1 { m.dropInput with memory := m.memory.put i value, pc := next } := by
  have hstands := stands_of_shows hrun hpc hcode hdecode rfl hnext
  have hstore : m.dropInput.store _ address value = _ :=
    store_of_slot value hslot hstands.next_eq
  exact hstands.leads (.deliver rfl rfl haddress) ((deliver_of_cons _ address hinput).trans hstore)

/-- A value is put out. -/
theorem leads_output {value : Word} (hrun : m.halted = false) (hpc : m.pc.toInt = place)
    (hcode : m.memory.Shows place [raw, p])
    (hdecode : Instruction.decode raw = .ok (some ⟨.output, [mode]⟩))
    (hnext : next.toInt = place + 2)
    (hvalue : Fetched.operand ⟨m.pc, raw, .output, [⟨mode, p⟩]⟩ m.memory m.base ⟨mode, p⟩ =
      .ok value) :
    m.Leads 1 { m with
      pc := next, device := { m.device with buffer := m.device.buffer.receive value } } := by
  have hstands := stands_of_shows hrun hpc hcode hdecode rfl hnext
  exact hstands.leads (.receive rfl rfl hvalue)
    ((m.receive_script _ value).trans (advance_of_next hstands.next_eq))

end SingleParameter

section RoundTrip

variable {limit} {offset base : Word} (value : Word) {place : Nat}

/-- **A value goes behind the program and comes back.**  It is written by way of the relative base,
which is 0 again when it is read. -/
theorem leads_roundTrip (hbase : base ≠ Int64.minValue)
    (hplace : (offset + base).toInt = place) (hsum : offset.toInt + base.toInt = place)
    (hbehind : (roundTrip offset base).length ≤ place) (hroom : place < limit) :
    let memory : Memory := { cells := (roundTrip offset base).toArray, limit }
    (memory.put place value).Shows 8 [99] ∧
      (ofProgram (roundTrip offset base) limit (Script.ofInput [value])).Leads 4
        { memory := memory.put place value, pc := 8,
          device := { buffer := { values := #[value] } : Script } } := by
  intro memory
  have hcode : memory.Shows 0 (roundTrip offset base) := Memory.shows_program _ _
  have hwritten : (memory.put place value).Shows 0 (roundTrip offset base) :=
    hcode.put (by omega) value
  obtain ⟨hc0, hc1, hc2, hc3, -⟩ := hcode
  obtain ⟨-, -, -, -, hw4, hw5, hw6, hw7, hw8, -⟩ := hwritten
  have hthere : (ofProgram (roundTrip offset base) limit (Script.ofInput [value])).Leads 1
      { memory, pc := 2, base, device := Script.ofInput [value] } := by
    have hcode : memory.Shows 0 [109, base] := ⟨hc0, hc1, trivial⟩
    exact leads_rebase rfl rfl hcode rfl rfl rfl (Int.zero_add _).symm
  have hinput : Leads { memory, pc := 2, base, device := Script.ofInput [value] } 1
      { memory := memory.put place value, pc := 4, base, device := ({} : Script) } := by
    have hcode : memory.Shows 2 [203, offset] := ⟨hc2, hc3, trivial⟩
    have hslot : memory.slot (offset + base) = .ok place :=
      Memory.slot_eq_ok_iff.mpr ⟨hplace, .inr hroom⟩
    have haddress : Word.add? offset base = some (offset + base) :=
      Word.add?_eq_some_iff.mpr (hplace.trans hsum.symm)
    exact leads_input rfl rfl hcode rfl rfl (Fetched.exact_eq_ok_iff.mpr haddress) hslot rfl
  have hback : Leads
      { memory := memory.put place value, pc := 4, base, device := ({} : Script) } 1
      { memory := memory.put place value, pc := 6, device := ({} : Script) } := by
    have hcode : (memory.put place value).Shows 4 [109, -base] := ⟨hw4, hw5, trivial⟩
    refine leads_rebase rfl rfl hcode rfl rfl rfl ?_
    rw [Word.toInt_neg_of_ne hbase]
    exact (Int.add_right_neg _).symm
  have houtput : Leads
      { memory := memory.put place value, pc := 6, device := ({} : Script) } 1
      { memory := memory.put place value, pc := 8,
        device := { buffer := { values := #[value] } : Script } } := by
    have hcode : (memory.put place value).Shows 6 [4, offset + base] := ⟨hw6, hw7, trivial⟩
    have hload : (memory.put place value).load (offset + base) = .ok value := by
      rw [Memory.load, Memory.read_put_self memory value hplace]
    exact leads_output rfl rfl hcode rfl rfl hload
  exact ⟨⟨hw8, trivial⟩, ((hthere.trans hinput).trans hback).trans houtput⟩

theorem executes_roundTrip (hbase : base ≠ Int64.minValue)
    (hrange : Word.InRange (offset.toInt + base.toInt))
    (hbehind : (roundTrip offset base).length ≤ offset.toInt + base.toInt)
    (hroom : offset.toInt + base.toInt < limit) :
    ∃ k, (ofProgram (roundTrip offset base) limit (Script.ofInput [value])).Executes (.ok ()) k ∧
      k.halted = true ∧ k.memory.read (offset + base) = .ok value ∧ k.base = 0 ∧
      k.device.buffer.values.toList = [value] := by
  obtain ⟨place, hplace⟩ : ∃ place : Nat, offset.toInt + base.toInt = place :=
    Int.eq_ofNat_of_zero_le (by omega)
  have hread := (Word.toInt_add_of_inRange hrange).trans hplace
  rw [hplace] at hbehind hroom
  obtain ⟨hstop, hleads⟩ := leads_roundTrip value hbase hread hplace
    (Int.ofNat_le.mp hbehind) (Int.ofNat_lt.mp hroom)
  have hhalts := hleads.executes rfl (halts_of_shows rfl hstop (by decide))
  exact ⟨_, hhalts, rfl, Memory.read_put_self _ value hread, rfl, rfl⟩

end RoundTrip

section PuttingOut

/-- **A row of values is put out**, one value at each step, and the instruction to stop comes next.
The induction is on the row, as the code is. -/
theorem leads_puttingOut (values : List Word) {m : Machine Script} {place : Nat}
    (hrun : m.halted = false) (hpc : m.pc.toInt = place)
    (hcode : m.memory.Shows place (puttingOut values))
    (hroom : place + 2 * values.length < 0x8000000000000000) :
    ∃ last : Word, last.toInt = place + 2 * values.length ∧
      m.memory.Shows (place + 2 * values.length) [99] ∧
      m.Leads values.length { m with
        pc := last
        device := { m.device with buffer := values.foldl Buffer.receive m.device.buffer } } := by
  induction values generalizing m place with
  | nil => exact ⟨m.pc, hpc, hcode, rfl⟩
  | cons value rest ih =>
      rw [List.length_cons] at hroom ⊢
      obtain ⟨hraw, hvalue, hrest⟩ := hcode
      have hfirst : m.memory.Shows place [104, value] := ⟨hraw, hvalue, trivial⟩
      have hnext : (Int64.ofInt (place + 2)).toInt = (place + 2 : Nat) :=
        Word.toInt_ofInt_of_inRange ⟨by omega, by omega⟩
      have hleads := leads_output hrun hpc hfirst rfl hnext rfl
      obtain ⟨last, hlast, hstop, hlater⟩ := ih (m := { m with
          pc := Int64.ofInt (place + 2)
          device := { m.device with buffer := m.device.buffer.receive value } })
        hrun hnext hrest (by omega)
      refine ⟨last, by omega, ?_, ?_⟩
      · rwa [Nat.mul_succ, Nat.add_left_comm, Nat.add_comm]
      · rw [Nat.add_comm]
        exact hleads.trans hlater

/-- The program that puts values out stops behind the last one. -/
theorem after_puttingOut (limit : Nat) (values input : List Word)
    (hroom : 2 * values.length < 0x8000000000000000) :
    let m := ofProgram (puttingOut values) limit (Script.ofInput input)
    let last := m.after (values.length + 1)
    (∀ j, j < values.length → m.outcomeAt j = .ok false) ∧
      m.outcomeAt values.length = .ok true ∧ m.Executes (.ok ()) last ∧ last.halted = true ∧
      last.memory = m.memory ∧ last.device.buffer = { values := values.toArray } := by
  intro m last
  have hcode : m.memory.Shows 0 (puttingOut values) := Memory.shows_program _ limit
  have hstart : m.pc.toInt = (0 : Nat) := rfl
  obtain ⟨pc, hpc, hstop, hleads⟩ := leads_puttingOut values rfl hstart hcode (by omega)
  have hhalts : Fetch.Halts m.memory pc := halts_of_shows (by omega) hstop (by decide)
  obtain ⟨hlast, hafter⟩ := hleads.stops rfl hhalts
  have hexecutes := hleads.executes rfl hhalts
  rw [← hafter] at hexecutes
  refine ⟨fun j hj => hleads.outcomeAt hj, hlast, hexecutes, ?_⟩
  rw [show last = _ from hafter]
  refine ⟨rfl, rfl, (Buffer.foldl_receive values {}).trans ?_⟩
  rw [Array.empty_append]

end PuttingOut

/-- **The programs that check the machine compute what they should**, not only for the inputs that
are tried.  A comparison with 8, by order or by equality, and one with 0 give their answers for
every input.  A value comes back from every address behind the program up to the limit, whatever
offset and base this is the sum of.  A row of values is put out one at each step, with memory left
as it is, and can then be taken away in triples; it may be of any length for which all cells of the
program have addresses, and no memory holds more. -/
theorem self_checks (limit : Nat) :
    (∀ x : Word,
      (ofProgram compareWithEight limit (.ofInput [x])).HaltsWith
        [if x < 8 then 999 else if x = 8 then 1000 else 1001] ∧
      (ofProgram equalToEight limit (.ofInput [x])).HaltsWith [if x = 8 then 1 else 0] ∧
      (ofProgram jumpOnZero limit (.ofInput [x])).HaltsWith [if x = 0 then 0 else 1]) ∧
    (∀ offset base value : Word, base ≠ Int64.minValue →
      Word.InRange (offset.toInt + base.toInt) → 9 ≤ offset.toInt + base.toInt →
      offset.toInt + base.toInt < limit →
      ∃ k, (ofProgram (roundTrip offset base) limit (Script.ofInput [value])).Executes (.ok ()) k ∧
        k.halted = true ∧ k.memory.read (offset + base) = .ok value ∧ k.base = 0 ∧
        k.device.buffer.values.toList = [value]) ∧
    ∀ values input : List Word, 2 * values.length < 0x8000000000000000 →
      let m := ofProgram (puttingOut values) limit (Script.ofInput input)
      let last := m.after (values.length + 1)
      (∀ j, j < values.length → m.outcomeAt j = .ok false) ∧
      m.outcomeAt values.length = .ok true ∧ m.Executes (.ok ()) last ∧ last.halted = true ∧
      last.memory = m.memory ∧ last.device.buffer.values.toList = values ∧
      ∀ count,
        let served := last.device.buffer.serve (List.replicate count .takeTriple)
        served.1 = (List.range count).map (fun place => (Buffer.triplesOf values)[place]?) ∧
        (values.length / 3 ≤ count →
          served.2.values.toList = values.drop (values.length - values.length % 3)) := by
  refine ⟨?_, ?_, ?_⟩
  · intro x
    exact ⟨haltsWith_compareWithEight limit x, haltsWith_equalToEight limit x,
      haltsWith_jumpOnZero limit x⟩
  · intro offset base value hbase hrange hbehind hroom
    exact executes_roundTrip value hbase hrange hbehind hroom
  · intro values input hroom m last
    obtain ⟨hgoes, hstops, hexecutes, hhalted, hmemory, hbuffer⟩ :=
      after_puttingOut limit values input hroom
    refine ⟨hgoes, hstops, hexecutes, hhalted, hmemory, ?_, fun count => ?_⟩
    · rw [hbuffer]
    · rw [hbuffer]
      obtain ⟨htriples, hleft⟩ := Buffer.serve_takeTriple values count
      refine ⟨htriples, fun hcount => hleft.trans ?_⟩
      have hall : 3 * min count (values.length / 3) = values.length - values.length % 3 := by
        omega
      rw [hall]

/-- The base of a round trip may be negative. -/
theorem self_checks_negative_base :
    (∃ k, (ofProgram [109, -50, 203, 100, 109, 50, 4, 50, 99] 64 (Script.ofInput [7])).Executes
      (.ok ()) k ∧ k.memory.read 50 = .ok 7) ∧
    (ofProgram [104, 1, 104, 2, 104, 3, 104, -1, 99] 0 (Script.ofInput [])).outcomeAt 4 =
      .ok true := by
  obtain ⟨_, htrip, _⟩ := self_checks 64
  obtain ⟨k, hexecutes, _, hread, _⟩ :=
    htrip 100 (-50) 7 (by decide) (by decide) (by decide) (by decide)
  refine ⟨⟨k, hexecutes, hread⟩, ?_⟩
  exact ((self_checks 0).2.2 [1, 2, 3, -1] [] (by decide)).2.1

end Machine

end IntcodeMachine
