import IntcodeMachine.Instruction
import IntcodeMachine.Proofs.Guards

/-!
# Decoding with guards

A machine keeps the modes of an instruction in a fixed number of slots, as many as any operation
needs, and notes how many of them count.  Only these can be asked for.  So decoding has to fill
as many slots as the operation has parameters, and there have to be so many.

* `Slotted.readModes_eq`: the modes are read without misuse from every raw value, however many
  are asked for.
* `Slotted.decode_eq`: every raw value is decoded without misuse.
* `Slotted.Modes.get_ofList_eq_ok_iff`: as many modes can be asked for as count.
-/

namespace IntcodeMachine

/-- A row of fixed length, with a slot for each parameter of the largest operation. -/
abbrev Slots (α : Type) := Vector α Opcode.maxArity

namespace Slots

variable {α : Type}

/-- Slots that all hold the same. -/
def blank (fill : α) : Slots α := Vector.replicate Opcode.maxArity fill

/-- Slots with the first ones replaced, each by its value. -/
def overlay (row : Slots α) (values : List α) : Slots α :=
  Vector.ofFn fun i => values[i]?.getD row[i]

theorem length_toList (row : Slots α) : row.toList.length = Opcode.maxArity :=
  row.size_toArray

/-- As many slots can be taken as there are. -/
theorem front_blank (fill : α) {count : Nat} (h : count ≤ Opcode.maxArity) :
    Guard.front (blank fill).toList count = .ok (List.replicate count fill) := by
  have hlength := length_toList (blank fill)
  rw [Guard.front_eq_ok (by omega), blank, Vector.toList_replicate, List.take_replicate,
    Nat.min_eq_left h]

theorem getElem?_overlay (row : Slots α) {values : List α} {i : Nat}
    (hlength : values.length ≤ Opcode.maxArity) (h : i < values.length) :
    (row.overlay values).toList[i]? = values[i]? := by
  have hi : i < Opcode.maxArity := Nat.lt_of_lt_of_le h hlength
  simp [overlay, hi, h]

/-- What was put into slots is what comes first in them. -/
theorem take_overlay (row : Slots α) {values : List α}
    (h : values.length ≤ Opcode.maxArity) :
    (row.overlay values).toList.take values.length = values := by
  apply List.ext_getElem?
  intro i
  rw [List.getElem?_take]
  by_cases hi : i < values.length
  · rw [if_pos hi, getElem?_overlay row h hi]
  · rw [if_neg hi, List.getElem?_eq_none (Nat.not_lt.mp hi)]

end Slots

namespace Slotted

/-- The modes of an instruction in their slots. -/
structure Modes where
  row : Slots Mode
  /-- How many of them count. -/
  count : Nat
  deriving DecidableEq, Repr

/-- An instruction with its modes in slots. -/
structure Instruction where
  opcode : Opcode
  modes : Modes
  deriving DecidableEq, Repr

/-- The modes that count. -/
def Modes.shown (m : Modes) : Except Misuse (List Mode) := Guard.front m.row.toList m.count

/-- The mode of the parameter in a place. -/
def Modes.get (m : Modes) (place : Nat) : Except Misuse Mode := do
  Guard.element (← m.shown) place

/-- Reads modes into slots, one from each digit, lowest digit first. -/
def fill : List Mode → (digits : Nat) → Guarded InvalidMode (List Mode)
  | [], _ => return []
  | _ :: slots, digits => do
      let digit ← Guard.word (digits % 10 : Nat)
      let mode ← Guarded.of (Mode.ofDigit digit.toInt)
      let rest ← fill slots (digits / 10)
      return mode :: rest

/-- The class of a raw value and its first modes. -/
def readModes (raw : Word) (count : Nat) : Guarded InvalidMode (Word × Modes) := do
  let count := min count Opcode.maxArity
  let packed ← Guard.quotient raw 100
  let slots ← Guard.front (Slots.blank Mode.position).toList count
  let modes ← fill slots packed.toInt.natAbs
  let selector ← Guard.remainder raw 100
  return (selector, { row := (Slots.blank .position).overlay modes, count })

/-- The instruction in a raw value; none if its class selects no operation. -/
def decode (raw : Word) : Guarded InvalidMode (Option Instruction) := do
  let selector ← Guard.remainder raw 100
  match Opcode.ofClass? selector.toInt with
  | none => return none
  | some opcode => do
      let (_, modes) ← readModes raw opcode.arity
      return some { opcode, modes }

/-- Modes put into slots. -/
def Modes.ofList (modes : List Mode) : Modes :=
  { row := (Slots.blank .position).overlay modes, count := modes.length }

/-- Any word is divided by 100 without misuse. -/
theorem quotient_hundred (raw : Word) :
    Guard.quotient raw 100 = .ok (Int64.ofInt (raw.toInt / 100)) :=
  Guard.quotient_of_pos raw (by decide)

theorem remainder_hundred (raw : Word) :
    Guard.remainder raw 100 = .ok (Int64.ofInt (Opcode.classOf raw)) :=
  Guard.remainder_of_pos raw (by decide)

theorem toInt_classOf (raw : Word) :
    (Int64.ofInt (Opcode.classOf raw)).toInt = Opcode.classOf raw := by
  have hnonneg := Opcode.classOf_nonneg raw
  have hlt := Opcode.classOf_lt raw
  apply Word.toInt_ofInt_of_inRange
  unfold Word.InRange
  omega

theorem natAbs_quotient (raw : Word) :
    (Int64.ofInt (raw.toInt / 100)).toInt.natAbs = Instruction.modeDigits raw := by
  have hlow := Int64.le_toInt raw
  have hhigh := Int64.toInt_lt raw
  have hrange : Word.InRange (raw.toInt / 100) := by
    unfold Word.InRange
    omega
  rw [Word.toInt_ofInt_of_inRange hrange]
  rfl

/-- **Slots are filled without misuse**, each from a digit that is a word. -/
theorem fill_eq (slots : List Mode) (digits : Nat) :
    fill slots digits = Guarded.of (Mode.ofDigits slots.length digits) := by
  induction slots generalizing digits with
  | nil => rfl
  | cons slot slots ih =>
      have hrange : Word.InRange (digits % 10 : Nat) := by
        unfold Word.InRange
        omega
      rw [fill, Guard.word_eq_ok hrange, Guarded.lift_ok_bind,
        Word.toInt_ofInt_of_inRange hrange, List.length_cons, Mode.ofDigits]
      cases Mode.ofDigit (digits % 10 : Nat) with
      | error e => rfl
      | ok mode =>
          rw [Guarded.of_ok_bind, ih]
          exact (Guarded.of_map (mode :: ·) _).symm

/-- **Modes are read without misuse** from every raw value, however many are asked for. -/
theorem readModes_eq (raw : Word) (count : Nat) :
    readModes raw count =
      Guarded.of ((Instruction.modesOf raw count).map fun modes =>
        (Int64.ofInt (Opcode.classOf raw), Modes.ofList modes)) := by
  have hcount := Nat.min_le_right count Opcode.maxArity
  rw [readModes, quotient_hundred, Guarded.lift_ok_bind, Slots.front_blank _ hcount,
    Guarded.lift_ok_bind, fill_eq, List.length_replicate, natAbs_quotient, remainder_hundred]
  cases hmodes : Instruction.modesOf raw count with
  | error e =>
      rw [Instruction.modesOf] at hmodes
      rw [hmodes]
      rfl
  | ok modes =>
      have hlength := Instruction.length_modes_of_modesOf hmodes
      rw [Instruction.modesOf] at hmodes
      rw [hmodes, ← hlength]
      rfl

end Slotted

/-- An instruction with its modes put into slots. -/
def Instruction.slotted (i : Instruction) : Slotted.Instruction :=
  { opcode := i.opcode, modes := Slotted.Modes.ofList i.modes }

namespace Slotted

/-- **Every raw value is decoded without misuse.** -/
theorem decode_eq (raw : Word) :
    decode raw =
      Guarded.of ((Instruction.decode raw).map fun i =>
        i.map Instruction.slotted) := by
  rw [decode, remainder_hundred, Guarded.lift_ok_bind, toInt_classOf,
    Instruction.decode]
  cases Opcode.ofClass? (Opcode.classOf raw) with
  | none => rfl
  | some opcode =>
      simp only [readModes_eq]
      cases Instruction.modesOf raw opcode.arity with
      | error e => rfl
      | ok modes => rfl

namespace Modes

theorem shown_ofList {modes : List Mode} (h : modes.length ≤ Opcode.maxArity) :
    (ofList modes).shown = .ok modes := by
  have hcount : (ofList modes).count ≤ (ofList modes).row.toList.length := by
    rw [Slots.length_toList]
    exact h
  rw [shown, Guard.front_eq_ok hcount]
  exact congrArg Except.ok (Slots.take_overlay _ h)

theorem get_ofList {modes : List Mode} (h : modes.length ≤ Opcode.maxArity) (place : Nat) :
    (ofList modes).get place = Guard.element modes place := by
  rw [get, shown_ofList h]
  rfl

/-- **As many modes can be asked for as count.** -/
theorem get_ofList_eq_ok_iff {modes : List Mode} (h : modes.length ≤ Opcode.maxArity)
    (place : Nat) :
    (∃ mode, (ofList modes).get place = .ok mode) ↔ place < modes.length := by
  rw [get_ofList h]
  constructor
  · intro hmode
    obtain ⟨mode, hmode⟩ := hmode
    rcases Nat.lt_or_ge place modes.length with hlt | hle
    · exact hlt
    · rw [Guard.element_of_length_le hle] at hmode
      cases hmode
  · intro hlt
    exact ⟨modes[place], Guard.element_eq_ok (List.getElem?_eq_getElem hlt)⟩

end Modes

/-- **What is decoded has as many modes as its operation has parameters**, and no place for
another one. -/
theorem modes_of_decode {raw : Word} {i : Instruction}
    (h : decode raw = Guarded.of (.ok (some i))) :
    i.modes.count = i.opcode.arity ∧ i.opcode.arity ≤ Opcode.maxArity ∧
      ∀ place, (∃ mode, i.modes.get place = .ok mode) ↔ place < i.opcode.arity := by
  rw [decode_eq] at h
  cases hdecode : Instruction.decode raw with
  | error e =>
      rw [hdecode] at h
      cases h
  | ok found =>
      rw [hdecode] at h
      cases found with
      | none => cases h
      | some j =>
          cases h
          have hlength : j.modes.length = j.opcode.arity :=
            Instruction.length_modes_of_decode hdecode
          have hle := j.opcode.arity_le_maxArity
          refine ⟨hlength, hle, ?_⟩
          intro place
          have hplace := Modes.get_ofList_eq_ok_iff (hlength ▸ hle) place
          rw [hlength] at hplace
          exact hplace

end Slotted

end IntcodeMachine
