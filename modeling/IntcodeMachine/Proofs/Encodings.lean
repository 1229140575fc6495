import IntcodeMachine.Numeral
import IntcodeMachine.Proofs.Decoding
import Mathlib.Data.Nat.Digits.Defs

/-!
# Packing instructions into words

An instruction is packed into a number by its class and, in the decimal places above it, the
digits of its modes.  More digits may stand above these, and the digits may count downwards as
well as upwards from the class.  Decoding undoes exactly this.

Going down is not the same as taking the negative: the quotient by 100 is rounded down, so the
digits are those of a distance from the class, the same distance on either side of it.

* `Mode.ofDigits_eq_ok_iff_packed`: modes are read from the numbers that they are packed into.
* `Instruction.decode_eq_some_iff`: an instruction is decoded from the words that it is packed
  into.
* `Instruction.decode_congr`: the class and the digits of the modes determine what is decoded.
* `Instruction.decode_inverts_encode`: all that decoding may come to.
-/

namespace IntcodeMachine

theorem digitAt_lt_ten (number place : Nat) : digitAt number place < 10 :=
  Nat.mod_lt _ (by decide)

/-- An integer has a sign, and its magnitude is the number with this sign. -/
theorem Sign.exists_apply_iff {n : Int} {magnitude : Nat} :
    (∃ sign : Sign, n = sign.apply magnitude) ↔ n.natAbs = magnitude := by
  rw [Int.natAbs_eq_iff]
  constructor
  · rintro ⟨sign, h⟩
    cases sign with
    | plus => exact Or.inl h
    | minus => exact Or.inr h
  · rintro (h | h)
    · exact ⟨.plus, h⟩
    · exact ⟨.minus, h⟩

namespace Mode

/-- The number whose lowest decimal digits are those of some modes, lowest first, with another
number in the places above. -/
def packed (modes : List Mode) (above : Nat) : Nat :=
  Nat.ofDigits 10 (modes.map digit) + 10 ^ modes.length * above

theorem packed_nil (above : Nat) : packed [] above = above := by
  simp [packed]

theorem packed_cons (mode : Mode) (modes : List Mode) (above : Nat) :
    packed (mode :: modes) above = mode.digit + 10 * packed modes above := by
  rw [packed, packed, List.map_cons, List.length_cons, Nat.ofDigits_cons, Nat.pow_succ',
    Nat.mul_add, Nat.mul_assoc, Nat.add_assoc]

/-- **Modes are read from the numbers that they are packed into**, whatever stands above them. -/
theorem ofDigits_eq_ok_iff_packed {count number : Nat} {modes : List Mode} :
    ofDigits count number = .ok modes ↔
      modes.length = count ∧ ∃ above, number = packed modes above := by
  rw [ofDigits_eq_ok_iff]
  induction modes generalizing count number with
  | nil =>
      simp only [packed_nil, exists_eq', and_true]
      constructor
      · intro h
        simpa using congrArg List.length h
      · rintro rfl
        rfl
  | cons mode modes ih =>
      cases count with
      | zero => simp
      | succ count =>
          have hle := mode.digit_le_two
          rw [map_digitAt_range_succ, List.map_cons, List.cons.injEq, ih, List.length_cons]
          simp only [packed_cons]
          constructor
          · rintro ⟨hfirst, hlength, above, habove⟩
            exact ⟨by omega, above, by omega⟩
          · rintro ⟨hlength, above, habove⟩
            exact ⟨by omega, by omega, above, by omega⟩

/-- Numbers with the same lowest digits hold the same modes in them. -/
theorem ofDigits_congr {count number other : Nat}
    (h : ∀ place, place < count → digitAt other place = digitAt number place) :
    ofDigits count other = ofDigits count number := by
  induction count generalizing number other with
  | zero => rfl
  | succ count ih =>
      have hfirst := h 0 (Nat.succ_pos count)
      rw [digitAt_zero, digitAt_zero] at hfirst
      have hrest : ofDigits count (other / 10) = ofDigits count (number / 10) := by
        apply ih
        intro place hplace
        rw [← digitAt_succ, ← digitAt_succ]
        exact h (place + 1) (Nat.succ_lt_succ hplace)
      rw [ofDigits, ofDigits, hfirst, hrest]

end Mode

namespace Opcode

theorem classNumber_nonneg (op : Opcode) : 0 ≤ op.classNumber := by
  cases op <;> decide

theorem classNumber_lt (op : Opcode) : op.classNumber < 100 := by
  cases op <;> decide

theorem ofClass?_eq_none_iff {c : Int} :
    ofClass? c = none ↔ ∀ op : Opcode, c ≠ op.classNumber := by
  rw [Option.eq_none_iff_forall_ne_some]
  simp only [ne_eq, ofClass?_eq_some_iff]

end Opcode

namespace Instruction

/-- The number that an instruction is packed into, given on which side of its class the digits
count and what stands above those of its modes. -/
def encode (i : Instruction) (sign : Sign) (above : Nat) : Int :=
  i.opcode.classNumber + 100 * sign.apply (Mode.packed i.modes above)

variable {raw : Word} {op : Opcode}

theorem decode_of_class (h : raw.toInt % 100 = op.classNumber) :
    decode raw = (modesOf raw op.arity).map fun modes => some { opcode := op, modes } := by
  have hop : Opcode.ofClass? (Opcode.classOf raw) = some op := Opcode.ofClass?_eq_some_iff.mpr h
  rw [decode, hop]

theorem decode_of_no_class (h : ∀ op : Opcode, raw.toInt % 100 ≠ op.classNumber) :
    decode raw = .ok none := by
  have hnone : Opcode.ofClass? (Opcode.classOf raw) = none := Opcode.ofClass?_eq_none_iff.mpr h
  rw [decode, hnone]

/-- What a raw value may be decoded to, by its class and its modes. -/
inductive Decodes (raw : Word) : Except InvalidMode (Option Instruction) → Prop where
  | none (hclass : ∀ op : Opcode, raw.toInt % 100 ≠ op.classNumber) : Decodes raw (.ok none)
  | some {op : Opcode} {modes : List Mode} (hclass : raw.toInt % 100 = op.classNumber)
      (hmodes : modesOf raw op.arity = .ok modes) :
      Decodes raw (.ok (some { opcode := op, modes }))
  | error {op : Opcode} {e : InvalidMode} (hclass : raw.toInt % 100 = op.classNumber)
      (hmodes : modesOf raw op.arity = .error e) : Decodes raw (.error e)

theorem decodes_decode (raw : Word) : Decodes raw (decode raw) := by
  by_cases hclass : ∃ op : Opcode, raw.toInt % 100 = op.classNumber
  · obtain ⟨op, hop⟩ := hclass
    rw [decode_of_class hop]
    cases hmodes : modesOf raw op.arity with
    | error e => exact .error hop hmodes
    | ok modes => exact .some hop hmodes
  · have hnone : ∀ op : Opcode, raw.toInt % 100 ≠ op.classNumber :=
      fun op hop => hclass ⟨op, hop⟩
    rw [decode_of_no_class hnone]
    exact .none hnone

/-- An instruction has the operation of the class, and the modes that are read for it. -/
theorem decode_eq_some_iff {i : Instruction} :
    decode raw = .ok (some i) ↔
      raw.toInt % 100 = i.opcode.classNumber ∧ modesOf raw i.arity = .ok i.modes := by
  constructor
  · intro h
    have hdecodes := decodes_decode raw
    rw [h] at hdecodes
    cases hdecodes with
    | some hclass hmodes => exact ⟨hclass, hmodes⟩
  · rintro ⟨hclass, hmodes⟩
    rw [arity] at hmodes
    rw [decode_of_class hclass, hmodes]
    rfl

/-- Nothing is decoded just if no operation has the class. -/
theorem decode_eq_none_iff :
    decode raw = .ok none ↔ ∀ op : Opcode, raw.toInt % 100 ≠ op.classNumber := by
  constructor
  · intro h
    have hdecodes := decodes_decode raw
    rw [h] at hdecodes
    cases hdecodes with
    | none hclass => exact hclass
  · exact decode_of_no_class

/-- Decoding fails just if the modes cannot be read for the operation of the class. -/
theorem decode_eq_error_iff {e : InvalidMode} :
    decode raw = .error e ↔
      ∃ op : Opcode, raw.toInt % 100 = op.classNumber ∧ modesOf raw op.arity = .error e := by
  constructor
  · intro h
    have hdecodes := decodes_decode raw
    rw [h] at hdecodes
    cases hdecodes with
    | error hclass hmodes => exact ⟨_, hclass, hmodes⟩
  · rintro ⟨op, hclass, hmodes⟩
    rw [decode_of_class hclass, hmodes]
    rfl

/-- **An instruction is decoded from the words that it is packed into**, and from no others. -/
theorem decode_eq_some_iff_encode {i : Instruction} :
    decode raw = .ok (some i) ↔
      i.modes.length = i.arity ∧ ∃ sign above, raw.toInt = i.encode sign above := by
  have hnonneg := i.opcode.classNumber_nonneg
  have hlt := i.opcode.classNumber_lt
  have harity : min i.arity Opcode.maxArity = i.arity :=
    Nat.min_eq_left i.opcode.arity_le_maxArity
  rw [decode_eq_some_iff, modesOf, harity, Mode.ofDigits_eq_ok_iff_packed]
  constructor
  · rintro ⟨hclass, hlength, above, hdigits⟩
    obtain ⟨sign, hsign⟩ := Sign.exists_apply_iff.mpr hdigits
    refine ⟨hlength, sign, above, ?_⟩
    rw [encode]
    omega
  · rintro ⟨hlength, sign, above, hraw⟩
    rw [encode] at hraw
    refine ⟨by omega, hlength, above, ?_⟩
    refine Sign.exists_apply_iff.mp ⟨sign, ?_⟩
    omega

/-- The digit that decoding fails at is the lowest of those asked for that stands for no mode. -/
theorem modesOf_eq_error_iff {e : InvalidMode} :
    modesOf raw op.arity = .error e ↔
      ∃ place, place < op.arity ∧ e.digit = digitAt (raw.toInt / 100).natAbs place ∧
        3 ≤ e.digit ∧ e.digit ≤ 9 ∧
          ∀ lower, lower < place → digitAt (raw.toInt / 100).natAbs lower ≤ 2 := by
  rw [modesOf, Nat.min_eq_left op.arity_le_maxArity, Mode.ofDigits_eq_error_iff]
  constructor
  · rintro ⟨place, hplace, hbad, hlower, rfl⟩
    have hten := digitAt_lt_ten (modeDigits raw) place
    exact ⟨place, hplace, rfl, by simp only; omega, by simp only; omega, hlower⟩
  · rintro ⟨place, hplace, hdigit, hbad, _, hlower⟩
    obtain ⟨digit⟩ := e
    simp only at hdigit hbad
    refine ⟨place, hplace, ?_, hlower, congrArg InvalidMode.mk hdigit⟩
    change 2 < digitAt (raw.toInt / 100).natAbs place
    omega

/-- **The class and the digits of the modes determine what is decoded.** -/
theorem decode_congr {other : Word} (hclass : other.toInt % 100 = raw.toInt % 100)
    (hdigits : ∀ op : Opcode, raw.toInt % 100 = op.classNumber → ∀ place, place < op.arity →
      digitAt (other.toInt / 100).natAbs place = digitAt (raw.toInt / 100).natAbs place) :
    decode other = decode raw := by
  have hmodes : ∀ op : Opcode, raw.toInt % 100 = op.classNumber →
      modesOf other op.arity = modesOf raw op.arity := by
    intro op hop
    refine Mode.ofDigits_congr fun place hplace => ?_
    exact hdigits op hop place (Nat.lt_of_lt_of_le hplace (Nat.min_le_left _ _))
  cases hraw : decode raw with
  | error e =>
      obtain ⟨op, hop, herror⟩ := decode_eq_error_iff.mp hraw
      exact decode_eq_error_iff.mpr ⟨op, hclass.trans hop, (hmodes op hop).trans herror⟩
  | ok decoded =>
      cases decoded with
      | none => exact decode_eq_none_iff.mpr fun op => hclass ▸ decode_eq_none_iff.mp hraw op
      | some i =>
          obtain ⟨hop, hread⟩ := decode_eq_some_iff.mp hraw
          exact decode_eq_some_iff.mpr ⟨hclass.trans hop, (hmodes i.opcode hop).trans hread⟩

/-- **Decoding undoes packing**, for every word.  An instruction is what is decoded exactly from the
words that it is packed into, on either side of its class and with any digits above those of its
modes.  Nothing is decoded exactly if no operation has the class, and decoding fails exactly at the
lowest digit asked for that stands for no mode.  So the digits above make no difference, the
operation that stops is always decoded, and the two sides of a class are decoded alike. -/
theorem decode_inverts_encode (raw : Word) :
    (∀ i : Instruction, decode raw = .ok (some i) ↔
      i.modes.length = i.arity ∧ ∃ sign above, raw.toInt = i.encode sign above) ∧
    (decode raw = .ok none ↔ ∀ op : Opcode, raw.toInt % 100 ≠ op.classNumber) ∧
    (∀ e : InvalidMode, decode raw = .error e ↔
      ∃ op : Opcode, raw.toInt % 100 = op.classNumber ∧
        ∃ place, place < op.arity ∧ e.digit = digitAt (raw.toInt / 100).natAbs place ∧
          3 ≤ e.digit ∧ e.digit ≤ 9 ∧
            ∀ lower, lower < place → digitAt (raw.toInt / 100).natAbs lower ≤ 2) ∧
    (∀ other : Word, other.toInt % 100 = raw.toInt % 100 →
      (∀ op : Opcode, raw.toInt % 100 = op.classNumber → ∀ place, place < op.arity →
        digitAt (other.toInt / 100).natAbs place = digitAt (raw.toInt / 100).natAbs place) →
      decode other = decode raw) ∧
    (raw.toInt % 100 = 99 → decode raw = .ok (some ⟨.halt, []⟩)) ∧
    (∀ (other : Word) (c q : Int), 0 ≤ c → c < 100 → raw.toInt = c + 100 * q →
      other.toInt = c - 100 * q → decode other = decode raw) := by
  refine ⟨fun i => decode_eq_some_iff_encode, decode_eq_none_iff, ?_, ?_, ?_, ?_⟩
  · intro e
    rw [decode_eq_error_iff]
    simp only [modesOf_eq_error_iff]
  · intro other hclass hdigits
    exact decode_congr hclass hdigits
  · intro hhalt
    exact decode_eq_some_iff.mpr ⟨hhalt, rfl⟩
  · intro other c q hnonneg hlt hraw hother
    apply decode_congr
    · omega
    · intro op _ place _
      -- the quotients are q and its negative
      have hsame : (other.toInt / 100).natAbs = (raw.toInt / 100).natAbs := by omega
      rw [hsame]

/-- The two words lie twelve hundred below and above the class 1, and their digits are 2 and 1. -/
theorem decode_inverts_encode_negative :
    decode (-1199) = decode 1201 ∧
      decode (-1199) = .ok (some ⟨.add, [.relative, .immediate, .position]⟩) := by
  obtain ⟨_, _, _, _, _, hsides⟩ := decode_inverts_encode 1201
  obtain ⟨hsome, _⟩ := decode_inverts_encode (-1199)
  refine ⟨hsides (-1199) 1 12 (by decide) (by decide) (by decide) (by decide), ?_⟩
  exact (hsome _).mpr ⟨rfl, .minus, 0, by decide⟩

end Instruction

end IntcodeMachine
