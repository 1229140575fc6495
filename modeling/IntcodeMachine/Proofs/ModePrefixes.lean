import IntcodeMachine.Proofs.Encodings
import IntcodeMachine.Proofs.FaultKinds

/-!
# However many modes are read

Modes are read from the lowest digit up, and reading stops at the first digit that stands for no
mode.  So to read more modes is to read fewer of them and then to go on: what has been read stays at
the front, and a digit that has been refused is refused again.  Decoding reads as many modes as the
operation has parameters, so it succeeds wherever the modes of the largest operation can be read.

* `Mode.ofDigits_add`: modes are read in two goes.
* `Mode.ofDigits_take`, `Mode.ofDigits_error_of_le`: what fewer digits come to.
* `Machine.step_ne_invalidMode`: no digit is refused in a raw value that can be decoded.
* `Instruction.decodeModes_coherent`: how the modes that are read for one number of parameters
  agree with those for another one, and with what is decoded.
-/

namespace IntcodeMachine

namespace Mode

variable {fewer more number : Nat}

/-- **Modes are read in two goes**: those of the lowest digits, and then those of the digits
above. -/
theorem ofDigits_add (low high number : Nat) :
    ofDigits (low + high) number =
      ofDigits low number >>= fun modes =>
        (ofDigits high (number / 10 ^ low)).map (modes ++ ·) := by
  induction low generalizing number with
  | zero =>
      rw [Nat.zero_add, Nat.pow_zero, Nat.div_one]
      change _ = (ofDigits high number).map fun modes => modes
      cases ofDigits high number <;> rfl
  | succ low ih =>
      have habove : number / 10 / 10 ^ low = number / 10 ^ (low + 1) := by
        rw [Nat.div_div_eq_div_mul, Nat.pow_succ']
      rw [Nat.succ_add, ofDigits, ofDigits]
      cases ofDigit (number % 10 : Nat) with
      | error e => rfl
      | ok mode =>
          simp only [ih, habove]
          cases ofDigits low (number / 10) with
          | error e => rfl
          | ok modes => cases ofDigits high (number / 10 ^ (low + 1)) <;> rfl

/-- Of fewer digits come the first of the modes. -/
theorem ofDigits_take {modes : List Mode} (hle : fewer ≤ more)
    (h : ofDigits more number = .ok modes) : ofDigits fewer number = .ok (modes.take fewer) := by
  obtain ⟨above, rfl⟩ := Nat.exists_eq_add_of_le hle
  rw [ofDigits_add] at h
  cases hfront : ofDigits fewer number with
  | error e =>
      rw [hfront] at h
      cases h
  | ok front =>
      have hlength := Instruction.length_modes_of_ofDigits hfront
      rw [hfront] at h
      cases hrest : ofDigits above (number / 10 ^ fewer) with
      | error e =>
          rw [hrest] at h
          cases h
      | ok rest =>
          rw [hrest] at h
          cases h
          rw [List.take_left' hlength]

/-- A digit that is refused is refused among more digits. -/
theorem ofDigits_error_of_le {e : InvalidMode} (hle : fewer ≤ more)
    (h : ofDigits fewer number = .error e) : ofDigits more number = .error e := by
  obtain ⟨above, rfl⟩ := Nat.exists_eq_add_of_le hle
  rw [ofDigits_add, h]
  rfl

end Mode

/-- **No digit is refused in a raw value that can be decoded**, in whatever state a machine is that
stands at it. -/
theorem Machine.step_ne_invalidMode {δ : Type} [Device δ] {m : Machine δ}
    (h : ∀ e, Instruction.decode (Fetch.rawAt m.memory m.pc) ≠ .error e) (pc raw : Word)
    (digit : Int) : m.step.outcome ≠ .error (.invalidMode pc raw digit) := by
  have hkind : FailsWithin (· ≠ .invalidMode pc raw digit) m.step.outcome :=
    .step (fun _ => nofun) (fun _ => nofun) (fun _ => nofun) (fun e he => absurd he (h e))
      fun _ _ _ _ _ _ _ => nofun
  exact fun herror => hkind _ herror rfl

namespace Instruction

/-- The class of a raw value and its first modes. -/
def decodeModes (raw : Word) (count : Nat) : Except InvalidMode (Int × List Mode) :=
  (modesOf raw count).map fun modes => (Opcode.classOf raw, modes)

variable {raw : Word} {count : Nat}

theorem decodeModes_eq_ok_iff {c : Int} {modes : List Mode} :
    decodeModes raw count = .ok (c, modes) ↔
      c = raw.toInt % 100 ∧ modesOf raw count = .ok modes := by
  rw [decodeModes]
  cases modesOf raw count with
  | error e => simp [Except.map]
  | ok found => simp [Except.map, Opcode.classOf, eq_comm]

theorem decodeModes_eq_error_iff {e : InvalidMode} :
    decodeModes raw count = .error e ↔ modesOf raw count = .error e := by
  rw [decodeModes]
  cases modesOf raw count <;> simp [Except.map]

/-- No more modes are read than the largest operation has parameters. -/
theorem modesOf_min (raw : Word) (count : Nat) :
    modesOf raw (min count Opcode.maxArity) = modesOf raw count := by
  rw [modesOf, modesOf, Nat.min_assoc, Nat.min_self]

/-- An operation is decoded with the modes that are read for it, together with its class. -/
theorem decode_eq_some_iff_decodeModes {op : Opcode} {modes : List Mode} :
    decode raw = .ok (some { opcode := op, modes }) ↔
      decodeModes raw op.arity = .ok (op.classNumber, modes) := by
  rw [decode_eq_some_iff, decodeModes_eq_ok_iff]
  exact and_congr_left fun _ => eq_comm

/-- Decoding fails just as the modes of the operation of the class cannot be read. -/
theorem decode_eq_error_iff_decodeModes {op : Opcode} (h : raw.toInt % 100 = op.classNumber)
    {e : InvalidMode} : decode raw = .error e ↔ decodeModes raw op.arity = .error e := by
  rw [decodeModes_eq_error_iff, decode_of_class h]
  cases modesOf raw op.arity <;> simp [Except.map]

/-- Where the modes of the largest operation can be read, decoding does not fail. -/
theorem decode_ne_error {c : Int} {modes : List Mode}
    (h : decodeModes raw Opcode.maxArity = .ok (c, modes)) (e : InvalidMode) :
    decode raw ≠ .error e := by
  intro herror
  obtain ⟨op, _, hrefused⟩ := decode_eq_error_iff.mp herror
  have hread := (decodeModes_eq_ok_iff.mp h).2
  have hmore : modesOf raw Opcode.maxArity = .error e := by
    refine Mode.ofDigits_error_of_le ?_ hrefused
    exact Nat.le_min.mpr ⟨Nat.min_le_right _ _, Nat.min_le_right _ _⟩
  rw [hread] at hmore
  cases hmore

/-- **However many modes are read, they agree.**  Three modes at most are read.  Those that are read
for fewer parameters are the first of those for more, with the same class, and a digit that is
refused for fewer parameters is refused for more.  An operation of the class is decoded, or a digit
is refused, just as its modes are read; so where three modes can be read no digit is ever refused,
neither in decoding nor by a machine that stands there. -/
theorem decodeModes_coherent (raw : Word) (a b : Nat) (hle : a ≤ b) :
    decodeModes raw b = decodeModes raw (min b 3) ∧
    (∀ c modes, decodeModes raw b = .ok (c, modes) →
      decodeModes raw a = .ok (c, modes.take (min a 3))) ∧
    (∀ e, decodeModes raw a = .error e → decodeModes raw b = .error e) ∧
    (∀ c modes, decodeModes raw a = .ok (c, modes) →
      modes.length = min a 3 ∧ c = raw.toInt % 100 ∧ 0 ≤ c ∧ c < 100) ∧
    (∀ op : Opcode, Opcode.ofClass? (raw.toInt % 100) = some op →
      (∀ modes, decode raw = .ok (some { opcode := op, modes }) ↔
        decodeModes raw op.arity = .ok (raw.toInt % 100, modes)) ∧
      ∀ e, decode raw = .error e ↔ decodeModes raw op.arity = .error e) ∧
    (∀ c modes, decodeModes raw 3 = .ok (c, modes) →
      (∀ e, decode raw ≠ .error e) ∧
      ∀ {δ : Type} [Device δ] (m : Machine δ), Fetch.rawAt m.memory m.pc = raw →
        ∀ pc value digit, m.step.outcome ≠ .error (.invalidMode pc value digit)) := by
  have hfewer : min a Opcode.maxArity ≤ min b Opcode.maxArity := by omega
  refine ⟨?_, ?_, ?_, ?_, ?_, ?_⟩
  · rw [decodeModes, decodeModes]
    exact congrArg _ (modesOf_min raw b).symm
  · intro c modes h
    obtain ⟨hclass, hmodes⟩ := decodeModes_eq_ok_iff.mp h
    exact decodeModes_eq_ok_iff.mpr ⟨hclass, Mode.ofDigits_take hfewer hmodes⟩
  · intro e h
    rw [decodeModes_eq_error_iff] at h ⊢
    exact Mode.ofDigits_error_of_le hfewer h
  · intro c modes h
    obtain ⟨hclass, hmodes⟩ := decodeModes_eq_ok_iff.mp h
    exact ⟨length_modes_of_modesOf hmodes, hclass, by omega, by omega⟩
  · intro op hop
    have hclass : raw.toInt % 100 = op.classNumber := Opcode.ofClass?_eq_some_iff.mp hop
    refine ⟨fun modes => ?_, fun e => decode_eq_error_iff_decodeModes hclass⟩
    rw [hclass]
    exact decode_eq_some_iff_decodeModes
  · intro c modes h
    refine ⟨decode_ne_error h, ?_⟩
    intro δ _ m hraw
    exact Machine.step_ne_invalidMode (hraw ▸ decode_ne_error h)

/-- The lowest digit above the class is refused in the least word, however many modes are asked for.
Above an addition with a digit 9 there are three modes, and the digit is none of theirs. -/
theorem decodeModes_coherent_extremes :
    decodeModes Int64.minValue 0xFFFFFFFFFFFFFFFF = .error { digit := 9 } ∧
      decodeModes 9121201 2 = .ok (1, [.relative, .immediate]) ∧
      ∀ e, decode 9121201 ≠ .error e := by
  obtain ⟨_, _, hrefused, _⟩ :=
    decodeModes_coherent Int64.minValue 1 0xFFFFFFFFFFFFFFFF (by decide)
  obtain ⟨_, hread, _, _, _, hdecoded⟩ :=
    decodeModes_coherent 9121201 2 0xFFFFFFFFFFFFFFFF (by decide)
  refine ⟨hrefused _ (by decide), ?_, (hdecoded 1 [.relative, .immediate, .relative] (by decide)).1⟩
  exact hread 1 [.relative, .immediate, .relative] (by decide)

end Instruction

end IntcodeMachine
