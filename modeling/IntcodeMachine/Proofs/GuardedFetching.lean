import IntcodeMachine.Proofs.GuardedDecoding
import IntcodeMachine.Proofs.Turn

/-!
# Fetching with guards

A machine keeps modes and parameters in slots and looks them up by their places.  Fetching fills
as many slots as the operation has parameters, and the operation asks for no other places.  So
nothing is misused until the effect of an instruction is known.

* `Slotted.Fetched.effectBy_within`: an operation asks for its own parameters only.
* `Slotted.fetch_eq`, `Slotted.Fetched.effect_slotted`: fetching and evaluating misuse nothing.
-/

namespace IntcodeMachine

namespace Guarded

variable {ε ε' α : Type}

theorem adapt_of (f : ε → ε') (result : Except ε α) :
    ExceptT.adapt f (of result) = of (result.mapError f) := by
  cases result <;> rfl

end Guarded

namespace Slotted

/-- An instruction in its place, with its parameters in slots. -/
structure Fetched where
  pc : Word
  raw : Word
  instruction : Instruction
  parameters : Slots Word
  deriving DecidableEq, Repr

/-- What the program counter may point at. -/
inductive Fetch where
  | unknown (raw : Word)
  | known (fetched : Fetched)
  deriving DecidableEq, Repr

/-- Reads cells into slots.  The first cell lies `offset` cells after the program counter. -/
def readParameters (memory : Memory) (pc raw : Word) :
    (offset : Word) → List Word → Guarded Fault (List Word)
  | offset, [] => do
      -- The offset moves on before the slots are found to be used up.
      let _ ← Guard.word (offset.toInt + 1)
      return []
  | offset, _ :: slots => do
      let next ← Guard.word (offset.toInt + 1)
      let address ← Guarded.of (match Word.add? pc offset with
        | some address => .ok address
        | none => .error (.overflow pc raw))
      let value ← Guarded.of (memory.load address)
      let rest ← readParameters memory pc raw next slots
      return value :: rest

/-- An instruction with the parameters that follow it. -/
def complete (memory : Memory) (pc raw : Word) (i : Instruction) : Guarded Fault Fetched := do
  let slots ← Guard.front (Slots.blank (0 : Word)).toList i.opcode.arity
  let values ← readParameters memory pc raw 1 slots
  return { pc, raw, instruction := i, parameters := (Slots.blank 0).overlay values }

/-- Reads what the program counter points at. -/
def fetch (memory : Memory) (pc : Word) : Guarded Fault Fetch := do
  let raw ← Guarded.of (memory.load pc)
  let found ← ExceptT.adapt (fun e => Fault.invalidMode pc raw e.digit) (decode raw)
  match found with
  | none => return .unknown raw
  | some i => return .known (← complete memory pc raw i)

namespace Fetched

/-- The instruction in its place without its parameters; faults are about it. -/
def site (f : Fetched) : IntcodeMachine.Fetched :=
  { pc := f.pc, raw := f.raw, opcode := f.instruction.opcode, parameters := [] }

/-- The parameter in a place. -/
def parameter (f : Fetched) (place : Nat) : Except Misuse Parameter := do
  let value ← Guard.element f.parameters.toList place
  let mode ← f.instruction.modes.get place
  return { mode, value }

/-- The value of the parameter in a place. -/
def operand (f : Fetched) (ask : Nat → Except Misuse Parameter) (memory : Memory) (base : Word)
    (place : Nat) : Guarded Fault Word := do
  let p ← ask place
  Guarded.of (f.site.operand memory base p)

/-- The address of the parameter in a place. -/
def destination (f : Fetched) (ask : Nat → Except Misuse Parameter) (base : Word)
    (place : Nat) : Guarded Fault Word := do
  let p ← ask place
  Guarded.of (f.site.destination base p)

/-- The effect of an operation that stores a combination of two operands. -/
def combination (f : Fetched) (ask : Nat → Except Misuse Parameter) (memory : Memory)
    (base : Word) (combine : Word → Word → Option Word) : Guarded Fault Effect := do
  let a ← f.operand ask memory base 0
  let b ← f.operand ask memory base 1
  let address ← f.destination ask base 2
  let value ← Guarded.of (f.site.exact (combine a b))
  return .store address value

/-- The effect of an operation that may go elsewhere. -/
def branch (f : Fetched) (ask : Nat → Except Misuse Parameter) (memory : Memory) (base : Word) :
    Guarded Fault Effect := do
  let c ← f.operand ask memory base 0
  let t ← f.operand ask memory base 1
  return if f.instruction.opcode.branches c then .goto t else .proceed

/-- The effect of an instruction that asks for its parameters by their places. -/
def effectBy (f : Fetched) (ask : Nat → Except Misuse Parameter) (memory : Memory)
    (base : Word) : Guarded Fault Effect :=
  match f.instruction.opcode with
  | .add => f.combination ask memory base Word.add?
  | .multiply => f.combination ask memory base Word.mul?
  | .lessThan => f.combination ask memory base fun x y => some (Word.ofBool (x < y))
  | .equals => f.combination ask memory base fun x y => some (Word.ofBool (x = y))
  | .input => do return .deliver (← f.destination ask base 0)
  | .output => do return .receive (← f.operand ask memory base 0)
  | .jumpIfTrue | .jumpIfFalse => f.branch ask memory base
  | .relativeBaseOffset => do
      let offset ← f.operand ask memory base 0
      return .rebase (← Guarded.of (f.site.exact (Word.add? base offset)))
  | .halt => return .halt

/-- The effect of an instruction. -/
def effect (f : Fetched) (memory : Memory) (base : Word) : Guarded Fault Effect :=
  f.effectBy f.parameter memory base

/-- Parameters that can be asked for only in the places that an instruction has. -/
def within (f : Fetched) (ask : Nat → Except Misuse Parameter) (place : Nat) :
    Except Misuse Parameter :=
  if place < f.instruction.opcode.arity then ask place
  else .error (.index place f.instruction.opcode.arity)

/-- **An operation asks for its own parameters only.** -/
theorem effectBy_within (f : Fetched) (ask : Nat → Except Misuse Parameter) (memory : Memory)
    (base : Word) : f.effectBy (f.within ask) memory base = f.effectBy ask memory base := by
  obtain ⟨pc, raw, ⟨opcode, modes⟩, parameters⟩ := f
  cases opcode <;> rfl

theorem effectBy_of_combine {f : Fetched} {combine : Word → Word → Option Word}
    (h : f.instruction.opcode.combine? = some combine) (ask : Nat → Except Misuse Parameter)
    (memory : Memory) (base : Word) :
    f.effectBy ask memory base = f.combination ask memory base combine := by
  obtain ⟨pc, raw, ⟨opcode, modes⟩, parameters⟩ := f
  cases opcode <;> cases h <;> rfl

theorem effectBy_of_isJump {f : Fetched} (h : f.instruction.opcode.isJump = true)
    (ask : Nat → Except Misuse Parameter) (memory : Memory) (base : Word) :
    f.effectBy ask memory base = f.branch ask memory base := by
  obtain ⟨pc, raw, ⟨opcode, modes⟩, parameters⟩ := f
  cases opcode <;> cases h <;> rfl

/-- What is reported of an instruction that is about to take effect. -/
def events (f : Fetched) : Except Misuse (List Event) := do
  let shown ← Guard.front f.parameters.toList f.instruction.opcode.arity
  let execute := .execute f.pc f.raw f.instruction.opcode shown
  return if f.instruction.opcode = .halt then [execute, .halted f.pc] else [execute]

/-- How far the next instruction lies from this one. -/
def width (f : Fetched) : Except Misuse Word :=
  Guard.word ((Int64.ofNat f.instruction.opcode.arity).toInt + 1)

end Fetched

end Slotted

/-- An instruction in its place, with modes and parameters put into slots. -/
def Fetched.slotted (f : Fetched) : Slotted.Fetched :=
  { pc := f.pc, raw := f.raw,
    instruction := Instruction.slotted { opcode := f.opcode, modes := f.parameters.map (·.mode) },
    parameters := (Slots.blank 0).overlay (f.parameters.map (·.value)) }

/-- What the program counter points at, put into slots. -/
def Fetch.slotted : Fetch → Slotted.Fetch
  | .unknown raw => .unknown raw
  | .known f => .known f.slotted

namespace Slotted

theorem inRange_succ {offset : Word} {n : Nat} (hoffset : offset.toInt = n)
    (hn : n ≤ Opcode.maxArity + 1) : Word.InRange (offset.toInt + 1) := by
  unfold Opcode.maxArity at hn
  unfold Word.InRange
  omega

theorem word_succ_eq_ok {offset : Word} {n : Nat} (hoffset : offset.toInt = n)
    (hn : n ≤ Opcode.maxArity + 1) :
    Guard.word (offset.toInt + 1) = .ok (Int64.ofInt (offset.toInt + 1)) :=
  Guard.word_eq_ok (inRange_succ hoffset hn)

theorem toInt_succ {offset : Word} {n : Nat} (hoffset : offset.toInt = n)
    (hn : n ≤ Opcode.maxArity + 1) :
    (Int64.ofInt (offset.toInt + 1)).toInt = (n + 1 : Nat) := by
  rw [Word.toInt_ofInt_of_inRange (inRange_succ hoffset hn), hoffset]
  rfl

/-- **Parameters are read without misuse**: the offset of the next one is always a word. -/
theorem readParameters_eq (memory : Memory) (pc raw : Word) {offset : Word} {n : Nat}
    (slots : List Word) (hoffset : offset.toInt = n)
    (hlength : n + slots.length ≤ Opcode.maxArity + 1) :
    readParameters memory pc raw offset slots =
      Guarded.of (Fetch.window memory pc raw n slots.length) := by
  -- The offset and the number of slots left add up to at most one more than there are places.
  induction slots generalizing offset n with
  | nil =>
      have hnext := word_succ_eq_ok hoffset hlength
      rw [readParameters, hnext]
      rfl
  | cons slot slots ih =>
      rw [List.length_cons] at hlength
      have hn : n ≤ Opcode.maxArity + 1 := by omega
      have hnext := toInt_succ hoffset hn
      rw [readParameters, word_succ_eq_ok hoffset hn, Guarded.lift_ok_bind, List.length_cons,
        Fetch.window, Word.add?, hoffset]
      cases Word.ofInt? (pc.toInt + n) with
      | none => rfl
      | some address =>
          dsimp only
          rw [Guarded.of_ok_bind]
          cases memory.load address with
          | error fault => rfl
          | ok value =>
              rw [← hoffset, Guarded.of_ok_bind, ih hnext (by omega)]
              exact (Guarded.of_map (value :: ·) _).symm

theorem map_mode_zipWith {modes : List Mode} {values : List Word}
    (h : modes.length = values.length) :
    (List.zipWith Parameter.mk modes values).map (·.mode) = modes := by
  apply List.ext_getElem <;> simp [h]

theorem map_value_zipWith {modes : List Mode} {values : List Word}
    (h : modes.length = values.length) :
    (List.zipWith Parameter.mk modes values).map (·.value) = values := by
  apply List.ext_getElem <;> simp [h]

/-- An instruction with one mode for each parameter gets its parameters without misuse. -/
theorem complete_slotted (memory : Memory) (pc raw : Word) {i : IntcodeMachine.Instruction}
    (hmodes : i.modes.length = i.arity) :
    complete memory pc raw i.slotted =
      Guarded.of ((Fetch.complete memory pc raw i).map IntcodeMachine.Fetched.slotted) := by
  have harity : i.arity ≤ Opcode.maxArity := i.opcode.arity_le_maxArity
  have hfront : Guard.front (Slots.blank (0 : Word)).toList i.slotted.opcode.arity =
      .ok (List.replicate i.arity 0) :=
    Slots.front_blank 0 harity
  have hone : (1 : Word).toInt = (1 : Nat) := by decide
  have hread := readParameters_eq memory pc raw (List.replicate i.arity 0) hone (by
    rw [List.length_replicate]
    omega)
  rw [complete, hfront, Guarded.lift_ok_bind, hread, List.length_replicate, Fetch.complete]
  cases hwindow : Fetch.window memory pc raw 1 i.arity with
  | error fault => rfl
  | ok values =>
      have hsame := hmodes.trans (Fetch.length_of_window hwindow).symm
      rw [Guarded.of_ok_bind]
      simp only [Except.map, IntcodeMachine.Fetched.slotted, map_mode_zipWith hsame,
        map_value_zipWith hsame]
      rfl

/-- **Fetching misuses nothing**, wherever the program counter points. -/
theorem fetch_eq (memory : Memory) (pc : Word) :
    fetch memory pc = Guarded.of ((Fetch.fetch memory pc).map Fetch.slotted) := by
  rw [fetch, Fetch.fetch]
  cases memory.load pc with
  | error fault => rfl
  | ok raw =>
      simp only [Guarded.of_ok_bind, decode_eq, Guarded.adapt_of]
      cases hdecode : Instruction.decode raw with
      | error e => rfl
      | ok found =>
          cases found with
          | none => rfl
          | some i =>
              have hcomplete := complete_slotted memory pc raw
                (Instruction.length_modes_of_decode hdecode)
              simp only [Except.map, Except.mapError, Option.map]
              rw [Guarded.of_ok_bind]
              dsimp only
              rw [hcomplete]
              cases Fetch.complete memory pc raw i <;> rfl

namespace Fetched

variable {f : IntcodeMachine.Fetched}

theorem parameter_slotted {p : Parameter} {place : Nat}
    (hlength : f.parameters.length ≤ Opcode.maxArity) (h : f.parameters[place]? = some p) :
    f.slotted.parameter place = .ok p := by
  obtain ⟨hplace, rfl⟩ := List.getElem?_eq_some_iff.mp h
  have hvalue : Guard.element f.slotted.parameters.toList place =
      .ok f.parameters[place].value := by
    apply Guard.element_eq_ok
    rw [IntcodeMachine.Fetched.slotted, Slots.getElem?_overlay]
    · simp [hplace]
    · simpa using hlength
    · simpa using hplace
  have hmode : f.slotted.instruction.modes.get place = .ok f.parameters[place].mode := by
    rw [IntcodeMachine.Fetched.slotted, Instruction.slotted, Modes.get_ofList]
    · apply Guard.element_eq_ok
      simp [hplace]
    · simpa using hlength
  rw [parameter, hvalue, hmode]
  rfl

theorem operand_slotted {p : Parameter} {place : Nat} (memory : Memory) (base : Word)
    (hlength : f.parameters.length ≤ Opcode.maxArity) (h : f.parameters[place]? = some p) :
    f.slotted.operand f.slotted.parameter memory base place =
      Guarded.of (f.operand memory base p) := by
  rw [operand, parameter_slotted hlength h, Guarded.lift_ok_bind]
  rfl

theorem destination_slotted {p : Parameter} {place : Nat} (base : Word)
    (hlength : f.parameters.length ≤ Opcode.maxArity) (h : f.parameters[place]? = some p) :
    f.slotted.destination f.slotted.parameter base place =
      Guarded.of (f.destination base p) := by
  rw [destination, parameter_slotted hlength h, Guarded.lift_ok_bind]
  rfl

theorem combination_slotted {a b d : Parameter} (memory : Memory) (base : Word)
    (combine : Word → Word → Option Word) (h : f.parameters = [a, b, d]) :
    f.slotted.combination f.slotted.parameter memory base combine =
      Guarded.of (f.combination memory base combine a b d) := by
  have hlength : f.parameters.length ≤ Opcode.maxArity := Nat.le_of_eq (by rw [h]; rfl)
  have hfirst : f.parameters[0]? = some a := by rw [h]; rfl
  have hsecond : f.parameters[1]? = some b := by rw [h]; rfl
  have hthird : f.parameters[2]? = some d := by rw [h]; rfl
  rw [combination, operand_slotted memory base hlength hfirst,
    operand_slotted memory base hlength hsecond, destination_slotted base hlength hthird,
    IntcodeMachine.Fetched.combination]
  simp only [Guarded.of_bind]
  rfl

theorem branch_slotted {c t : Parameter} (memory : Memory) (base : Word)
    (h : f.parameters = [c, t]) :
    f.slotted.branch f.slotted.parameter memory base =
      Guarded.of (f.branch memory base c t) := by
  have hlength : f.parameters.length ≤ Opcode.maxArity :=
    Nat.le_of_succ_le (Nat.le_of_eq (by rw [h]; rfl))
  have hfirst : f.parameters[0]? = some c := by rw [h]; rfl
  have hsecond : f.parameters[1]? = some t := by rw [h]; rfl
  rw [branch, operand_slotted memory base hlength hfirst,
    operand_slotted memory base hlength hsecond, IntcodeMachine.Fetched.branch]
  simp only [Guarded.of_bind]
  rfl

/-- **An effect is found out without misuse** if an instruction has all its parameters. -/
theorem effect_slotted (h : f.parameters.length = f.opcode.arity) (memory : Memory)
    (base : Word) : f.slotted.effect memory base = Guarded.of (f.effect memory base) := by
  have hlength : f.parameters.length ≤ Opcode.maxArity := by
    rw [h]
    exact f.opcode.arity_le_maxArity
  have hopcode : f.slotted.instruction.opcode = f.opcode := rfl
  -- By the shapes: each lists its parameters, and these are the places that are asked for.
  cases IntcodeMachine.Fetched.shape h memory base with
  | combination hop hparams heffect =>
      rw [heffect, ← combination_slotted memory base _ hparams]
      exact effectBy_of_combine hop _ memory base
  | branch hop hparams heffect =>
      rw [heffect, ← branch_slotted memory base hparams]
      exact effectBy_of_isJump hop _ memory base
  | @input d hop hparams heffect =>
      have hfirst : f.parameters[0]? = some d := by rw [hparams]; rfl
      simp only [effect, effectBy, hopcode, hop]
      rw [heffect, destination_slotted base hlength hfirst, Guarded.of_bind]
      rfl
  | @output a hop hparams heffect =>
      have hfirst : f.parameters[0]? = some a := by rw [hparams]; rfl
      simp only [effect, effectBy, hopcode, hop]
      rw [heffect, operand_slotted memory base hlength hfirst, Guarded.of_bind]
      rfl
  | @offset a hop hparams heffect =>
      have hfirst : f.parameters[0]? = some a := by rw [hparams]; rfl
      simp only [effect, effectBy, hopcode, hop]
      rw [heffect, operand_slotted memory base hlength hfirst]
      simp only [Guarded.of_bind]
      rfl
  | halt hop hparams heffect =>
      simp only [effect, effectBy, hopcode, hop]
      rw [heffect]
      rfl

/-- What is reported takes the parameters that an instruction has, and no others. -/
theorem events_slotted (h : f.parameters.length = f.opcode.arity) :
    f.slotted.events = .ok f.events := by
  have hlength : (f.parameters.map (·.value)).length ≤ Opcode.maxArity := by
    rw [List.length_map, h]
    exact f.opcode.arity_le_maxArity
  have harity : f.slotted.instruction.opcode.arity = (f.parameters.map (·.value)).length := by
    rw [List.length_map, h]
    rfl
  have hshown : Guard.front f.slotted.parameters.toList f.slotted.instruction.opcode.arity =
      .ok (f.parameters.map (·.value)) := by
    rw [harity, Guard.front_eq_ok, IntcodeMachine.Fetched.slotted, Slots.take_overlay _ hlength]
    rw [Slots.length_toList]
    exact hlength
  rw [events, hshown]
  rfl

theorem width_slotted (f : IntcodeMachine.Fetched) : f.slotted.width = .ok f.width := by
  have hsum : (Int64.ofNat f.opcode.arity).toInt + 1 = f.width.toInt := by
    rw [f.toInt_width]
    cases f.opcode <;> decide
  have hwidth : f.slotted.width = Guard.word ((Int64.ofNat f.opcode.arity).toInt + 1) := rfl
  rw [hwidth, hsum, Guard.word_toInt]

end Fetched

end Slotted

end IntcodeMachine
