import IntcodeMachine.Machine.Run
import IntcodeMachine.Proofs.Fetching
import IntcodeMachine.Script
import Mathlib.Data.List.Basic

/-!
# What a step can do

A step first finds out what is to be done, and this depends on memory and registers only; the
device comes in when it is done.  `Machine.turn` is the first half and `Machine.take` the
second.  All that is proved about steps goes by the cases of `Turn`.

* `Machine.step_eq_take`: a step is the two halves together.
* `Fetched.shape`: an instruction is a combination of two operands, a jump, or one of four
  single operations.
* `Fetched.yields_of_effect`, `Fetched.Yields.effect_eq`: the six ways in which an effect comes
  about.
* `Machine.arises_turn`: the five ways in which a turn arises.
-/

namespace IntcodeMachine

/-- Two steps of a computation succeed exactly when both do. -/
theorem bind_eq_ok_iff {ε α β : Type} {first : Except ε α} {second : α → Except ε β} {b : β} :
    (first >>= second) = .ok b ↔ ∃ a, first = .ok a ∧ second a = .ok b := by
  cases first with
  | error e =>
      constructor
      · intro h
        cases h
      · intro h
        obtain ⟨a, h, _⟩ := h
        cases h
  | ok a =>
      constructor
      · intro h
        exact ⟨a, rfl, h⟩
      · intro h
        obtain ⟨_, hfirst, h⟩ := h
        cases hfirst
        exact h

/-- What a machine is about to do. -/
inductive Turn where
  /-- It has stopped and does nothing. -/
  | rest
  /-- It fails, with what it has reported until then. -/
  | refuse (fault : Fault) (events : List Event)
  /-- It skips a cell that holds no instruction. -/
  | skip (raw : Word)
  /-- It carries out the effect of an instruction. -/
  | act (f : Fetched) (effect : Effect)

namespace Machine

variable {δ : Type}

/-- A machine that is about to run a program. -/
def ofProgram (program : Program) (limit : Nat) (device : δ) : Machine δ :=
  { memory := { cells := program.toArray, limit }, device }

/-- What the machine is about to do, by its memory and registers. -/
def turn (m : Machine δ) : Turn :=
  if m.halted then .rest
  else
    match Fetch.fetch m.memory m.pc with
    | .error fault => .refuse fault []
    | .ok (.unknown raw) => .skip raw
    | .ok (.known f) =>
        match f.effect m.memory m.base with
        | .error fault => .refuse fault f.events
        | .ok effect => .act f effect

/-- Does what is to be done. -/
def take [Device δ] (m : Machine δ) : Turn → Step δ
  | .rest => { outcome := .ok true, machine := m, events := [] }
  | .refuse fault events => { outcome := .error fault, machine := m, events }
  | .skip raw => m.skip raw
  | .act f effect =>
      { outcome := (m.perform f effect).1, machine := (m.perform f effect).2,
        events := f.events }

/-- **A step in two halves.**  What is to be done depends on memory and registers only. -/
theorem step_eq_take [Device δ] (m : Machine δ) : m.step = m.take m.turn := by
  unfold step turn
  cases m.halted with
  | true => rfl
  | false =>
      cases Fetch.fetch m.memory m.pc with
      | error fault => rfl
      | ok found =>
          cases found with
          | unknown raw => rfl
          | known f =>
              simp only [Bool.false_eq_true, if_false, carryOut]
              cases f.effect m.memory m.base <;> rfl

theorem turn_of_halted {m : Machine δ} (h : m.halted = true) : m.turn = .rest := by
  rw [turn, if_pos h]

theorem turn_of_fetch_error {m : Machine δ} {fault : Fault} (hrun : m.halted = false)
    (h : Fetch.fetch m.memory m.pc = .error fault) : m.turn = .refuse fault [] := by
  simp [turn, hrun, h]

theorem turn_of_unknown {m : Machine δ} {raw : Word} (hrun : m.halted = false)
    (h : Fetch.fetch m.memory m.pc = .ok (.unknown raw)) : m.turn = .skip raw := by
  simp [turn, hrun, h]

theorem turn_of_effect_error {m : Machine δ} {f : Fetched} {fault : Fault}
    (hrun : m.halted = false) (hfetch : Fetch.fetch m.memory m.pc = .ok (.known f))
    (h : f.effect m.memory m.base = .error fault) : m.turn = .refuse fault f.events := by
  simp [turn, hrun, hfetch, h]

theorem turn_of_effect {m : Machine δ} {f : Fetched} {effect : Effect}
    (hrun : m.halted = false) (hfetch : Fetch.fetch m.memory m.pc = .ok (.known f))
    (h : f.effect m.memory m.base = .ok effect) : m.turn = .act f effect := by
  simp [turn, hrun, hfetch, h]

/-- What must hold for a machine to be about to do something. -/
inductive Arises (m : Machine δ) : Turn → Prop where
  | rest (hhalted : m.halted = true) : Arises m .rest
  | unfetched {fault : Fault} (hrun : m.halted = false)
      (hfetch : Fetch.fetch m.memory m.pc = .error fault) : Arises m (.refuse fault [])
  | skip {raw : Word} (hrun : m.halted = false)
      (hfetch : Fetch.fetch m.memory m.pc = .ok (.unknown raw)) : Arises m (.skip raw)
  | ineffective {f : Fetched} {fault : Fault} (hrun : m.halted = false)
      (hfetch : Fetch.fetch m.memory m.pc = .ok (.known f))
      (heffect : f.effect m.memory m.base = .error fault) : Arises m (.refuse fault f.events)
  | act {f : Fetched} {effect : Effect} (hrun : m.halted = false)
      (hfetch : Fetch.fetch m.memory m.pc = .ok (.known f))
      (heffect : f.effect m.memory m.base = .ok effect) : Arises m (.act f effect)

/-- **Every turn arises in one of five ways.** -/
theorem arises_turn (m : Machine δ) : m.Arises m.turn := by
  cases hhalted : m.halted with
  | true =>
      rw [turn_of_halted hhalted]
      exact .rest hhalted
  | false =>
      cases hfetch : Fetch.fetch m.memory m.pc with
      | error fault =>
          rw [turn_of_fetch_error hhalted hfetch]
          exact .unfetched hhalted hfetch
      | ok found =>
          cases found with
          | unknown raw =>
              rw [turn_of_unknown hhalted hfetch]
              exact .skip hhalted hfetch
          | known f =>
              cases heffect : f.effect m.memory m.base with
              | error fault =>
                  rw [turn_of_effect_error hhalted hfetch heffect]
                  exact .ineffective hhalted hfetch heffect
              | ok effect =>
                  rw [turn_of_effect hhalted hfetch heffect]
                  exact .act hhalted hfetch heffect

theorem turn_eq_rest_iff {m : Machine δ} : m.turn = .rest ↔ m.halted = true := by
  constructor
  · intro h
    have harises := m.arises_turn
    rw [h] at harises
    cases harises with
    | rest hhalted => exact hhalted
  · exact turn_of_halted

theorem turn_eq_skip_iff {m : Machine δ} {raw : Word} :
    m.turn = .skip raw ↔
      m.halted = false ∧ Fetch.fetch m.memory m.pc = .ok (.unknown raw) := by
  constructor
  · intro h
    have harises := m.arises_turn
    rw [h] at harises
    cases harises with
    | skip hrun hfetch => exact ⟨hrun, hfetch⟩
  · intro h
    exact turn_of_unknown h.1 h.2

theorem turn_eq_act_iff {m : Machine δ} {f : Fetched} {effect : Effect} :
    m.turn = .act f effect ↔
      m.halted = false ∧ Fetch.fetch m.memory m.pc = .ok (.known f) ∧
        f.effect m.memory m.base = .ok effect := by
  constructor
  · intro h
    have harises := m.arises_turn
    rw [h] at harises
    cases harises with
    | act hrun hfetch heffect => exact ⟨hrun, hfetch, heffect⟩
  · intro h
    obtain ⟨hrun, hfetch, heffect⟩ := h
    exact turn_of_effect hrun hfetch heffect

/-- An instruction that is carried out stands in memory. -/
theorem inPlace_of_turn {m : Machine δ} {f : Fetched} {effect : Effect}
    (h : m.turn = .act f effect) : f.InPlace m.memory m.pc :=
  Fetch.inPlace_of_fetch (turn_eq_act_iff.mp h).2.1

theorem advance_of_next {m : Machine δ} {f : Fetched} {next : Word}
    (h : m.pc.inc? f.width = some next) : m.advance f = (.ok false, { m with pc := next }) := by
  rw [advance, h]

/-- An instruction whose successor has an address is always left. -/
theorem advance_ne_error {m : Machine δ} {f : Fetched} {next : Word} {fault : Fault}
    (h : m.pc.inc? f.width = some next) : (m.advance f).1 ≠ .error fault := by
  rw [advance_of_next h]
  intro herror
  cases herror

theorem store_of_slot_error {m : Machine δ} {address : Word} {e : AddressError}
    (f : Fetched) (value : Word) (h : m.memory.slot address = .error e) :
    m.store f address value = (.error (.address e), m) := by
  rw [store, h]

theorem store_of_slot {m : Machine δ} {f : Fetched} {address next : Word} {i : Nat}
    (value : Word) (h : m.memory.slot address = .ok i) (hnext : m.pc.inc? f.width = some next) :
    m.store f address value =
      (.ok false, { m with memory := m.memory.put i value, pc := next }) := by
  rw [store, h]
  exact advance_of_next hnext

theorem store_ne_error {m : Machine δ} {f : Fetched} {address next : Word} {i : Nat}
    {value : Word} {fault : Fault} (h : m.memory.slot address = .ok i)
    (hnext : m.pc.inc? f.width = some next) : (m.store f address value).1 ≠ .error fault := by
  rw [store_of_slot value h hnext]
  intro herror
  cases herror

/-- A script with nothing left has no value to deliver, and stays as it is. -/
theorem deliver_of_nil {m : Machine Script} (f : Fetched) (address : Word)
    (h : m.device.feed.pending = []) :
    m.deliver f address = (.error (.device .exhausted), m) := by
  obtain ⟨memory, pc, base, halted, ⟨⟨pending⟩, buffer⟩⟩ := m
  cases h
  rfl

/-- The machine without the input value at the front. -/
def dropInput (m : Machine Script) : Machine Script :=
  { m with device := { m.device with feed := { pending := m.device.feed.pending.tail } } }

/-- A script delivers the value at its front. -/
theorem deliver_of_cons {m : Machine Script} (f : Fetched) (address : Word) {value : Word}
    {rest : List Word} (h : m.device.feed.pending = value :: rest) :
    m.deliver f address = m.dropInput.store f address value := by
  obtain ⟨memory, pc, base, halted, ⟨⟨pending⟩, buffer⟩⟩ := m
  cases h
  rfl

/-- A script keeps every value. -/
theorem receive_script (m : Machine Script) (f : Fetched) (value : Word) :
    m.receive f value =
      advance { m with device := { m.device with buffer := m.device.buffer.receive value } } f :=
  rfl

end Machine

/-- How an operation combines two operands into the value that it stores. -/
def Opcode.combine? : Opcode → Option (Word → Word → Option Word)
  | .add => some Word.add?
  | .multiply => some Word.mul?
  | .lessThan => some fun x y => some (Word.ofBool (x < y))
  | .equals => some fun x y => some (Word.ofBool (x = y))
  | _ => none

namespace Fetched

/-- What an instruction does with its parameters. -/
inductive Shape (f : Fetched) (memory : Memory) (base : Word) : Prop where
  | combination {combine : Word → Word → Option Word} {a b d : Parameter}
      (hop : f.opcode.combine? = some combine) (hparams : f.parameters = [a, b, d])
      (heffect : f.effect memory base = f.combination memory base combine a b d)
  | branch {c t : Parameter} (hop : f.opcode.isJump = true) (hparams : f.parameters = [c, t])
      (heffect : f.effect memory base = f.branch memory base c t)
  | input {d : Parameter} (hop : f.opcode = .input) (hparams : f.parameters = [d])
      (heffect : f.effect memory base = (f.destination base d >>= fun address =>
        .ok (.deliver address)))
  | output {a : Parameter} (hop : f.opcode = .output) (hparams : f.parameters = [a])
      (heffect : f.effect memory base = (f.operand memory base a >>= fun value =>
        .ok (.receive value)))
  | offset {a : Parameter} (hop : f.opcode = .relativeBaseOffset)
      (hparams : f.parameters = [a])
      (heffect : f.effect memory base = (f.operand memory base a >>= fun offset =>
        f.exact (Word.add? base offset) >>= fun moved => .ok (.rebase moved)))
  | halt (hop : f.opcode = .halt) (hparams : f.parameters = [])
      (heffect : f.effect memory base = .ok .halt)

/-- An instruction with as many parameters as its operation takes has one of the shapes. -/
theorem shape {f : Fetched} (h : f.parameters.length = f.opcode.arity) (memory : Memory)
    (base : Word) : f.Shape memory base := by
  obtain ⟨pc, raw, opcode, parameters⟩ := f
  cases opcode with
  | add | multiply | lessThan | equals =>
      obtain ⟨a, b, d, rfl⟩ := List.length_eq_three.mp h
      exact .combination rfl rfl rfl
  | jumpIfTrue | jumpIfFalse =>
      obtain ⟨c, t, rfl⟩ := List.length_eq_two.mp h
      exact .branch rfl rfl rfl
  | input =>
      obtain ⟨d, rfl⟩ := List.length_eq_one_iff.mp h
      exact .input rfl rfl rfl
  | output =>
      obtain ⟨a, rfl⟩ := List.length_eq_one_iff.mp h
      exact .output rfl rfl rfl
  | relativeBaseOffset =>
      obtain ⟨a, rfl⟩ := List.length_eq_one_iff.mp h
      exact .offset rfl rfl rfl
  | halt =>
      obtain rfl := List.length_eq_zero_iff.mp h
      exact .halt rfl rfl rfl

/-- What an instruction finds on the way to an effect. -/
inductive Yields (f : Fetched) (memory : Memory) (base : Word) : Effect → Prop where
  | store {combine : Word → Word → Option Word} {a b d : Parameter} {x y address value : Word}
      (hop : f.opcode.combine? = some combine) (hparams : f.parameters = [a, b, d])
      (hx : f.operand memory base a = .ok x) (hy : f.operand memory base b = .ok y)
      (haddress : f.destination base d = .ok address) (hvalue : combine x y = some value) :
      Yields f memory base (.store address value)
  | jump {c t : Parameter} {condition target : Word} {effect : Effect}
      (hop : f.opcode.isJump = true) (hparams : f.parameters = [c, t])
      (hcondition : f.operand memory base c = .ok condition)
      (htarget : f.operand memory base t = .ok target)
      (hbranches : effect = if f.opcode.branches condition then .goto target else .proceed) :
      Yields f memory base effect
  | deliver {d : Parameter} {address : Word} (hop : f.opcode = .input)
      (hparams : f.parameters = [d]) (haddress : f.destination base d = .ok address) :
      Yields f memory base (.deliver address)
  | receive {a : Parameter} {value : Word} (hop : f.opcode = .output)
      (hparams : f.parameters = [a]) (hvalue : f.operand memory base a = .ok value) :
      Yields f memory base (.receive value)
  | rebase {a : Parameter} {offset moved : Word} (hop : f.opcode = .relativeBaseOffset)
      (hparams : f.parameters = [a]) (hoffset : f.operand memory base a = .ok offset)
      (hmoved : Word.add? base offset = some moved) : Yields f memory base (.rebase moved)
  | halt (hop : f.opcode = .halt) (hparams : f.parameters = []) : Yields f memory base .halt

/-- **Every effect comes about in one of six ways.** -/
theorem yields_of_effect {f : Fetched} {memory : Memory} {base : Word} {effect : Effect}
    (hlength : f.parameters.length = f.opcode.arity)
    (heffect : f.effect memory base = .ok effect) : f.Yields memory base effect := by
  cases shape hlength memory base with
  | combination hop hparams hform =>
      rw [hform] at heffect
      obtain ⟨x, hx, heffect⟩ := bind_eq_ok_iff.mp heffect
      obtain ⟨y, hy, heffect⟩ := bind_eq_ok_iff.mp heffect
      obtain ⟨address, haddress, heffect⟩ := bind_eq_ok_iff.mp heffect
      obtain ⟨value, hvalue, heffect⟩ := bind_eq_ok_iff.mp heffect
      cases heffect
      exact .store hop hparams hx hy haddress (exact_eq_ok_iff.mp hvalue)
  | branch hop hparams hform =>
      rw [hform] at heffect
      obtain ⟨condition, hcondition, heffect⟩ := bind_eq_ok_iff.mp heffect
      obtain ⟨target, htarget, heffect⟩ := bind_eq_ok_iff.mp heffect
      exact .jump hop hparams hcondition htarget (Except.ok.inj heffect).symm
  | input hop hparams hform =>
      rw [hform] at heffect
      obtain ⟨address, haddress, heffect⟩ := bind_eq_ok_iff.mp heffect
      cases heffect
      exact .deliver hop hparams haddress
  | output hop hparams hform =>
      rw [hform] at heffect
      obtain ⟨value, hvalue, heffect⟩ := bind_eq_ok_iff.mp heffect
      cases heffect
      exact .receive hop hparams hvalue
  | offset hop hparams hform =>
      rw [hform] at heffect
      obtain ⟨offset, hoffset, heffect⟩ := bind_eq_ok_iff.mp heffect
      obtain ⟨moved, hmoved, heffect⟩ := bind_eq_ok_iff.mp heffect
      cases heffect
      exact .rebase hop hparams hoffset (exact_eq_ok_iff.mp hmoved)
  | halt hop hparams hform =>
      rw [hform] at heffect
      cases heffect
      exact .halt hop hparams

/-- What an instruction finds on the way is enough for its effect. -/
theorem Yields.effect_eq {f : Fetched} {memory : Memory} {base : Word} {effect : Effect}
    (h : f.Yields memory base effect) : f.effect memory base = .ok effect := by
  obtain ⟨pc, raw, opcode, parameters⟩ := f
  cases h with
  | store hop hparams hx hy haddress hvalue =>
      cases hparams
      have hform : combination _ memory base _ _ _ _ = _ :=
        bind_eq_ok_iff.mpr ⟨_, hx, bind_eq_ok_iff.mpr ⟨_, hy, bind_eq_ok_iff.mpr
          ⟨_, haddress, bind_eq_ok_iff.mpr ⟨_, exact_eq_ok_iff.mpr hvalue, rfl⟩⟩⟩⟩
      cases opcode <;> cases hop <;> exact hform
  | jump hop hparams hcondition htarget hbranches =>
      cases hparams
      subst hbranches
      have hform : branch _ memory base _ _ = _ :=
        bind_eq_ok_iff.mpr ⟨_, hcondition, bind_eq_ok_iff.mpr ⟨_, htarget, rfl⟩⟩
      cases opcode <;> cases hop <;> exact hform
  | deliver hop hparams haddress =>
      cases hop
      cases hparams
      exact bind_eq_ok_iff.mpr ⟨_, haddress, rfl⟩
  | receive hop hparams hvalue =>
      cases hop
      cases hparams
      exact bind_eq_ok_iff.mpr ⟨_, hvalue, rfl⟩
  | rebase hop hparams hoffset hmoved =>
      cases hop
      cases hparams
      exact bind_eq_ok_iff.mpr ⟨_, hoffset, bind_eq_ok_iff.mpr
        ⟨_, exact_eq_ok_iff.mpr hmoved, rfl⟩⟩
  | halt hop hparams =>
      cases hop
      cases hparams
      rfl

end Fetched

end IntcodeMachine
