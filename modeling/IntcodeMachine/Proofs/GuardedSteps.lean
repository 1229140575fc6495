import IntcodeMachine.Proofs.Devices
import IntcodeMachine.Proofs.GuardedFetching

/-!
# Steps with guards

A step with guards comes to what the plain step comes to, whatever the memory and the registers
hold, and so does every run.  The plain step has a fault of its own for parameters that lack;
this is never raised.

* `Machine.guardedStep_eq`, `Machine.guardedAfter_eq`: neither a step nor a run misuses anything.
* `Machine.step_ne_malformed`: no step finds parameters lacking.
* `nothing_misused`: this and what it rests on.
-/

namespace IntcodeMachine

namespace Machine

variable {δ : Type}

/-- Moves the program counter past an instruction, with guards. -/
def guardedAdvance (m : Machine δ) (f : Slotted.Fetched) :
    Except Misuse (Except Fault Bool × Machine δ) := do
  let width ← f.width
  match m.pc.inc? width with
  | some pc => return (.ok false, { m with pc })
  | none => return (.error f.site.overflow, m)

/-- Writes a value and moves on, with guards. -/
def guardedStore (m : Machine δ) (f : Slotted.Fetched) (address value : Word) :
    Except Misuse (Except Fault Bool × Machine δ) := do
  match ← (m.memory.guardedWrite address value).run with
  | .error e => return (.error (.address e), m)
  | .ok memory => guardedAdvance { m with memory } f

/-- Carries out the effect of an instruction, with guards. -/
def guardedPerform [Device δ] (m : Machine δ) (f : Slotted.Fetched) :
    Effect → Except Misuse (Except Fault Bool × Machine δ)
  | .store address value => m.guardedStore f address value
  | .deliver address =>
      match Device.deliver m.device with
      | (.ok value, device) => guardedStore { m with device } f address value
      | (.error e, device) => return (.error (.device e), { m with device })
  | .receive value =>
      match Device.receive m.device value with
      | (.ok (), device) => guardedAdvance { m with device } f
      | (.error e, device) => return (.error (.device e), { m with device })
  | .goto target => return (.ok false, { m with pc := target })
  | .proceed => m.guardedAdvance f
  | .rebase base => guardedAdvance { m with base } f
  | .halt => return (.ok true, { m with halted := true })

/-- Carries out an instruction with guards. -/
def guardedCarryOut [Device δ] (m : Machine δ) (f : Slotted.Fetched) :
    Except Misuse (Step δ) := do
  let events ← f.events
  match ← (f.effect m.memory m.base).run with
  | .error fault => return { outcome := .error fault, machine := m, events }
  | .ok effect => do
      let (outcome, machine) ← m.guardedPerform f effect
      return { outcome, machine, events }

/-- Performs one step with guards, unless the machine has stopped. -/
def guardedStep [Device δ] (m : Machine δ) : Except Misuse (Step δ) :=
  if m.halted then return { outcome := .ok true, machine := m, events := [] }
  else do
    match ← (Slotted.fetch m.memory m.pc).run with
    | .error fault => return { outcome := .error fault, machine := m, events := [] }
    | .ok (.unknown raw) => return m.skip raw
    | .ok (.known f) => m.guardedCarryOut f

/-- The machine after a number of steps with guards, each taken whatever came of the one
before. -/
def guardedAfter [Device δ] (m : Machine δ) : Nat → Except Misuse (Machine δ)
  | 0 => return m
  | n + 1 => do
      let reached ← m.guardedAfter n
      let s ← reached.guardedStep
      return s.machine

theorem guardedAdvance_slotted (m : Machine δ) (f : Fetched) :
    m.guardedAdvance f.slotted = .ok (m.advance f) := by
  rw [guardedAdvance, Slotted.Fetched.width_slotted, Guard.ok_bind, advance]
  cases m.pc.inc? f.width <;> rfl

theorem guardedStore_slotted (m : Machine δ) (f : Fetched) (address value : Word) :
    m.guardedStore f.slotted address value = .ok (m.store f address value) := by
  rw [guardedStore, Memory.guardedWrite_eq, Memory.write, store]
  cases m.memory.slot address with
  | error e => rfl
  | ok i => exact guardedAdvance_slotted _ f

theorem guardedPerform_slotted [Device δ] (m : Machine δ) (f : Fetched) (effect : Effect) :
    m.guardedPerform f.slotted effect = .ok (m.perform f effect) := by
  obtain ⟨memory, pc, base, halted, device⟩ := m
  cases effect with
  | store address value => exact guardedStore_slotted _ f address value
  | deliver address =>
      rw [guardedPerform, perform, deliver]
      dsimp only
      rcases Device.deliver device with ⟨_ | value, next⟩
      · rfl
      · exact guardedStore_slotted _ f address value
  | receive value =>
      rw [guardedPerform, perform, receive]
      dsimp only
      rcases Device.receive device value with ⟨_ | ⟨⟩, next⟩
      · rfl
      · exact guardedAdvance_slotted _ f
  | goto target => rfl
  | proceed => exact guardedAdvance_slotted _ f
  | rebase base => exact guardedAdvance_slotted _ f
  | halt => rfl

theorem guardedCarryOut_slotted [Device δ] (m : Machine δ) {f : Fetched}
    (h : f.parameters.length = f.opcode.arity) :
    m.guardedCarryOut f.slotted = .ok (m.carryOut f) := by
  rw [guardedCarryOut, Slotted.Fetched.events_slotted h, Guard.ok_bind,
    Slotted.Fetched.effect_slotted h, Guarded.run_of, Guard.ok_bind, carryOut]
  cases f.effect m.memory m.base with
  | error fault => rfl
  | ok effect =>
      dsimp only
      rw [guardedPerform_slotted]
      rfl

/-- **A step misuses nothing**, whatever the machine, its memory and its registers. -/
theorem guardedStep_eq [Device δ] (m : Machine δ) : m.guardedStep = .ok m.step := by
  rw [guardedStep, step, Slotted.fetch_eq]
  by_cases hhalted : m.halted = true
  · rw [if_pos hhalted, if_pos hhalted]
    rfl
  · rw [if_neg hhalted, if_neg hhalted]
    cases hfetch : Fetch.fetch m.memory m.pc with
    | error fault => rfl
    | ok found =>
        cases found with
        | unknown raw => rfl
        | known f =>
            exact guardedCarryOut_slotted m (Fetch.length_parameters_of_fetch hfetch)

/-- **A run misuses nothing**, however long it is. -/
theorem guardedAfter_eq [Device δ] (m : Machine δ) (n : Nat) :
    m.guardedAfter n = .ok (m.after n) := by
  induction n with
  | zero => rfl
  | succ n ih =>
      rw [guardedAfter, ih, Guard.ok_bind, guardedStep_eq]
      rfl

/-- **No step finds parameters lacking**: an instruction that is evaluated has one for each place
that its operation looks at. -/
theorem step_ne_malformed [Device δ] (m : Machine δ) (pc raw : Word) :
    m.step.outcome ≠ .error (.malformed pc raw) := by
  have hkind : FailsWithin (· ≠ .malformed pc raw) m.step.outcome :=
    .step (fun _ => nofun) (fun _ => nofun) (fun _ => nofun) (fun _ _ => nofun)
      fun _ _ _ _ _ _ _ => nofun
  exact fun h => hkind _ h rfl

end Machine

/-- **Nothing is ever misused.**  A machine takes every step, and any number of them, without
misuse, whatever is in its memory and its registers and whatever its device does; and no step
finds parameters lacking.  Every raw value is decoded, into as many modes as the operation has
parameters, and these are the only ones that are there and the only ones that are asked for.
However many modes are read, wherever memory is written or read, and in whatever order a buffer
takes values in and gives them away, nothing is misused either. -/
theorem nothing_misused :
    (∀ {δ : Type} [Device δ] (m : Machine δ),
      m.guardedStep = .ok m.step ∧ (∀ n, m.guardedAfter n = .ok (m.after n)) ∧
        ∀ pc raw, m.step.outcome ≠ .error (.malformed pc raw)) ∧
    (∀ raw count, Slotted.readModes raw count =
      Guarded.of ((Instruction.modesOf raw count).map fun modes =>
        (Int64.ofInt (Opcode.classOf raw), Slotted.Modes.ofList modes))) ∧
    (∀ raw, Slotted.decode raw =
      Guarded.of ((Instruction.decode raw).map fun i => i.map Instruction.slotted)) ∧
    (∀ raw (i : Slotted.Instruction), Slotted.decode raw = Guarded.of (.ok (some i)) →
      i.modes.count = i.opcode.arity ∧ i.opcode.arity ≤ Opcode.maxArity ∧
        ∀ place, (∃ mode, i.modes.get place = .ok mode) ↔ place < i.opcode.arity) ∧
    (∀ (f : Slotted.Fetched) ask memory base,
      f.effectBy (f.within ask) memory base = f.effectBy ask memory base) ∧
    (∀ (m : Memory) address value,
      m.guardedWrite address value = Guarded.of (m.write address value)) ∧
    (∀ (m : Memory) address, m.read address =
      if address < 0 then .error (.negative address) else .ok (m.cell address.toInt.toNat)) ∧
    (∀ (b : Buffer) requests, b.guardedServe requests = .ok (b.serve requests)) := by
  refine ⟨?_, Slotted.readModes_eq, Slotted.decode_eq, ?_, Slotted.Fetched.effectBy_within,
    Memory.guardedWrite_eq, ?_, Buffer.guardedServe_eq⟩
  · intro δ _ m
    exact ⟨m.guardedStep_eq, m.guardedAfter_eq, m.step_ne_malformed⟩
  · intro raw i h
    exact Slotted.modes_of_decode h
  · intro m address
    rw [Memory.read, Memory.index]
    split <;> rfl

/-- Of a raw value with five mode digits an output takes one, and no second mode is there. -/
theorem nothing_misused_extra_digits :
    ∃ i, Slotted.decode 2111104 = Guarded.of (.ok (some i)) ∧ i.modes.count = 1 ∧
      ¬ ∃ mode, i.modes.get 1 = .ok mode := by
  obtain ⟨_, _, _, hdecoded, _⟩ := nothing_misused
  have hdecode : Slotted.decode 2111104 =
      Guarded.of (.ok (some (Instruction.slotted { opcode := .output, modes := [.immediate] }))) :=
    rfl
  obtain ⟨hcount, _, hplace⟩ := hdecoded 2111104 _ hdecode
  refine ⟨_, hdecode, hcount, ?_⟩
  intro hmode
  have hlt := (hplace 1).mp hmode
  exact absurd hlt (by decide)

end IntcodeMachine
