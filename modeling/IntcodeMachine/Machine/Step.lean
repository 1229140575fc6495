import IntcodeMachine.Machine.Effect
import IntcodeMachine.Register

/-!
# Steps of a machine

A machine is a memory, a program counter, a relative base and a device.  One step skips a
cell that holds no instruction, or carries out the instruction at the program counter.
Except for jumps and the stop, the program counter then moves past the instruction.

A step that fails leaves the program counter where it is; so the instruction at fault is
tried again by the next step.

* `Machine.step_of_halted`: a machine that has stopped stays as it is and reports nothing.
* `Machine.step_of_fetch_error`: if nothing can be fetched, nothing changes.
-/

namespace IntcodeMachine

/-- A machine with its device. -/
structure Machine (δ : Type) where
  memory : Memory
  /-- The program counter: the address of the next instruction. -/
  pc : Register := 0
  /-- The relative base, from which relative parameters are counted. -/
  base : Register := 0
  /-- Whether the machine has stopped. -/
  halted : Bool := false
  device : δ
  deriving DecidableEq, Repr

/-- What a step comes to. -/
structure Step (δ : Type) where
  /-- Whether the machine has stopped, or why the step failed. -/
  outcome : Except Fault Bool
  /-- The machine after the step. -/
  machine : Machine δ
  /-- What was reported during the step, in order. -/
  events : List Event

namespace Machine

variable {δ : Type}

/-- Moves the program counter past an instruction that has taken effect. -/
def advance (m : Machine δ) (f : Fetched) : Except Fault Bool × Machine δ :=
  match m.pc.inc? f.width with
  | some pc => (.ok false, { m with pc })
  | none => (.error f.overflow, m)

/-- Writes a value and moves on. -/
def store (m : Machine δ) (f : Fetched) (address value : Word) :
    Except Fault Bool × Machine δ :=
  match m.memory.slot address with
  | .error e => (.error (.address e), m)
  | .ok i =>
      let { memory, pc, base, halted, device } := m
      advance { memory := memory.put i value, pc, base, halted, device } f

/-- Takes an input value, writes it and moves on.  If it cannot be written it is lost. -/
def deliver [Device δ] (m : Machine δ) (f : Fetched) (address : Word) :
    Except Fault Bool × Machine δ :=
  let { memory, pc, base, halted, device } := m
  match Device.deliver device with
  | (.ok value, device) => store { memory, pc, base, halted, device } f address value
  | (.error e, device) => (.error (.device e), { memory, pc, base, halted, device })

/-- Hands a value to the output and moves on. -/
def receive [Device δ] (m : Machine δ) (f : Fetched) (value : Word) :
    Except Fault Bool × Machine δ :=
  let { memory, pc, base, halted, device } := m
  match Device.receive device value with
  | (.ok (), device) => advance { memory, pc, base, halted, device } f
  | (.error e, device) => (.error (.device e), { memory, pc, base, halted, device })

/-- Carries out the effect of an instruction. -/
def perform [Device δ] (m : Machine δ) (f : Fetched) : Effect → Except Fault Bool × Machine δ
  | .store address value => m.store f address value
  | .deliver address => m.deliver f address
  | .receive value => m.receive f value
  | .goto target => (.ok false, { m with pc := target })
  | .proceed => m.advance f
  | .rebase base => advance { m with base } f
  | .halt => (.ok true, { m with halted := true })

/-- Skips a cell that holds no instruction. -/
def skip (m : Machine δ) (raw : Word) : Step δ :=
  let events := [.unknownOpcode m.pc raw]
  match m.pc.inc? 1 with
  | some pc => { outcome := .ok false, machine := { m with pc }, events }
  | none => { outcome := .error (.overflow m.pc raw), machine := m, events }

/-- Carries out an instruction. -/
def carryOut [Device δ] (m : Machine δ) (f : Fetched) : Step δ :=
  match f.effect m.memory m.base with
  | .error fault => { outcome := .error fault, machine := m, events := f.events }
  | .ok effect =>
      let (outcome, machine) := m.perform f effect
      { outcome, machine, events := f.events }

/-- Performs one step, unless the machine has stopped. -/
def step [Device δ] (m : Machine δ) : Step δ :=
  if m.halted then { outcome := .ok true, machine := m, events := [] }
  else
    match Fetch.fetch m.memory m.pc with
    | .error fault => { outcome := .error fault, machine := m, events := [] }
    | .ok (.unknown raw) => m.skip raw
    | .ok (.known f) => m.carryOut f

variable [Device δ] {m : Machine δ}

/-- A machine that has stopped stays as it is and reports nothing. -/
theorem step_of_halted (h : m.halted = true) :
    m.step = { outcome := .ok true, machine := m, events := [] } := by
  rw [step, if_pos h]

/-- If nothing can be fetched, nothing changes. -/
theorem step_of_fetch_error {fault : Fault} (hrun : m.halted = false)
    (h : Fetch.fetch m.memory m.pc = .error fault) :
    m.step = { outcome := .error fault, machine := m, events := [] } := by
  simp [step, hrun, h]

theorem step_of_unknown {raw : Word} (hrun : m.halted = false)
    (h : Fetch.fetch m.memory m.pc = .ok (.unknown raw)) : m.step = m.skip raw := by
  simp [step, hrun, h]

theorem step_of_known {f : Fetched} (hrun : m.halted = false)
    (h : Fetch.fetch m.memory m.pc = .ok (.known f)) : m.step = m.carryOut f := by
  simp [step, hrun, h]

end Machine

end IntcodeMachine
