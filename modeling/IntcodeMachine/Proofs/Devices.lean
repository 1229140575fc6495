import IntcodeMachine.Proofs.Calls
import IntcodeMachine.Proofs.FaultKinds

/-!
# Machines on different devices

A step finds out from memory and registers what is to be done; only then is a device asked, and
at most once.  So two devices that answer alike drive machines alike, step by step.  To answer
alike is to give the same values and to fail together; the failures may have different names.

The first use is to keep a record of what a device is asked for: a device with a record answers
like the device itself.

* `Machine.ofInstruction_of_refuse`: what is refused before a device is asked is a fault of the
  instruction.
* `Machine.Alike.step_of_call`: one step of two machines whose devices answer its call alike.
* `Machine.Alike.step`: one step of two machines on devices that answer alike.
* `Machine.Alike.after`: the same for any number of steps.
* `Recorder.answersAlike`: a record makes no difference.
-/

namespace IntcodeMachine

/-- The fault under another name for what the device reported. -/
def Fault.rename (name : DeviceError → DeviceError) : Fault → Fault
  | .device cause => .device (name cause)
  | .address cause => .address cause
  | .immediateDestination pc raw => .immediateDestination pc raw
  | .invalidMode pc raw digit => .invalidMode pc raw digit
  | .overflow pc raw => .overflow pc raw
  | .malformed pc raw => .malformed pc raw

theorem Fault.mapError_rename_id {α : Type} (x : Except Fault α) :
    x.mapError (Fault.rename id) = x := by
  cases x with
  | error fault => cases fault <;> rfl
  | ok a => rfl

/-- A fault that an instruction with all its parameters may have before any device is asked. -/
def Fault.OfInstruction : Fault → Prop
  | .device _ | .malformed _ _ => False
  | .address _ | .immediateDestination _ _ | .invalidMode _ _ _ | .overflow _ _ => True

/-- A computation that asks no device and finds no parameter lacking, and so reports neither. -/
def Silent {α : Type} (x : Except Fault α) : Prop :=
  ∀ fault, x = .error fault → fault.OfInstruction

namespace Silent

theorem effect {f : Fetched} (h : f.parameters.length = f.opcode.arity) (memory : Memory)
    (base : Word) : Silent (f.effect memory base) := by
  have hkind : FailsWithin Fault.OfInstruction (f.effect memory base) :=
    .effect (fun _ => trivial) h trivial (fun _ _ _ _ => trivial) memory base
  exact hkind

theorem fetch (memory : Memory) (pc : Word) : Silent (Fetch.fetch memory pc) := by
  have hkind : FailsWithin Fault.OfInstruction (Fetch.fetch memory pc) :=
    .fetch (fun _ => trivial) (fun _ => trivial) (fun _ _ => trivial)
  exact hkind

end Silent

/-- What is refused before a device is asked is a fault of the instruction. -/
theorem Machine.ofInstruction_of_refuse {δ : Type} {m : Machine δ} {fault : Fault}
    {events : List Event} (h : m.turn = .refuse fault events) : fault.OfInstruction := by
  have harises := m.arises_turn
  rw [h] at harises
  cases harises with
  | unfetched _ hfetch => exact Silent.fetch m.memory m.pc fault hfetch
  | ineffective _ hfetch heffect =>
      have hlength := Fetch.length_parameters_of_fetch hfetch
      exact Silent.effect hlength m.memory m.base fault heffect

/-- A fault of an instruction has the same name on any device. -/
theorem Fault.OfInstruction.rename {fault : Fault} (h : fault.OfInstruction)
    (name : DeviceError → DeviceError) : fault.rename name = fault := by
  cases fault with
  | device cause => exact h.elim
  | address _ | immediateDestination _ _ | invalidMode _ _ _ | overflow _ _ | malformed _ _ => rfl

variable {δ ε : Type}

/-- Two devices answer alike as long as they are related, and stay so: they give the same values
and fail together, the first one under another name than the second one. -/
structure AnswersAlike [Device δ] [Device ε] (related : δ → ε → Prop)
    (name : DeviceError → DeviceError) : Prop where
  deliver : ∀ {d : δ} {e : ε}, related d e →
    (Device.deliver d).1 = (Device.deliver e).1.mapError name ∧
      related (Device.deliver d).2 (Device.deliver e).2
  receive : ∀ {d : δ} {e : ε} (value : Word), related d e →
    (Device.receive d value).1 = (Device.receive e value).1.mapError name ∧
      related (Device.receive d value).2 (Device.receive e value).2

section Answers

variable [Device δ] [Device ε] {related : δ → ε → Prop} {name : DeviceError → DeviceError}

/-- Two devices answer one call alike and are related after it. -/
def Call.AnsweredAlike (related : δ → ε → Prop) (name : DeviceError → DeviceError) (d : δ)
    (e : ε) : Call → Prop
  | .deliver => (Device.deliver d).1 = (Device.deliver e).1.mapError name ∧
      related (Device.deliver d).2 (Device.deliver e).2
  | .receive value => (Device.receive d value).1 = (Device.receive e value).1.mapError name ∧
      related (Device.receive d value).2 (Device.receive e value).2

theorem AnswersAlike.answeredAlike (hdevices : AnswersAlike related name) {d : δ} {e : ε}
    (h : related d e) (call : Call) : call.AnsweredAlike related name d e := by
  cases call with
  | deliver => exact hdevices.deliver h
  | receive value => exact hdevices.receive value h

end Answers

namespace Machine

/-- Two machines in the same state, on devices that are related. -/
structure Alike (related : δ → ε → Prop) (m : Machine δ) (k : Machine ε) : Prop where
  memory_eq : m.memory = k.memory
  pc_eq : m.pc = k.pc
  base_eq : m.base = k.base
  halted_eq : m.halted = k.halted
  device : related m.device k.device

/-- The two machines come to the same and end up in the same state. -/
structure SameEnd (related : δ → ε → Prop) (name : DeviceError → DeviceError)
    (r : Except Fault Bool × Machine δ) (s : Except Fault Bool × Machine ε) : Prop where
  outcome_eq : r.1 = s.1.mapError (Fault.rename name)
  alike : Alike related r.2 s.2

variable {related : δ → ε → Prop} {name : DeviceError → DeviceError} {m : Machine δ}
  {k : Machine ε}

namespace Alike

theorem of_related {memory : Memory} {pc base : Word} {halted : Bool} {d : δ} {e : ε}
    (h : related d e) :
    Alike related ⟨memory, pc, base, halted, d⟩ ⟨memory, pc, base, halted, e⟩ :=
  ⟨rfl, rfl, rfl, rfl, h⟩

theorem turn_eq (h : Alike related m k) : m.turn = k.turn := by
  unfold turn
  rw [h.memory_eq, h.pc_eq, h.base_eq, h.halted_eq]

theorem advance (h : Alike related m k) (f : Fetched) :
    SameEnd related name (m.advance f) (k.advance f) := by
  unfold Machine.advance
  rw [h.pc_eq]
  cases k.pc.inc? f.width with
  | none => exact ⟨rfl, h⟩
  | some next => exact ⟨rfl, h.memory_eq, rfl, h.base_eq, h.halted_eq, h.device⟩

theorem store (h : Alike related m k) (f : Fetched) (address value : Word) :
    SameEnd related name (m.store f address value) (k.store f address value) := by
  obtain ⟨memory, pc, base, halted, d⟩ := m
  obtain ⟨memory', pc', base', halted', e⟩ := k
  obtain ⟨rfl, rfl, rfl, rfl, hdevice⟩ := h
  simp only [Machine.store]
  cases memory.slot address with
  | error e => exact ⟨rfl, of_related hdevice⟩
  | ok i =>
      have hput : Alike related ⟨memory.put i value, pc, base, halted, d⟩
          ⟨memory.put i value, pc, base, halted, e⟩ := of_related hdevice
      exact hput.advance f

variable [Device δ] [Device ε]

theorem deliver (h : Alike related m k)
    (hanswer : Call.deliver.AnsweredAlike related name m.device k.device) (f : Fetched)
    (address : Word) : SameEnd related name (m.deliver f address) (k.deliver f address) := by
  obtain ⟨memory, pc, base, halted, d⟩ := m
  obtain ⟨memory', pc', base', halted', e⟩ := k
  obtain ⟨rfl, rfl, rfl, rfl, _⟩ := h
  obtain ⟨houtcome, hrelated⟩ := hanswer
  simp only [Machine.deliver]
  rcases hd : Device.deliver d with ⟨outcome, d'⟩
  rcases he : Device.deliver e with ⟨outcome', e'⟩
  rw [hd, he] at houtcome hrelated
  obtain rfl : outcome = outcome'.mapError name := houtcome
  cases outcome' with
  | error cause => exact ⟨rfl, of_related hrelated⟩
  | ok value =>
      have hnext : Alike related ⟨memory, pc, base, halted, d'⟩ ⟨memory, pc, base, halted, e'⟩ :=
        of_related hrelated
      exact hnext.store f address value

theorem receive (h : Alike related m k) {value : Word}
    (hanswer : (Call.receive value).AnsweredAlike related name m.device k.device)
    (f : Fetched) : SameEnd related name (m.receive f value) (k.receive f value) := by
  obtain ⟨memory, pc, base, halted, d⟩ := m
  obtain ⟨memory', pc', base', halted', e⟩ := k
  obtain ⟨rfl, rfl, rfl, rfl, _⟩ := h
  obtain ⟨houtcome, hrelated⟩ := hanswer
  simp only [Machine.receive]
  rcases hd : Device.receive d value with ⟨outcome, d'⟩
  rcases he : Device.receive e value with ⟨outcome', e'⟩
  rw [hd, he] at houtcome hrelated
  obtain rfl : outcome = outcome'.mapError name := houtcome
  cases outcome' with
  | error cause => exact ⟨rfl, of_related hrelated⟩
  | ok _ =>
      have hnext : Alike related ⟨memory, pc, base, halted, d'⟩ ⟨memory, pc, base, halted, e'⟩ :=
        of_related hrelated
      exact hnext.advance f

theorem perform (h : Alike related m k) {f : Fetched} {effect : Effect}
    (hanswer : ∀ call, (Turn.act f effect).call? = some call →
      call.AnsweredAlike related name m.device k.device) :
    SameEnd related name (m.perform f effect) (k.perform f effect) := by
  cases effect with
  | store address value => exact h.store f address value
  | deliver address => exact h.deliver (hanswer .deliver rfl) f address
  | receive value => exact h.receive (hanswer (.receive value) rfl) f
  | goto target => exact ⟨rfl, h.memory_eq, rfl, h.base_eq, h.halted_eq, h.device⟩
  | proceed => exact h.advance f
  | rebase base =>
      have hbase : Alike related { m with base } { k with base } :=
        ⟨h.memory_eq, h.pc_eq, rfl, h.halted_eq, h.device⟩
      exact hbase.advance f
  | halt => exact ⟨rfl, h.memory_eq, h.pc_eq, h.base_eq, rfl, h.device⟩

/-- **One step of two machines whose devices answer its call alike.** -/
theorem step_of_call (h : Alike related m k)
    (hanswer : ∀ call, k.turn.call? = some call →
      call.AnsweredAlike related name m.device k.device) :
    m.step.outcome = k.step.outcome.mapError (Fault.rename name) ∧
      Alike related m.step.machine k.step.machine := by
  rw [step_eq_take, step_eq_take k, h.turn_eq]
  cases hturn : k.turn with
  | rest => exact ⟨rfl, h⟩
  | refuse fault events =>
      have hfault := (ofInstruction_of_refuse hturn).rename name
      exact ⟨congrArg Except.error hfault.symm, h⟩
  | skip raw =>
      simp only [take, skip, h.pc_eq]
      cases k.pc.inc? 1 with
      | none => exact ⟨rfl, h⟩
      | some next => exact ⟨rfl, h.memory_eq, rfl, h.base_eq, h.halted_eq, h.device⟩
  | act f effect =>
      rw [hturn] at hanswer
      have hends := h.perform hanswer
      exact ⟨hends.outcome_eq, hends.alike⟩

/-- **One step of two machines on devices that answer alike.** -/
theorem step (hdevices : AnswersAlike related name) (h : Alike related m k) :
    m.step.outcome = k.step.outcome.mapError (Fault.rename name) ∧
      Alike related m.step.machine k.step.machine :=
  h.step_of_call fun call _ => hdevices.answeredAlike h.device call

/-- **Any number of steps of two machines on devices that answer alike.** -/
theorem after (hdevices : AnswersAlike related name) (h : Alike related m k) (n : Nat) :
    Alike related (m.after n) (k.after n) := by
  induction n with
  | zero => exact h
  | succ n ih => exact (ih.step hdevices).2

theorem outcomeAt (hdevices : AnswersAlike related name) (h : Alike related m k) (n : Nat) :
    m.outcomeAt n = (k.outcomeAt n).mapError (Fault.rename name) :=
  ((h.after hdevices n).step hdevices).1

end Alike

end Machine

/-- The output values among the calls. -/
def Call.received : List Call → List Word
  | [] => []
  | .deliver :: rest => received rest
  | .receive value :: rest => value :: received rest

theorem Call.received_append (first second : List Call) :
    received (first ++ second) = received first ++ received second := by
  induction first with
  | nil => rfl
  | cons call rest ih =>
      cases call with
      | deliver => exact ih
      | receive value => exact congrArg (value :: ·) ih

/-- A device with a record of all that it was asked for, in order, whatever it answered. -/
structure Recorder (δ : Type) where
  device : δ
  calls : List Call := []

namespace Recorder

variable [Device δ]

instance : Device (Recorder δ) where
  deliver r := ((Device.deliver r.device).1,
    { device := (Device.deliver r.device).2, calls := r.calls ++ [.deliver] })
  receive r value := ((Device.receive r.device value).1,
    { device := (Device.receive r.device value).2, calls := r.calls ++ [.receive value] })

/-- A record makes no difference to what is answered. -/
theorem answersAlike : AnswersAlike (fun (r : Recorder δ) (d : δ) => r.device = d) id where
  deliver := by
    intro r d h
    subst h
    refine ⟨?_, rfl⟩
    change (Device.deliver r.device).1 = _
    cases (Device.deliver r.device).1 <;> rfl
  receive := by
    intro r d value h
    subst h
    refine ⟨?_, rfl⟩
    change (Device.receive r.device value).1 = _
    cases (Device.receive r.device value).1 <;> rfl

end Recorder

end IntcodeMachine
