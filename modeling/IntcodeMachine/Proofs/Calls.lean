import IntcodeMachine.Proofs.Turn

/-!
# Calls of a device

A step asks its device for something at most once, and what it asks for is known before: it depends
on memory and registers only.  If the device refuses, the step fails and nothing else happens; if it
does not, the device is left alone from there on.

* `Machine.step_device`: after a step the device is as the call has left it.
* `Machine.step_of_refused`: a step whose call is refused fails and changes the device only.
-/

namespace IntcodeMachine

/-- What a device is asked for. -/
inductive Call where
  /-- An input value. -/
  | deliver
  /-- To accept an output value. -/
  | receive (value : Word)
  deriving DecidableEq, Repr

namespace Call

variable {δ : Type} [Device δ]

/-- Whether a device does what a call asks for, or why it does not. -/
def answer (d : δ) : Call → Except DeviceError Unit
  | .deliver => (Device.deliver d).1.map fun _ => ()
  | .receive value => (Device.receive d value).1

/-- The device as a call leaves it. -/
def deviceAfter (d : δ) : Call → δ
  | .deliver => (Device.deliver d).2
  | .receive value => (Device.receive d value).2

end Call

/-- What the device is asked for in a turn, if for anything. -/
def Turn.call? : Turn → Option Call
  | .act _ (.deliver _) => some .deliver
  | .act _ (.receive value) => some (.receive value)
  | _ => none

/-- Only two effects ask for something. -/
theorem Turn.call?_eq_some {turn : Turn} {call : Call} (h : turn.call? = some call) :
    ∃ f, (∃ address, turn = .act f (.deliver address) ∧ call = .deliver) ∨
      ∃ value, turn = .act f (.receive value) ∧ call = .receive value := by
  unfold call? at h
  split at h
  · next f address =>
    cases h
    exact ⟨f, Or.inl ⟨address, rfl, rfl⟩⟩
  · next f value =>
    cases h
    exact ⟨f, Or.inr ⟨value, rfl, rfl⟩⟩
  · cases h

namespace Machine

variable {δ : Type}

theorem advance_device (m : Machine δ) (f : Fetched) : (m.advance f).2.device = m.device := by
  unfold advance
  cases m.pc.inc? f.width <;> rfl

theorem store_device (m : Machine δ) (f : Fetched) (address value : Word) :
    (m.store f address value).2.device = m.device := by
  cases hslot : m.memory.slot address with
  | error e => rw [store_of_slot_error f value hslot]
  | ok i =>
      rw [store, hslot]
      exact advance_device { m with memory := m.memory.put i value } f

variable [Device δ]

/-- **After a step the device is as the call has left it.** -/
theorem step_device (m : Machine δ) :
    m.step.machine.device = m.turn.call?.elim m.device fun call => call.deviceAfter m.device := by
  rw [step_eq_take]
  cases m.turn with
  | rest => rfl
  | refuse fault events => rfl
  | skip raw =>
      rw [take, skip]
      cases m.pc.inc? 1 <;> rfl
  | act f effect =>
      change (m.perform f effect).2.device = _
      obtain ⟨memory, pc, base, halted, d⟩ := m
      cases effect with
      | store address value => exact store_device _ f address value
      | deliver address =>
          simp only [perform, deliver, Turn.call?, Option.elim, Call.deviceAfter]
          rcases Device.deliver d with ⟨e | value, d'⟩
          · rfl
          · exact store_device _ f address value
      | receive value =>
          simp only [perform, receive, Turn.call?, Option.elim, Call.deviceAfter]
          rcases Device.receive d value with ⟨e | _, d'⟩
          · rfl
          · exact advance_device _ f
      | goto target => rfl
      | proceed => exact advance_device _ f
      | rebase base => exact advance_device _ f
      | halt => rfl

/-- **A step whose call is refused** fails with what the device reports, and nothing but the device
changes. -/
theorem step_of_refused {m : Machine δ} {call : Call} {e : DeviceError}
    (hcall : m.turn.call? = some call) (h : call.answer m.device = .error e) :
    m.step.outcome = .error (.device e) ∧
      m.step.machine = { m with device := call.deviceAfter m.device } := by
  rw [step_eq_take]
  obtain ⟨memory, pc, base, halted, d⟩ := m
  obtain ⟨f, ⟨address, hturn, rfl⟩ | ⟨value, hturn, rfl⟩⟩ := Turn.call?_eq_some hcall
  · simp only [hturn, take, perform, deliver, Call.answer, Call.deviceAfter] at h ⊢
    rcases hd : Device.deliver d with ⟨cause | value, d'⟩
    · rw [hd] at h
      cases h
      exact ⟨rfl, rfl⟩
    · rw [hd] at h
      cases h
  · simp only [hturn, take, perform, receive, Call.answer, Call.deviceAfter] at h ⊢
    rcases hd : Device.receive d value with ⟨cause | _, d'⟩
    · rw [hd] at h
      cases h
      exact ⟨rfl, rfl⟩
    · rw [hd] at h
      cases h

end Machine

end IntcodeMachine
