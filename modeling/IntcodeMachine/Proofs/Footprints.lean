import IntcodeMachine.Proofs.Turn
import IntcodeMachine.Proofs.Writes

/-!
# What a step writes

A step makes at most one write, and decides about it before memory changes.  So on another
memory, on which the machine is about to do the same, the step comes to the same and makes the
same write there.  A run makes a history of writes, and on another memory the same history.

* `Machine.written`, `Machine.writes`: the write of a step, and the writes of a run.
* `Machine.step_withMemory`: a step on another memory.
* `Machine.after_withMemory`: a run on another memory.
* `Machine.memory_after`: a run changes memory by its writes only.
-/

namespace IntcodeMachine

namespace Memory

/-- Two memories that are no longer than the limit which both have. -/
structure SameReach (m k : Memory) : Prop where
  limit_eq : k.limit = m.limit
  size_le : m.size ≤ m.limit
  other_size_le : k.size ≤ m.limit

variable {m k : Memory}

/-- Memories of the same reach take a write at the same index, or refuse it for the same reason. -/
theorem SameReach.slot_eq (h : m.SameReach k) (address : Word) :
    k.slot address = m.slot address := by
  obtain ⟨hlimit, hsize, hother⟩ := h
  unfold slot
  cases index address with
  | error e => rfl
  | ok i =>
      have hroom : (i < k.size ∨ i < k.limit) ↔ (i < m.size ∨ i < m.limit) := by omega
      simp only [hroom]

theorem SameReach.history (h : m.SameReach k) (writes : List Write) :
    (m.history writes).SameReach (k.history writes) where
  limit_eq := by simp only [limit_history, h.limit_eq]
  size_le := by
    rw [limit_history]
    exact size_history_le h.size_le writes
  other_size_le := by
    rw [limit_history, ← h.limit_eq]
    exact size_history_le (h.limit_eq ▸ h.other_size_le) writes

theorem attempt_of_slot {w : Write} {i : Nat} (h : m.slot w.address = .ok i) :
    m.attempt w = m.put i w.value := by
  rw [attempt, write, h]

theorem attempt_of_slot_error {w : Write} {e : AddressError} (h : m.slot w.address = .error e) :
    m.attempt w = m := by
  rw [attempt, write, h]

theorem history_append (m : Memory) (earlier later : List Write) :
    m.history (earlier ++ later) = (m.history earlier).history later :=
  List.foldl_append

end Memory

/-- The write that an effect asks for.  None if it asks for none, or if the device has no value
for it. -/
def Effect.write? {δ : Type} [Device δ] (device : δ) : Effect → Option Write
  | .store address value => some { address, value }
  | .deliver address =>
      match (Device.deliver device).1 with
      | .ok value => some { address, value }
      | .error _ => none
  | _ => none

namespace Machine

variable {δ : Type}

/-- The machine with another memory. -/
def withMemory (m : Machine δ) (memory : Memory) : Machine δ := { m with memory }

@[simp]
theorem memory_withMemory (m : Machine δ) (memory : Memory) :
    (m.withMemory memory).memory = memory := rfl

theorem advance_withMemory (m : Machine δ) (other : Memory) (f : Fetched) :
    (m.withMemory other).advance f = ((m.advance f).1, (m.advance f).2.withMemory other) := by
  simp only [advance, withMemory]
  cases m.pc.inc? f.width <;> rfl

variable {m : Machine δ} {other : Memory}

theorem store_withMemory (hslot : ∀ address, other.slot address = m.memory.slot address)
    (f : Fetched) (address value : Word) :
    (m.withMemory other).store f address value =
      ((m.store f address value).1,
        (m.store f address value).2.withMemory (other.attempt { address, value })) := by
  cases hs : m.memory.slot address with
  | error e =>
      have hs' : other.slot address = .error e := (hslot address).trans hs
      rw [store_of_slot_error f value hs,
        store_of_slot_error (m := m.withMemory other) f value hs',
        Memory.attempt_of_slot_error (w := { address, value }) hs']
  | ok i =>
      have hs' : other.slot address = .ok i := (hslot address).trans hs
      rw [Memory.attempt_of_slot (w := { address, value }) hs', store, store, memory_withMemory, hs,
        hs']
      exact advance_withMemory { m with memory := m.memory.put i value } (other.put i value) f

/-- A write that memory refuses makes no difference. -/
theorem history_filter (hslot : ∀ address, other.slot address = m.memory.slot address)
    (wanted : Option Write) :
    other.history (wanted.filter fun w => (m.memory.slot w.address).isOk).toList =
      other.history wanted.toList := by
  cases wanted with
  | none => rfl
  | some w =>
      cases hs : m.memory.slot w.address with
      | ok i => simp [Option.filter, hs, Except.isOk, Except.toBool]
      | error e =>
          have hrefused : other.attempt w = other :=
            Memory.attempt_of_slot_error ((hslot w.address).trans hs)
          simp [Option.filter, hs, Except.isOk, Except.toBool, Memory.history, hrefused]

variable [Device δ]

/-- An effect on another memory comes to the same and asks for the same write. -/
theorem perform_withMemory (hslot : ∀ address, other.slot address = m.memory.slot address)
    (f : Fetched) (effect : Effect) :
    (m.withMemory other).perform f effect =
      ((m.perform f effect).1,
        (m.perform f effect).2.withMemory (other.history (effect.write? m.device).toList)) := by
  cases effect with
  | store address value => exact store_withMemory hslot f address value
  | deliver address =>
      obtain ⟨memory, pc, base, halted, device⟩ := m
      simp only [perform, deliver, withMemory, Effect.write?]
      rcases Device.deliver device with ⟨e | value, device⟩
      · rfl
      · exact store_withMemory (m := ⟨memory, pc, base, halted, device⟩) hslot f address value
  | receive value =>
      obtain ⟨memory, pc, base, halted, device⟩ := m
      simp only [perform, receive, withMemory, Effect.write?]
      rcases Device.receive device value with ⟨e | _, device⟩
      · rfl
      · exact advance_withMemory ⟨memory, pc, base, halted, device⟩ other f
  | goto target => rfl
  | proceed => exact advance_withMemory m other f
  | rebase base => exact advance_withMemory { m with base } other f
  | halt => rfl

/-- The write that a step makes, if it makes one. -/
def written (m : Machine δ) : Option Write :=
  match m.turn with
  | .act _ effect => (effect.write? m.device).filter fun w => (m.memory.slot w.address).isOk
  | _ => none

/-- The writes that the first steps make, in order. -/
def writes (m : Machine δ) (n : Nat) : List Write :=
  (List.range n).filterMap fun k => (m.after k).written

/-- **A step on another memory.**  If the machine is about to do the same there, and writes take
place at the same indices, the step comes to the same, reports the same and makes the same write. -/
theorem step_withMemory (hslot : ∀ address, other.slot address = m.memory.slot address)
    (hturn : (m.withMemory other).turn = m.turn) :
    (m.withMemory other).step = { m.step with
        machine := m.step.machine.withMemory (other.history m.written.toList) } ∧
      (m.withMemory other).written = m.written := by
  have hsame : (m.withMemory other).written = m.written := by
    simp only [written, hturn]
    cases m.turn with
    | act f effect =>
        have hslot' : ∀ address, (m.withMemory other).memory.slot address =
            m.memory.slot address := hslot
        simp only [hslot']
        rfl
    | rest | refuse _ _ | skip _ => rfl
  refine ⟨?_, hsame⟩
  rw [step_eq_take, step_eq_take, hturn, written]
  cases m.turn with
  | rest => rfl
  | refuse fault events => rfl
  | skip raw =>
      simp only [take, skip, withMemory]
      cases m.pc.inc? 1 <;> rfl
  | act f effect =>
      simp only [take, perform_withMemory hslot, history_filter hslot]

/-- A step changes memory by its write only. -/
theorem memory_step (m : Machine δ) :
    m.step.machine.memory = m.memory.history m.written.toList := by
  have hstep : (m.withMemory m.memory).step = _ := (step_withMemory (fun _ => rfl) rfl).1
  exact congrArg (fun s => s.machine.memory) hstep

theorem writes_succ (m : Machine δ) (n : Nat) :
    m.writes (n + 1) = m.writes n ++ (m.after n).written.toList := by
  rw [writes, List.range_succ, List.filterMap_append]
  cases h : (m.after n).written <;> simp [writes, h]

/-- **A run changes memory by its writes only.** -/
theorem memory_after (m : Machine δ) (n : Nat) :
    (m.after n).memory = m.memory.history (m.writes n) := by
  induction n with
  | zero => rfl
  | succ n ih => rw [after_succ, memory_step, ih, writes_succ, Memory.history_append]

/-- **A run on another memory.**  If at each step the machine is about to do the same there, all
steps come to the same and make the same writes. -/
theorem after_withMemory (h : m.memory.SameReach other) {n : Nat}
    (hturns : ∀ k, k < n →
      ((m.after k).withMemory (other.history (m.writes k))).turn = (m.after k).turn) :
    (m.withMemory other).after n = (m.after n).withMemory (other.history (m.writes n)) := by
  induction n with
  | zero => rfl
  | succ n ih =>
      have hreach := (h.history (m.writes n)).slot_eq
      rw [← memory_after] at hreach
      obtain ⟨hstep, _⟩ := step_withMemory hreach (hturns n (Nat.lt_succ_self n))
      rw [after_succ, ih fun k hk => hturns k (Nat.lt_succ_of_lt hk), hstep, writes_succ,
        Memory.history_append]
      rfl

theorem outcomeAt_withMemory (h : m.memory.SameReach other) {n : Nat}
    (hturns : ∀ k, k ≤ n →
      ((m.after k).withMemory (other.history (m.writes k))).turn = (m.after k).turn) :
    (m.withMemory other).outcomeAt n = m.outcomeAt n := by
  have hreach := (h.history (m.writes n)).slot_eq
  rw [← memory_after] at hreach
  obtain ⟨hstep, _⟩ := step_withMemory hreach (hturns n (Nat.le_refl n))
  rw [outcomeAt, after_withMemory h fun k hk => hturns k (Nat.le_of_lt hk), hstep]
  rfl

end Machine

end IntcodeMachine
