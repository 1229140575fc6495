import IntcodeMachine.Proofs.Turn

/-!
# What runs keep

A step writes at most one cell, and only one that can be written.  So a memory that can be held
stays one, however long the run.  A run that goes on until the machine stops or a step fails
takes the same steps as `Machine.after`, all but the last of them successful.

* `Machine.step_memory`: the write footprint of a step, on any device.
* `Machine.bounded_after`: the memory can be held in every state of a run.
* `Machine.traces_run`: a run is made of steps.
* `Machine.run_of_ended`, `Machine.run_succ`: how long a run goes on.
-/

namespace IntcodeMachine

/-- A memory that can be held, whatever is written to it. -/
structure Memory.Bounded (m : Memory) : Prop where
  size_lt : m.size < Memory.capacity
  limit_lt : m.limit < Memory.capacity

/-- Growth stops below the limit, so a write keeps a memory that can be held. -/
theorem Memory.Bounded.put {m : Memory} (h : m.Bounded) {address : Word} {i : Nat}
    (hslot : m.slot address = .ok i) (value : Word) : (m.put i value).Bounded := by
  have hsize := h.size_lt
  have hlimit := h.limit_lt
  obtain ⟨_, hroom⟩ := Memory.slot_eq_ok_iff.mp hslot
  refine ⟨?_, ?_⟩
  · rw [Memory.size_put]
    omega
  · rwa [Memory.limit_put]

namespace Machine

variable {δ : Type}

theorem advance_memory (m : Machine δ) (f : Fetched) : (m.advance f).2.memory = m.memory := by
  unfold advance
  cases m.pc.inc? f.width <;> rfl

/-- Memory after at most one write. -/
def WritesOnce (before after : Memory) : Prop :=
  after = before ∨ ∃ (address value : Word) (i : Nat),
    before.slot address = .ok i ∧ after = before.put i value

theorem store_memory (m : Machine δ) (f : Fetched) (address value : Word) :
    WritesOnce m.memory (m.store f address value).2.memory := by
  cases hslot : m.memory.slot address with
  | error e =>
      rw [store_of_slot_error f value hslot]
      exact Or.inl rfl
  | ok i =>
      refine Or.inr ⟨address, value, i, hslot, ?_⟩
      rw [store, hslot]
      exact advance_memory _ f

variable [Device δ]

theorem perform_memory (m : Machine δ) (f : Fetched) (effect : Effect) :
    WritesOnce m.memory (m.perform f effect).2.memory := by
  cases effect with
  | store address value => exact store_memory m f address value
  | deliver address =>
      rw [perform, deliver]
      rcases Device.deliver m.device with ⟨e | value, device⟩
      · exact Or.inl rfl
      · exact store_memory { m with device } f address value
  | receive value =>
      rw [perform, receive]
      rcases Device.receive m.device value with ⟨e | _, device⟩
      · exact Or.inl rfl
      · exact Or.inl (advance_memory { m with device } f)
  | goto target => exact Or.inl rfl
  | proceed => exact Or.inl (advance_memory m f)
  | rebase base => exact Or.inl (advance_memory { m with base } f)
  | halt => exact Or.inl rfl

/-- **Write footprint.**  A step writes at most one cell, and only one that can be written. -/
theorem step_memory (m : Machine δ) : WritesOnce m.memory m.step.machine.memory := by
  rw [step_eq_take]
  cases m.turn with
  | rest => exact Or.inl rfl
  | refuse fault events => exact Or.inl rfl
  | skip raw =>
      rw [take, skip]
      cases m.pc.inc? 1 <;> exact Or.inl rfl
  | act f effect => exact perform_memory m f effect

theorem bounded_step {m : Machine δ} (h : m.memory.Bounded) : m.step.machine.memory.Bounded := by
  rcases step_memory m with hsame | ⟨address, value, i, hslot, hput⟩
  · rwa [hsame]
  · rw [hput]
    exact h.put hslot value

/-- The memory can be held in every state of a run. -/
theorem bounded_after {m : Machine δ} (h : m.memory.Bounded) (n : Nat) :
    (m.after n).memory.Bounded := by
  induction n with
  | zero => exact h
  | succ n ih => exact bounded_step ih

/-- A machine that a step leaves as it is stays as it is. -/
theorem after_of_fixed {m : Machine δ} (h : m.step.machine = m) (n : Nat) : m.after n = m := by
  induction n with
  | zero => rfl
  | succ n ih => rw [after_succ, ih, h]

end Machine

/-- A run is made of the steps of a machine, all but the last of them successful. -/
structure Run.Traces {δ : Type} [Device δ] (r : Run δ) (m : Machine δ) : Prop where
  machine_eq : r.machine = m.after r.calls
  earlier_eq : ∀ k, k + 1 < r.calls → m.outcomeAt k = .ok false
  outcome_zero : r.calls = 0 → r.outcome = .ok false
  outcome_succ : ∀ k, r.calls = k + 1 → r.outcome = m.outcomeAt k

namespace Run.Traces

variable {δ : Type} [Device δ] {m : Machine δ} {r : Run δ}

theorem start (m : Machine δ) : (Run.start m).Traces m where
  machine_eq := rfl
  earlier_eq := fun _ h => absurd h (Nat.not_lt_zero _)
  outcome_zero := fun _ => rfl
  outcome_succ := fun _ h => absurd h (Nat.succ_ne_zero _).symm

theorem next (h : r.Traces m) (hgoes : r.outcome = .ok false) : r.next.Traces m where
  machine_eq := by
    change r.machine.step.machine = m.after (r.calls + 1)
    rw [h.machine_eq]
    rfl
  earlier_eq := by
    intro k hk
    rcases Nat.lt_succ_iff_lt_or_eq.mp hk with hlt | heq
    · exact h.earlier_eq k hlt
    · rw [← h.outcome_succ k heq.symm]
      exact hgoes
  outcome_zero := fun hzero => absurd hzero (Nat.succ_ne_zero _)
  outcome_succ := by
    intro k hk
    obtain rfl : r.calls = k := Nat.succ.inj hk
    change r.machine.step.outcome = m.outcomeAt r.calls
    rw [h.machine_eq]
    rfl

theorem proceed (h : r.Traces m) (limit : Nat) : (Run.proceed limit r).Traces m := by
  induction limit generalizing r with
  | zero => exact h
  | succ limit ih =>
      unfold Run.proceed
      split
      · next hgoes => exact ih (h.next hgoes)
      · exact h

/-- A run that ended with a fault failed in its last step. -/
theorem last_of_error {fault : Fault} (h : r.Traces m) (herror : r.outcome = .error fault) :
    ∃ k, r.calls = k + 1 ∧ (∀ j, j < k → m.outcomeAt j = .ok false) ∧
      m.outcomeAt k = .error fault ∧ r.machine = (m.after k).step.machine := by
  cases hcalls : r.calls with
  | zero =>
      rw [h.outcome_zero hcalls] at herror
      cases herror
  | succ k =>
      refine ⟨k, rfl, ?_, ?_, ?_⟩
      · intro j hj
        exact h.earlier_eq j (by omega)
      · rw [← h.outcome_succ k hcalls]
        exact herror
      · rw [h.machine_eq, hcalls]
        rfl

end Run.Traces

/-- A run is made of steps. -/
theorem Machine.traces_run {δ : Type} [Device δ] (m : Machine δ) (limit : Nat) :
    (m.run limit).Traces m :=
  (Run.Traces.start m).proceed limit

namespace Run

variable {δ : Type} [Device δ]

/-- A run that has ended does not go on. -/
theorem proceed_of_ended {r : Run δ} (h : r.outcome ≠ .ok false) (limit : Nat) :
    proceed limit r = r := by
  cases limit with
  | zero => rfl
  | succ limit =>
      unfold proceed
      split
      · next hgoes => exact absurd hgoes h
      · rfl

/-- Limits add up. -/
theorem proceed_add (first second : Nat) (r : Run δ) :
    proceed (first + second) r = proceed second (proceed first r) := by
  induction first generalizing r with
  | zero => rw [Nat.zero_add, proceed]
  | succ first ih =>
      rw [Nat.succ_add, proceed, proceed]
      split
      · exact ih r.next
      · next hends => exact (proceed_of_ended hends second).symm

end Run

namespace Machine

variable {δ : Type} [Device δ] {m : Machine δ}

theorem run_succ_of_goes {n : Nat} (h : (m.run n).outcome = .ok false) :
    m.run (n + 1) = (m.run n).next := by
  rw [run, Run.proceed_add]
  change Run.proceed 1 (m.run n) = _
  rw [Run.proceed, h]
  rfl

/-- A run goes on as long as its steps do. -/
theorem run_of_goes {n : Nat} (h : ∀ k, k < n → m.outcomeAt k = .ok false) :
    (m.run n).outcome = .ok false ∧ (m.run n).calls = n := by
  induction n with
  | zero => exact ⟨rfl, rfl⟩
  | succ n ih =>
      obtain ⟨hgoes, hcalls⟩ := ih fun k hk => h k (Nat.lt_succ_of_lt hk)
      have hmachine := (m.traces_run n).machine_eq
      rw [hcalls] at hmachine
      rw [run_succ_of_goes hgoes]
      refine ⟨?_, congrArg (· + 1) hcalls⟩
      change (m.run n).machine.step.outcome = _
      rw [hmachine]
      exact h n (Nat.lt_succ_self n)

/-- The step after those that let a run go on is the last one, unless it does so too. -/
theorem run_succ {n : Nat} (h : ∀ k, k < n → m.outcomeAt k = .ok false) :
    (m.run (n + 1)).outcome = m.outcomeAt n ∧ (m.run (n + 1)).machine = m.after (n + 1) := by
  obtain ⟨hgoes, hcalls⟩ := run_of_goes h
  have hmachine := (m.traces_run n).machine_eq
  rw [hcalls] at hmachine
  rw [run_succ_of_goes hgoes, after_succ, outcomeAt, ← hmachine]
  exact ⟨rfl, rfl⟩

end Machine

end IntcodeMachine
