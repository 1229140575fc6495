import IntcodeMachine.Proofs.Runs
import Mathlib.Data.Nat.Find

/-!
# Stopping

A machine stops at an instruction of class 99, whatever its other digits are, and nowhere else.
Nothing but the flag changes then, so the machine still stands at that instruction; and since a
machine that has stopped does nothing, it stays there for good.

* `Machine.step_halts_iff`: where a machine stops.
* `Machine.halted_after`: a machine that has stopped stands at an instruction of class 99.
* `Machine.executes_iff`: a run without a limit is made of steps that let it go on, and a last one.
* `Machine.serves_of_halted`: a machine that has stopped answers every request alike.
* `Machine.halts_for_good`: all of this about the states that a program reaches.
-/

namespace IntcodeMachine

namespace Fetched

/-- Only the operation that stops has the effect to stop. -/
theorem effect_eq_halt_iff {f : Fetched} {memory : Memory} {base : Word} {effect : Effect}
    (hlength : f.parameters.length = f.opcode.arity)
    (heffect : f.effect memory base = .ok effect) : effect = .halt ↔ f.opcode = .halt := by
  cases yields_of_effect hlength heffect with
  | store hop _ _ _ _ _ =>
      constructor
      · exact nofun
      · intro hhalt
        rw [hhalt] at hop
        cases hop
  | jump hop _ _ _ hbranches =>
      constructor
      · rintro rfl
        split at hbranches <;> cases hbranches
      · intro hhalt
        rw [hhalt] at hop
        cases hop
  | deliver hop _ _ => simp [hop]
  | receive hop _ _ => simp [hop]
  | rebase hop _ _ _ => simp [hop]
  | halt hop _ => simp [hop]

end Fetched

/-- The instruction at an address stops the machine: it has the class 99. -/
def Fetch.Halts (memory : Memory) (pc : Word) : Prop :=
  0 ≤ pc.toInt ∧ Opcode.classOf (memory.cell pc.toInt.toNat) = 99

instance (memory : Memory) (pc : Word) : Decidable (Fetch.Halts memory pc) :=
  inferInstanceAs
    (Decidable (0 ≤ pc.toInt ∧ Opcode.classOf (memory.cell pc.toInt.toNat) = 99))

/-- An instruction that stops is fetched whatever its other digits are. -/
theorem Fetch.fetch_of_halts {memory : Memory} {pc : Word} (h : Halts memory pc) :
    ∃ f, fetch memory pc = .ok (.known f) ∧ f.opcode = .halt ∧ f.parameters = [] := by
  obtain ⟨hpc, hclass⟩ := h
  have hop : Opcode.ofClass? (Opcode.classOf (rawAt memory pc)) = some .halt :=
    Opcode.ofClass?_eq_some_iff.mpr hclass
  have hdecode : Instruction.decode (rawAt memory pc) = .ok (some ⟨.halt, []⟩) := by
    rw [Instruction.decode, hop]
    rfl
  rw [fetch_of_nonneg memory hpc, hdecode]
  exact ⟨⟨pc, rawAt memory pc, .halt, []⟩, rfl, rfl, rfl⟩

namespace Machine

variable {δ : Type}

/-- A machine is about to stop where an instruction of class 99 stands. -/
theorem exists_turn_halt_iff {m : Machine δ} :
    (∃ f, m.turn = .act f .halt) ↔ m.halted = false ∧ Fetch.Halts m.memory m.pc := by
  constructor
  · intro h
    obtain ⟨f, hturn⟩ := h
    obtain ⟨hrun, _, heffect⟩ := turn_eq_act_iff.mp hturn
    have hplace := inPlace_of_turn hturn
    have hop := (Fetched.effect_eq_halt_iff hplace.length_parameters heffect).mp rfl
    have hclass := Opcode.ofClass?_eq_some_iff.mp hplace.opcode_eq
    rw [hop, hplace.raw_eq] at hclass
    exact ⟨hrun, hplace.pc_nonneg, hclass⟩
  · intro h
    obtain ⟨hrun, hhalts⟩ := h
    obtain ⟨f, hfetch, hop, hparams⟩ := Fetch.fetch_of_halts hhalts
    refine ⟨f, turn_of_effect hrun hfetch ?_⟩
    obtain ⟨pc, raw, opcode, parameters⟩ := f
    cases hop
    cases hparams
    rfl

theorem advance_goes (m : Machine δ) (f : Fetched) :
    (m.advance f).1 ≠ .ok true ∧ (m.advance f).2.halted = m.halted := by
  unfold advance
  cases m.pc.inc? f.width with
  | none => exact ⟨nofun, rfl⟩
  | some next => exact ⟨nofun, rfl⟩

theorem store_goes (m : Machine δ) (f : Fetched) (address value : Word) :
    (m.store f address value).1 ≠ .ok true ∧ (m.store f address value).2.halted = m.halted := by
  cases hslot : m.memory.slot address with
  | error e =>
      rw [store_of_slot_error f value hslot]
      exact ⟨nofun, rfl⟩
  | ok i =>
      rw [store, hslot]
      exact advance_goes { m with memory := m.memory.put i value } f

variable [Device δ] {m : Machine δ}

/-- No effect but the one to stop says that the machine has stopped, or makes it so. -/
theorem perform_goes (m : Machine δ) (f : Fetched) {effect : Effect} (h : effect ≠ .halt) :
    (m.perform f effect).1 ≠ .ok true ∧ (m.perform f effect).2.halted = m.halted := by
  cases effect with
  | store address value => exact store_goes m f address value
  | deliver address =>
      obtain ⟨memory, pc, base, halted, device⟩ := m
      simp only [perform, deliver]
      rcases Device.deliver device with ⟨e | value, device⟩
      · exact ⟨by simp, rfl⟩
      · exact store_goes ⟨memory, pc, base, halted, device⟩ f address value
  | receive value =>
      obtain ⟨memory, pc, base, halted, device⟩ := m
      simp only [perform, receive]
      rcases Device.receive device value with ⟨e | _, device⟩
      · exact ⟨by simp, rfl⟩
      · exact advance_goes ⟨memory, pc, base, halted, device⟩ f
  | goto target => exact ⟨by simp [perform], rfl⟩
  | proceed => exact advance_goes m f
  | rebase base => exact advance_goes { m with base } f
  | halt => exact absurd rfl h

/-- A step at an instruction of class 99 sets the flag and changes nothing else. -/
theorem step_of_halts (hrun : m.halted = false) (h : Fetch.Halts m.memory m.pc) :
    m.step.outcome = .ok true ∧ m.step.machine = { m with halted := true } := by
  obtain ⟨f, hturn⟩ := exists_turn_halt_iff.mpr ⟨hrun, h⟩
  rw [step_eq_take, hturn]
  exact ⟨rfl, rfl⟩

/-- A step anywhere else leaves the machine running. -/
theorem step_of_not_halts (hrun : m.halted = false) (h : ¬ Fetch.Halts m.memory m.pc) :
    m.step.outcome ≠ .ok true ∧ m.step.machine.halted = false := by
  rw [step_eq_take]
  cases hturn : m.turn with
  | rest =>
      rw [turn_eq_rest_iff.mp hturn] at hrun
      cases hrun
  | refuse fault events => exact ⟨by simp [take], hrun⟩
  | skip raw =>
      simp only [take, skip]
      cases m.pc.inc? 1 with
      | none => exact ⟨by simp, hrun⟩
      | some next => exact ⟨by simp, hrun⟩
  | act f effect =>
      have hgoes : effect ≠ .halt := by
        rintro rfl
        exact h (exists_turn_halt_iff.mp ⟨f, hturn⟩).2
      obtain ⟨houtcome, hflag⟩ := perform_goes m f hgoes
      exact ⟨houtcome, hflag.trans hrun⟩

/-- **Where a machine stops.** -/
theorem step_halts_iff (hrun : m.halted = false) :
    m.step.machine.halted = true ↔ Fetch.Halts m.memory m.pc := by
  constructor
  · intro hflag
    by_contra hnot
    rw [(step_of_not_halts hrun hnot).2] at hflag
    cases hflag
  · intro h
    rw [(step_of_halts hrun h).2]

/-- **A step says that the machine has stopped exactly when it has.** -/
theorem outcome_eq_true_iff : m.step.outcome = .ok true ↔ m.step.machine.halted = true := by
  cases hhalted : m.halted with
  | true => simp [step_of_halted hhalted, hhalted]
  | false =>
      by_cases h : Fetch.Halts m.memory m.pc
      · simp [step_of_halts hhalted h]
      · obtain ⟨houtcome, hflag⟩ := step_of_not_halts hhalted h
        simp [houtcome, hflag]

/-- If a machine that has stopped stands at an instruction of class 99, so it does after a step. -/
theorem step_at_halt (h : m.halted = true → Fetch.Halts m.memory m.pc)
    (hflag : m.step.machine.halted = true) :
    Fetch.Halts m.step.machine.memory m.step.machine.pc := by
  cases hhalted : m.halted with
  | true =>
      rw [step_of_halted hhalted]
      exact h hhalted
  | false =>
      have hhalts := (step_halts_iff hhalted).mp hflag
      rw [(step_of_halts hhalted hhalts).2]
      exact hhalts

/-- **A machine that has stopped stands at an instruction of class 99**, if it has run there. -/
theorem halted_after (hstart : m.halted = false) (n : Nat) (h : (m.after n).halted = true) :
    Fetch.Halts (m.after n).memory (m.after n).pc := by
  induction n with
  | zero => exact absurd (hstart.symm.trans h) nofun
  | succ n ih => exact step_at_halt ih h

/-- Run without a limit, the machine comes to an end, with an outcome and in a state. -/
def Executes (m : Machine δ) (outcome : Except Fault Unit) (k : Machine δ) : Prop :=
  ∃ limit, (m.run limit).outcome ≠ .ok false ∧
    (m.run limit).outcome.map (fun _ => ()) = outcome ∧ (m.run limit).machine = k

/-- **A run without a limit is made of steps**: any number that let it go on, and one that does
not. -/
theorem executes_iff {outcome : Except Fault Unit} {k : Machine δ} :
    m.Executes outcome k ↔
      ∃ n, (∀ j, j < n → m.outcomeAt j = .ok false) ∧ m.outcomeAt n ≠ .ok false ∧
        (m.outcomeAt n).map (fun _ => ()) = outcome ∧ m.after (n + 1) = k := by
  constructor
  · intro h
    obtain ⟨limit, hends, houtcome, hmachine⟩ := h
    have htraces := m.traces_run limit
    cases hcalls : (m.run limit).calls with
    | zero => exact absurd (htraces.outcome_zero hcalls) hends
    | succ n =>
        have hlast := htraces.outcome_succ n hcalls
        have hafter := htraces.machine_eq
        rw [hcalls] at hafter
        rw [hlast] at hends houtcome
        refine ⟨n, ?_, hends, houtcome, hafter.symm.trans hmachine⟩
        intro j hj
        exact htraces.earlier_eq j (by omega)
  · intro h
    obtain ⟨n, hgoes, hends, houtcome, hmachine⟩ := h
    obtain ⟨hlast, hafter⟩ := run_succ hgoes
    refine ⟨n + 1, ?_, ?_, hafter.trans hmachine⟩
    · rwa [hlast]
    · rwa [hlast]

/-- A run without a limit comes to the stop if some step says that the machine has stopped, and no
step before it fails. -/
theorem executes_ok_iff :
    (∃ k, m.Executes (.ok ()) k) ↔
      ∃ n, (∀ j, j < n → ∃ b, m.outcomeAt j = .ok b) ∧ m.outcomeAt n = .ok true := by
  constructor
  · intro h
    obtain ⟨k, h⟩ := h
    obtain ⟨n, hgoes, hends, houtcome, _⟩ := executes_iff.mp h
    refine ⟨n, fun j hj => ⟨false, hgoes j hj⟩, ?_⟩
    cases hlast : m.outcomeAt n with
    | error fault =>
        rw [hlast] at houtcome
        cases houtcome
    | ok b =>
        cases b with
        | true => rfl
        | false => exact absurd hlast hends
  · intro h
    obtain ⟨n, hbefore, htrue⟩ := h
    -- of the steps that say so the first one ends the run
    have hexists : ∃ n, m.outcomeAt n = .ok true := ⟨n, htrue⟩
    have hfirst : m.outcomeAt (Nat.find hexists) = .ok true := Nat.find_spec hexists
    have hle : Nat.find hexists ≤ n := Nat.find_min' hexists htrue
    refine ⟨_, executes_iff.mpr ⟨Nat.find hexists, ?_, ?_, ?_, rfl⟩⟩
    · intro j hj
      obtain ⟨b, hb⟩ := hbefore j (Nat.lt_of_lt_of_le hj hle)
      cases b with
      | true => exact absurd hb (Nat.find_min hexists hj)
      | false => exact hb
    · rw [hfirst]
      exact nofun
    · rw [hfirst]
      rfl

end Machine

/-- What a machine can be asked for. -/
inductive Request where
  /-- One step. -/
  | step
  /-- A run without a limit. -/
  | execute
  deriving DecidableEq, Repr

/-- What a request comes to, if it comes to an end. -/
inductive Reply where
  | stepped (outcome : Except Fault Bool)
  | executed (outcome : Except Fault Unit)

/-- The reply of a machine that has stopped. -/
def Request.restingReply : Request → Reply
  | .step => .stepped (.ok true)
  | .execute => .executed (.ok ())

namespace Machine

variable {δ : Type} [Device δ] {m : Machine δ}

/-- A machine answers several requests, one after the other, and ends up in a state. -/
inductive Serves : Machine δ → List Request → List Reply → Machine δ → Prop where
  | none {m : Machine δ} : Serves m [] [] m
  | step {m k : Machine δ} {requests : List Request} {replies : List Reply}
      (hrest : Serves m.step.machine requests replies k) :
      Serves m (.step :: requests) (.stepped m.step.outcome :: replies) k
  | execute {m between k : Machine δ} {outcome : Except Fault Unit} {requests : List Request}
      {replies : List Reply} (hfirst : m.Executes outcome between)
      (hrest : Serves between requests replies k) :
      Serves m (.execute :: requests) (.executed outcome :: replies) k

theorem outcomeAt_of_halted (h : m.halted = true) (n : Nat) : m.outcomeAt n = .ok true := by
  rw [outcomeAt, after_of_halted h, step_of_halted h]

theorem executes_of_halted (h : m.halted = true) {outcome : Except Fault Unit} {k : Machine δ} :
    m.Executes outcome k ↔ outcome = .ok () ∧ k = m := by
  rw [executes_iff]
  constructor
  · intro hruns
    obtain ⟨n, _, _, houtcome, hmachine⟩ := hruns
    rw [outcomeAt_of_halted h] at houtcome
    rw [after_of_halted h] at hmachine
    exact ⟨houtcome.symm, hmachine.symm⟩
  · rintro ⟨rfl, rfl⟩
    refine ⟨0, fun j hj => absurd hj (Nat.not_lt_zero j), ?_, ?_, after_of_halted h 1⟩
    · rw [outcomeAt_of_halted h]
      exact nofun
    · rw [outcomeAt_of_halted h]
      rfl

/-- **A machine that has stopped answers every request alike, and stays as it is.** -/
theorem serves_of_halted (h : m.halted = true) {requests : List Request} {replies : List Reply}
    {k : Machine δ} :
    m.Serves requests replies k ↔ replies = requests.map Request.restingReply ∧ k = m := by
  induction requests generalizing replies with
  | nil =>
      constructor
      · intro hserves
        cases hserves
        exact ⟨rfl, rfl⟩
      · rintro ⟨rfl, rfl⟩
        exact .none
  | cons request requests ih =>
      constructor
      · intro hserves
        cases hserves with
        | step hrest =>
            rw [step_of_halted h] at hrest ⊢
            obtain ⟨rfl, rfl⟩ := ih.mp hrest
            exact ⟨rfl, rfl⟩
        | execute hfirst hrest =>
            obtain ⟨rfl, rfl⟩ := (executes_of_halted h).mp hfirst
            obtain ⟨rfl, rfl⟩ := ih.mp hrest
            exact ⟨rfl, rfl⟩
      · rintro ⟨rfl, rfl⟩
        have hrest := ih.mpr ⟨rfl, rfl⟩
        cases request with
        | step =>
            have hstep : k.step.machine = k := by rw [step_of_halted h]
            have houtcome : k.step.outcome = .ok true := by rw [step_of_halted h]
            rw [← hstep] at hrest
            have hserves := Serves.step hrest
            rw [houtcome, hstep] at hserves
            exact hserves
        | execute => exact .execute ((executes_of_halted h).mpr ⟨rfl, rfl⟩) hrest

/-- **Stopping is correct and for good**, in every state that a program reaches by steps, failed
ones included.  A machine that has stopped stands at an instruction of class 99.  A step says that
the machine has stopped exactly when it then has.  A machine that runs is stopped by exactly the
steps at an instruction of class 99, and these change nothing else.  A machine that has stopped
answers any steps and runs by saying so, and stays as it is.  And a run without a limit comes to the
stop exactly if some step says that the machine has stopped and none before it fails. -/
theorem halts_for_good (program : Program) (limit : Nat) (device : δ) (n : Nat) :
    let m := (ofProgram program limit device).after n
    (m.halted = true → Fetch.Halts m.memory m.pc) ∧
    (m.step.outcome = .ok true ↔ m.step.machine.halted = true) ∧
    (m.halted = false → (m.step.machine.halted = true ↔ Fetch.Halts m.memory m.pc) ∧
      (m.step.machine.halted = true → m.step.machine = { m with halted := true })) ∧
    (m.halted = true → ∀ requests replies k,
      m.Serves requests replies k ↔ replies = requests.map Request.restingReply ∧ k = m) ∧
    ((∃ k, m.Executes (.ok ()) k) ↔
      ∃ j, (∀ i, i < j → ∃ b, m.outcomeAt i = .ok b) ∧ m.outcomeAt j = .ok true) := by
  intro m
  refine ⟨halted_after rfl n, outcome_eq_true_iff, ?_, ?_, executes_ok_iff⟩
  · intro hrun
    refine ⟨step_halts_iff hrun, fun hflag => ?_⟩
    exact (step_of_halts hrun ((step_halts_iff hrun).mp hflag)).2
  · intro hhalted requests replies k
    exact serves_of_halted hhalted

/-- The instruction that stops has a negative raw value with digits for which there is no mode, and
the machine is run and stepped on after it. -/
theorem halts_for_good_negative :
    let m := (ofProgram [104, 7, -37701] 16 (Script.ofInput [5])).after 2
    m.halted = true ∧ Fetch.Halts m.memory m.pc ∧
      m.Serves [.execute, .step] [.executed (.ok ()), .stepped (.ok true)] m := by
  intro m
  have hhalted : m.halted = true := by decide
  obtain ⟨hstands, _, _, hserves, _⟩ :=
    halts_for_good [104, 7, -37701] 16 (Script.ofInput [5]) 2
  refine ⟨hhalted, hstands hhalted, ?_⟩
  exact (hserves hhalted [.execute, .step] _ m).mpr ⟨rfl, rfl⟩

end Machine

end IntcodeMachine
