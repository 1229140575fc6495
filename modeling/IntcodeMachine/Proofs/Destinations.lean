import IntcodeMachine.Proofs.FaultKinds
import IntcodeMachine.Proofs.Reads
import IntcodeMachine.Proofs.Runs
import Mathlib.Data.Set.Card

/-!
# The table of operations that write

Whether an operation writes is said by a table, `Opcode.writes`, that no step looks at.  It is
right: memory changes in steps of these operations only, and when such a step succeeds it writes to
the address that the last parameter of the instruction means, and to no other.  So the table and
the modes tell beforehand where a run may write, and how long memory becomes.

* `Fetched.Yields.address?_eq`: an effect writes just if the table says so, to the address that the
  last parameter means.
* `Machine.written_eq_target?`: the table tells where a step writes.
* `Machine.read_after_of_not_mem`, `Machine.size_after`: what a run leaves alone, and how long
  memory is after it.
* `Machine.table_tells_writes`: all of this, for a step and for a run.
-/

namespace IntcodeMachine

namespace Opcode

theorem writes_of_isJump {op : Opcode} (h : op.isJump = true) : op.writes = false := by
  cases op <;> first | rfl | cases h

end Opcode

/-- The address that an effect is to write to, if any. -/
def Effect.address? : Effect → Option Word
  | .store address _ | .deliver address => some address
  | .receive _ | .goto _ | .proceed | .rebase _ | .halt => none

namespace Fetched

/-- The address that the table gives an instruction to write to: the one that its last parameter
means, if its operation is one of those that write. -/
def target? (f : Fetched) (base : Word) : Option Word :=
  if f.opcode.writes then f.parameters.getLast?.bind (Parameter.source? base) else none

variable {f : Fetched} {memory : Memory} {base : Word} {p : Parameter}

/-- A destination resolves to the address that the parameter means. -/
theorem destination_eq_ok_iff {address : Word} :
    f.destination base p = .ok address ↔ p.source? base = some address := by
  unfold destination Parameter.source?
  cases p.mode with
  | position => simp
  | immediate => simp
  | relative => exact exact_eq_ok_iff

theorem target?_eq_some_iff {d : Word} :
    f.target? base = some d ↔
      f.opcode.writes = true ∧ ∃ p, f.parameters.getLast? = some p ∧ p.source? base = some d := by
  unfold target?
  split
  · next hwrites => simp [hwrites, Option.bind_eq_some_iff]
  · next hwrites => simp [hwrites]

/-- **An effect writes just if the table says so**, to the address that the last parameter means. -/
theorem Yields.address?_eq {effect : Effect} (h : f.Yields memory base effect) :
    effect.address? = f.target? base := by
  unfold target?
  cases h with
  | store hop hparams _ _ haddress _ =>
      rw [if_pos (Opcode.writes_of_combine? hop), hparams]
      exact (destination_eq_ok_iff.mp haddress).symm
  | jump hop _ _ _ hbranches =>
      rw [if_neg (by simp [Opcode.writes_of_isJump hop]), hbranches]
      split <;> rfl
  | deliver hop hparams haddress =>
      rw [if_pos (by rw [hop]; rfl), hparams]
      exact (destination_eq_ok_iff.mp haddress).symm
  | receive hop _ _ | rebase hop _ _ _ | halt hop _ =>
      rw [if_neg (by rw [hop]; exact nofun)]
      rfl

end Fetched

namespace Machine

variable {δ : Type} {m : Machine δ} {f : Fetched}

/-- The instruction that a machine stands at, unless it has stopped or stands at none. -/
def instruction? (m : Machine δ) : Option Fetched :=
  if m.halted then none
  else
    match Fetch.fetch m.memory m.pc with
    | .ok (.known f) => some f
    | _ => none

theorem instruction?_eq_some_iff :
    m.instruction? = some f ↔
      m.halted = false ∧ Fetch.fetch m.memory m.pc = .ok (.known f) := by
  unfold instruction?
  cases m.halted with
  | true => simp
  | false =>
      cases Fetch.fetch m.memory m.pc with
      | error fault => simp
      | ok found => cases found <;> simp

variable [Device δ]

/-- **A destination is refused for being a value** only in an instruction that writes, and only if
its last parameter is one. -/
theorem immediate_of_step {pc raw : Word}
    (h : m.step.outcome = .error (.immediateDestination pc raw)) :
    ∃ f p, m.instruction? = some f ∧ f.opcode.writes = true ∧ f.parameters.getLast? = some p ∧
      p.mode = .immediate ∧ pc = f.pc ∧ raw = f.raw := by
  have hkind : FailsWithin (fun fault => fault = .immediateDestination pc raw →
      ∃ f p, m.instruction? = some f ∧ f.opcode.writes = true ∧ f.parameters.getLast? = some p ∧
        p.mode = .immediate ∧ pc = f.pc ∧ raw = f.raw) m.step.outcome := by
    refine .step (fun _ h => Fault.noConfusion h) (fun _ h => Fault.noConfusion h)
      (fun _ h => Fault.noConfusion h) (fun _ _ h => Fault.noConfusion h) ?_
    intro f p hrun hfetch hwrites hp hmode hsame
    cases hsame
    exact ⟨f, p, instruction?_eq_some_iff.mpr ⟨hrun, hfetch⟩, hwrites, hp, hmode, rfl, rfl⟩
  exact hkind _ h rfl

/-- The value that an instruction that writes is to store: the next input value, or what its
operation makes of its first two parameters. -/
inductive Stores (m : Machine δ) (f : Fetched) (value : Word) : Prop where
  | input (hop : f.opcode = .input) (hvalue : (Device.deliver m.device).1 = .ok value)
  | combination {combine : Word → Word → Option Word} {a b d : Parameter} {x y : Word}
      (hop : f.opcode.combine? = some combine) (hparams : f.parameters = [a, b, d])
      (hx : f.operand m.memory m.base a = .ok x) (hy : f.operand m.memory m.base b = .ok y)
      (hvalue : combine x y = some value)

/-- A write that an effect asks for is one to its address, with the value that the instruction is to
store. -/
theorem stores_of_write? {effect : Effect} {w : Write} (hyields : f.Yields m.memory m.base effect)
    (hw : effect.write? m.device = some w) :
    effect.address? = some w.address ∧ m.Stores f w.value := by
  cases hyields with
  | store hop hparams hx hy _ hvalue =>
      cases hw
      exact ⟨rfl, .combination hop hparams hx hy hvalue⟩
  | jump _ _ _ _ hbranches => split at hbranches <;> (subst hbranches; cases hw)
  | deliver hop _ _ =>
      rw [Effect.write?] at hw
      cases hvalue : (Device.deliver m.device).1 with
      | error e =>
          rw [hvalue] at hw
          cases hw
      | ok value =>
          rw [hvalue] at hw
          cases hw
          exact ⟨rfl, .input hop hvalue⟩
  | receive _ _ _ | rebase _ _ _ _ | halt _ _ => cases hw

/-- The address that the table gives a step to write to, if the step succeeds. -/
def target? (m : Machine δ) : Option Word :=
  if m.step.outcome.isOk then m.instruction?.bind fun f => f.target? m.base else none

/-- The addresses that the table gives the first steps to write to, in order. -/
def targets (m : Machine δ) (n : Nat) : List Word :=
  (List.range n).filterMap fun k => (m.after k).target?

/-- An effect that asks for a write succeeds just if the address can be written to. -/
theorem perform_of_write? {effect : Effect} {w : Write} {next : Word}
    (hnext : m.pc.inc? f.width = some next) (hw : effect.write? m.device = some w) :
    (m.perform f effect).1.isOk = (m.memory.slot w.address).isOk := by
  have hstore : ∀ device : δ, (store { m with device } f w.address w.value).1.isOk =
      (m.memory.slot w.address).isOk := by
    intro device
    cases hslot : m.memory.slot w.address with
    | error e => rw [store_of_slot_error (m := { m with device }) f w.value hslot]; rfl
    | ok i => rw [store_of_slot (m := { m with device }) w.value hslot hnext]; rfl
  cases effect with
  | store address value =>
      cases hw
      exact hstore m.device
  | deliver address =>
      rw [Effect.write?] at hw
      rw [perform, deliver]
      rcases hd : Device.deliver m.device with ⟨e | value, device⟩
      · rw [hd] at hw
        cases hw
      · rw [hd] at hw
        cases hw
        exact hstore device
  | receive _ | goto _ | proceed | rebase _ | halt => cases hw

/-- An effect that asks for no write has no address, or has none of the input values left for it. -/
theorem perform_of_no_write? {effect : Effect} (hw : effect.write? m.device = none) :
    effect.address? = none ∨ ∃ fault, (m.perform f effect).1 = .error fault := by
  cases effect with
  | store address value => cases hw
  | deliver address =>
      rw [Effect.write?] at hw
      rw [perform, deliver]
      rcases hd : Device.deliver m.device with ⟨e | value, device⟩
      · exact Or.inr ⟨_, rfl⟩
      · rw [hd] at hw
        cases hw
  | receive _ | goto _ | proceed | rebase _ | halt => exact Or.inl rfl

/-- An instruction that is carried out writes, if it succeeds, where its effect is to write. -/
theorem target?_of_act {effect : Effect} (h : m.turn = .act f effect) :
    m.target? = if (m.perform f effect).1.isOk then effect.address? else none := by
  obtain ⟨hrun, hfetch, heffect⟩ := turn_eq_act_iff.mp h
  have hyields := Fetched.yields_of_effect (Fetch.length_parameters_of_fetch hfetch) heffect
  have houtcome : m.step.outcome = (m.perform f effect).1 := by
    rw [step_eq_take, h]
    rfl
  rw [target?, houtcome, instruction?_eq_some_iff.mpr ⟨hrun, hfetch⟩, hyields.address?_eq]
  rfl

/-- **The table tells where a step writes**, in a memory that can be held. -/
theorem written_eq_target? (hsize : m.memory.size < Memory.capacity) :
    m.written.map Write.address = m.target? := by
  cases hturn : m.turn with
  | rest => simp [written, hturn, target?, instruction?, turn_eq_rest_iff.mp hturn]
  | skip raw =>
      obtain ⟨hrun, hfetch⟩ := turn_eq_skip_iff.mp hturn
      simp [written, hturn, target?, instruction?, hrun, hfetch]
  | refuse fault events =>
      have houtcome : m.step.outcome = .error fault := by
        rw [step_eq_take, hturn]
        rfl
      simp [written, hturn, target?, houtcome, Except.isOk, Except.toBool]
  | act f effect =>
      obtain ⟨_, hfetch, heffect⟩ := turn_eq_act_iff.mp hturn
      have hyields := Fetched.yields_of_effect (Fetch.length_parameters_of_fetch hfetch) heffect
      obtain ⟨next, hnext⟩ := (inPlace_of_turn hturn).exists_next hsize
      rw [target?_of_act hturn, written, hturn]
      cases hw : effect.write? m.device with
      | none =>
          rcases perform_of_no_write? (f := f) hw with haddress | ⟨fault, herror⟩
          · simp [hw, haddress]
          · simp [hw, herror, Except.isOk, Except.toBool]
      | some w =>
          obtain ⟨haddress, _⟩ := stores_of_write? hyields hw
          rw [perform_of_write? hnext hw, haddress]
          by_cases hroom : (m.memory.slot w.address).isOk = true
          · simp [hw, Option.filter, hroom]
          · simp [hw, Option.filter, hroom]

/-- A step that makes a write stores the value of its instruction at the address of the table. -/
theorem exists_instruction_of_written {w : Write} (h : m.written = some w) :
    ∃ f i, m.instruction? = some f ∧ f.target? m.base = some w.address ∧ m.Stores f w.value ∧
      w.address.toInt = (i : Nat) ∧ m.step.machine.memory = m.memory.put i w.value := by
  have hmemory := m.memory_step
  rw [h] at hmemory
  unfold written at h
  split at h
  · next f effect hturn =>
    obtain ⟨hrun, hfetch, heffect⟩ := turn_eq_act_iff.mp hturn
    have hyields := Fetched.yields_of_effect (Fetch.length_parameters_of_fetch hfetch) heffect
    obtain ⟨hw, hroom⟩ := Option.filter_eq_some_iff.mp h
    obtain ⟨haddress, hstores⟩ := stores_of_write? hyields hw
    cases hslot : m.memory.slot w.address with
    | error e =>
        rw [hslot] at hroom
        cases hroom
    | ok i =>
        refine ⟨f, i, instruction?_eq_some_iff.mpr ⟨hrun, hfetch⟩, ?_, hstores, ?_, ?_⟩
        · rw [← hyields.address?_eq, haddress]
        · exact (Memory.slot_eq_ok_iff.mp hslot).1
        · rw [hmemory]
          exact Memory.attempt_of_slot hslot
  · cases h

/-- A step changes memory just at the address that the table gives it. -/
theorem memory_step_of_target? (hsize : m.memory.size < Memory.capacity) :
    (m.target? = none ∧ m.step.machine.memory = m.memory) ∨
      ∃ d i value, m.target? = some d ∧ d.toInt = (i : Nat) ∧
        m.step.machine.memory = m.memory.put i value := by
  have htarget := written_eq_target? hsize
  cases hwritten : m.written with
  | none =>
      rw [hwritten] at htarget
      refine Or.inl ⟨htarget.symm, ?_⟩
      rw [memory_step, hwritten]
      rfl
  | some w =>
      rw [hwritten] at htarget
      obtain ⟨_, i, _, _, _, hi, hmemory⟩ := exists_instruction_of_written hwritten
      exact Or.inr ⟨w.address, i, w.value, htarget.symm, hi, hmemory⟩

/-- An instruction that writes makes a write if it succeeds. -/
theorem exists_written (hsize : m.memory.size < Memory.capacity) {b : Bool}
    (hstands : m.instruction? = some f) (hwrites : f.opcode.writes = true)
    (hok : m.step.outcome = .ok b) : ∃ w, m.written = some w := by
  obtain ⟨hrun, hfetch⟩ := instruction?_eq_some_iff.mp hstands
  have htarget := written_eq_target? hsize
  rw [target?, hstands, hok] at htarget
  change m.written.map Write.address = f.target? m.base at htarget
  cases heffect : f.effect m.memory m.base with
  | error fault =>
      rw [step_eq_take, turn_of_effect_error hrun hfetch heffect] at hok
      cases hok
  | ok effect =>
      have hyields := Fetched.yields_of_effect (Fetch.length_parameters_of_fetch hfetch) heffect
      rw [← hyields.address?_eq] at htarget
      cases hwritten : m.written with
      | some w => exact ⟨w, rfl⟩
      | none =>
          -- the effect of an operation that writes has an address, so a write was made
          rw [hwritten] at htarget
          cases hyields with
          | store _ _ _ _ _ _ => cases htarget
          | deliver _ _ _ => cases htarget
          | jump hop _ _ _ _ =>
              exact absurd ((Opcode.writes_of_isJump hop).symm.trans hwrites) nofun
          | receive hop _ _ | rebase hop _ _ _ | halt hop _ =>
              rw [hop] at hwrites
              cases hwrites

theorem targets_succ (m : Machine δ) (n : Nat) :
    m.targets (n + 1) = m.targets n ++ (m.after n).target?.toList := by
  rw [targets, List.range_succ, List.filterMap_append]
  cases h : (m.after n).target? <;> simp [targets, h]

theorem length_targets_le (m : Machine δ) (n : Nat) : (m.targets n).length ≤ n := by
  have hle := List.length_filterMap_le (fun k => (m.after k).target?) (List.range n)
  rwa [List.length_range] at hle

/-- In the first states of a run memory can be held. -/
def Holds (m : Machine δ) (n : Nat) : Prop :=
  ∀ k, k < n → (m.after k).memory.size < Memory.capacity

theorem Holds.of_succ {n : Nat} (h : m.Holds (n + 1)) :
    m.Holds n ∧ (m.after n).memory.size < Memory.capacity :=
  ⟨fun k hk => h k (Nat.lt_succ_of_lt hk), h n (Nat.lt_succ_self n)⟩

/-- Memory can be held all the time if it can in the beginning and its limit is low enough. -/
theorem holds_of_bounded (h : m.memory.Bounded) (n : Nat) : m.Holds n :=
  fun k _ => (bounded_after h k).size_lt

/-- **A run leaves alone** the addresses that the table does not give it. -/
theorem read_after_of_not_mem {n : Nat} (hholds : m.Holds n) {a : Word}
    (h : a ∉ m.targets n) : (m.after n).memory.read a = m.memory.read a := by
  induction n with
  | zero => rfl
  | succ n ih =>
      rw [targets_succ, List.mem_append, not_or] at h
      obtain ⟨hearlier, hlast⟩ := h
      obtain ⟨hbefore, hsize⟩ := hholds.of_succ
      rw [after_succ, ← ih hbefore hearlier]
      rcases memory_step_of_target? hsize with
        ⟨_, hmemory⟩ | ⟨d, i, value, htarget, hi, hmemory⟩
      · rw [hmemory]
      · rw [hmemory]
        apply Memory.read_put_of_ne
        rw [← hi]
        intro hsame
        apply hlast
        rw [htarget, Int64.toInt_inj.mp hsame]
        exact List.mem_singleton.mpr rfl

/-- **The size after a run** is the size before, or that of the largest address of the table. -/
theorem size_after {n : Nat} (hholds : m.Holds n) :
    (m.after n).memory.size =
      ((m.targets n).map fun d => d.toInt.toNat + 1).foldl max m.memory.size := by
  induction n with
  | zero => rfl
  | succ n ih =>
      obtain ⟨hbefore, hsize⟩ := hholds.of_succ
      rw [targets_succ, List.map_append, List.foldl_append, ← ih hbefore, after_succ]
      rcases memory_step_of_target? hsize with
        ⟨htarget, hmemory⟩ | ⟨d, i, value, htarget, hi, hmemory⟩
      · rw [hmemory, htarget]
        rfl
      · have hplace : d.toInt.toNat = i := by omega
        rw [hmemory, htarget, Memory.size_put, ← hplace]
        rfl

theorem size_le_step (m : Machine δ) : m.memory.size ≤ m.step.machine.memory.size := by
  rcases m.step_memory with hsame | ⟨_, value, i, _, hput⟩
  · rw [hsame]
  · rw [hput, Memory.size_put]
    exact Nat.le_max_left _ _

/-- The addresses that read differently after a run are no more than its steps. -/
theorem encard_changed_le {n : Nat} (hholds : m.Holds n) :
    {a | (m.after n).memory.read a ≠ m.memory.read a}.encard ≤ n := by
  have hsubset : {a | (m.after n).memory.read a ≠ m.memory.read a} ⊆ (m.targets n).toFinset := by
    intro a ha
    rw [Finset.mem_coe, List.mem_toFinset]
    by_contra hnot
    exact ha (read_after_of_not_mem hholds hnot)
  have hcard : (m.targets n).toFinset.card ≤ n :=
    Nat.le_trans (List.toFinset_card_le _) (m.length_targets_le n)
  calc {a | (m.after n).memory.read a ≠ m.memory.read a}.encard
      ≤ ((m.targets n).toFinset : Set Word).encard := Set.encard_le_encard hsubset
    _ = (m.targets n).toFinset.card := Set.encard_coe_eq_coe_finsetCard _
    _ ≤ n := Nat.cast_le.mpr hcard

/-- **The table is right about the writes.**  If a step changes memory, its operation is one of
those that write.  If an instruction of such an operation succeeds, the address meant by its last
parameter holds the value to be stored, memory is just long enough for it, and all other addresses
read as before.  A destination is refused for being a value only in such an instruction, if its last
parameter is one.  So a run changes what is read at no more addresses than it has steps, all of them
given by the table for steps that succeeded; memory never becomes shorter, and is as long as the
largest of these addresses asks for. -/
theorem table_tells_writes (m : Machine δ) (hsize : m.memory.size < Memory.capacity) :
    (m.step.machine.memory ≠ m.memory →
      ∃ f, m.instruction? = some f ∧ f.opcode.writes = true) ∧
    (∀ f b, m.instruction? = some f → f.opcode.writes = true → m.step.outcome = .ok b →
      ∃ p d value, f.parameters.getLast? = some p ∧ p.source? m.base = some d ∧
        m.Stores f value ∧ m.step.machine.memory.read d = .ok value ∧
        m.step.machine.memory.size = max m.memory.size (d.toInt.toNat + 1) ∧
        ∀ a, a ≠ d → m.step.machine.memory.read a = m.memory.read a) ∧
    (∀ pc raw, m.step.outcome = .error (.immediateDestination pc raw) →
      ∃ f p, m.instruction? = some f ∧ f.opcode.writes = true ∧
        f.parameters.getLast? = some p ∧ p.mode = .immediate ∧ pc = f.pc ∧ raw = f.raw) ∧
    (∀ n, m.Holds n →
      (∀ a, (m.after n).memory.read a ≠ m.memory.read a →
        ∃ k, k < n ∧ (m.after k).target? = some a) ∧
      {a | (m.after n).memory.read a ≠ m.memory.read a}.encard ≤ n ∧
      (m.after n).memory.size ≤ (m.after (n + 1)).memory.size ∧
      (m.after n).memory.size =
        ((m.targets n).map fun d => d.toInt.toNat + 1).foldl max m.memory.size) := by
  refine ⟨?_, ?_, fun pc raw h => immediate_of_step h, ?_⟩
  · intro hchanged
    cases hwritten : m.written with
    | none =>
        rw [memory_step, hwritten] at hchanged
        exact absurd rfl hchanged
    | some w =>
        obtain ⟨f, _, hstands, htarget, _⟩ := exists_instruction_of_written hwritten
        exact ⟨f, hstands, (Fetched.target?_eq_some_iff.mp htarget).1⟩
  · intro f b hstands hwrites hok
    obtain ⟨w, hwritten⟩ := exists_written hsize hstands hwrites hok
    obtain ⟨f', i, hstands', htarget, hstores, hi, hmemory⟩ :=
      exists_instruction_of_written hwritten
    obtain rfl : f = f' := Option.some.inj (hstands.symm.trans hstands')
    obtain ⟨_, p, hp, hd⟩ := Fetched.target?_eq_some_iff.mp htarget
    have hplace : w.address.toInt.toNat = i := by omega
    refine ⟨p, w.address, w.value, hp, hd, hstores, ?_, ?_, ?_⟩
    · rw [hmemory, Memory.read_of_nonneg _ (by omega), hplace]
      exact congrArg Except.ok (m.memory.cell_put_self i w.value)
    · rw [hmemory, Memory.size_put, hplace]
    · intro a ha
      rw [hmemory]
      apply Memory.read_put_of_ne
      rw [← hi]
      exact fun hsame => ha (Int64.toInt_inj.mp hsame)
  · intro n hholds
    refine ⟨?_, encard_changed_le hholds, (m.after n).size_le_step, size_after hholds⟩
    intro a hchanged
    have hmem : a ∈ m.targets n := by
      by_contra hnot
      exact hchanged (read_after_of_not_mem hholds hnot)
    obtain ⟨k, hk, htarget⟩ := List.mem_filterMap.mp hmem
    exact ⟨k, List.mem_range.mp hk, htarget⟩

/-- An input value is written, then a sum past the end, and after that every step fails. -/
theorem table_tells_writes_then_fails :
    let m := ofProgram [3, 9, 1101, 1, 2, 20, 11101, 1, 1, 5] 64 (Script.ofInput [7])
    m.memory.size < Memory.capacity ∧ m.Holds 4 ∧
      (m.after 4).memory.size = 21 ∧
      ∀ a, (m.after 4).memory.read a ≠ m.memory.read a → a = 9 ∨ a = 20 := by
  intro m
  have hsize : m.memory.size < Memory.capacity := by decide
  have hholds : m.Holds 4 := holds_of_bounded ⟨hsize, by decide⟩ 4
  obtain ⟨_, _, _, hrun⟩ := table_tells_writes m hsize
  obtain ⟨hchanged, _, _, hlength⟩ := hrun 4 hholds
  refine ⟨hsize, hholds, ?_, ?_⟩
  · rw [hlength]
    decide
  · intro a ha
    obtain ⟨k, hk, htarget⟩ := hchanged a ha
    have htargets : ((List.range 4).all fun k => ((m.after k).target?.all fun d =>
        d = 9 ∨ d = 20)) = true := by decide
    have hstep := List.all_eq_true.mp htargets k (List.mem_range.mpr hk)
    rw [htarget] at hstep
    exact of_decide_eq_true hstep

end Machine

end IntcodeMachine
