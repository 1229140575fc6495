import IntcodeMachine.Proofs.Ideal

/-!
# Steps follow the table

A step that succeeds is a step of the ideal machine.  Words are exact wherever a step
succeeds, and every address that is used is an address of the ideal machine; so the two agree
on memory, registers, input and output, whatever the instruction overwrites.

* `Machine.ideal_step`: one step.
* `Machine.ideal_after_ofProgram`: a run, from the program on.
-/

namespace IntcodeMachine.Machine

variable {m : Machine Script} {f : Fetched}

/-- A program on an input, seen as integers. -/
theorem ideal_ofProgram (program : Program) (limit : Nat) (input : List Word) :
    (ofProgram program limit (Script.ofInput input)).ideal =
      Ideal.start (program.map Int64.toInt) (input.map Int64.toInt) := by
  have hmemory : (fun place => ((ofProgram program limit (Script.ofInput input)).memory.cell
      place).toInt) = fun place => (program.map Int64.toInt).getD place 0 := by
    funext place
    simp only [ofProgram, Memory.cell, List.getElem?_toArray, List.getD_eq_getElem?_getD,
      List.getElem?_map]
    cases program[place]? <;> rfl
  unfold ideal Ideal.start
  rw [hmemory]
  rfl

/-- An instruction that is left for the next one moves the program counter by its width. -/
theorem advance_ok {b : Bool} (h : (m.advance f).1 = .ok b) :
    ∃ next, next.toInt = m.pc.toInt + (f.opcode.arity + 1) ∧
      m.advance f = (.ok false, { m with pc := next }) := by
  cases hnext : m.pc.inc? f.width with
  | none =>
      rw [advance, hnext] at h
      cases h
  | some next =>
      refine ⟨next, ?_, advance_of_next hnext⟩
      rw [← f.toInt_width]
      exact Register.inc?_eq_some_iff.mp hnext

/-- A write that succeeds takes place at the address, which is not negative. -/
theorem store_ok {address value : Word} {b : Bool} (h : (m.store f address value).1 = .ok b) :
    ∃ (i : Nat) (next : Word), address.toInt = i ∧
      next.toInt = m.pc.toInt + (f.opcode.arity + 1) ∧
      m.store f address value =
        (.ok false, { m with memory := m.memory.put i value, pc := next }) := by
  cases hslot : m.memory.slot address with
  | error e =>
      rw [store_of_slot_error f value hslot] at h
      cases h
  | ok i =>
      rw [store, hslot] at h
      obtain ⟨next, hnext, hadvance⟩ := advance_ok h
      refine ⟨i, next, (Memory.slot_eq_ok_iff.mp hslot).1, hnext, ?_⟩
      rw [store, hslot]
      exact hadvance

/-- A write to memory is a write to the ideal memory. -/
theorem ideal_put (m : Machine Script) {address : Int} {i : Nat} (value next : Word)
    (h : address = i) :
    ideal { m with memory := m.memory.put i value, pc := next } =
      { m.ideal with memory := m.ideal.put address value.toInt, pc := next.toInt } := by
  have hmemory : (fun place => ((m.memory.put i value).cell place).toInt) =
      m.ideal.put address value.toInt := by
    funext place
    rw [Ideal.put, Memory.cell_put, h, Int.toNat_natCast]
    split <;> rfl
  rw [← hmemory]
  rfl

/-- The outcome of an effect is the one that the table gives. -/
def Follows (m : Machine Script) (f : Fetched) (r : Except Fault Bool × Machine Script) : Prop :=
  m.ideal.perform f.opcode.classNumber = some r.2.ideal ∧ r.1 = .ok r.2.halted

variable {effect : Effect} {b : Bool}

theorem follows_combination {combine : Word → Word → Option Word} {x y d : Parameter}
    {v w address value : Word} (hplace : f.InPlace m.memory m.pc) (hrun : m.halted = false)
    (hop : f.opcode.combine? = some combine) (hparams : f.parameters = [x, y, d])
    (hv : f.operand m.memory m.base x = .ok v) (hw : f.operand m.memory m.base y = .ok w)
    (haddress : f.destination m.base d = .ok address) (hvalue : combine v w = some value)
    (h : (m.store f address value).1 = .ok b) : m.Follows f (m.store f address value) := by
  obtain ⟨hread, hfirst⟩ := hplace.operand_ideal (i := 0) (by rw [hparams]; rfl) hv
  obtain ⟨hread', hsecond⟩ := hplace.operand_ideal (i := 1) (by rw [hparams]; rfl) hw
  obtain ⟨hmode, hmode', hto⟩ :=
    hplace.destination_ideal (i := 2) (by rw [hparams]; rfl) haddress
  obtain ⟨i, next, hi, hnext, hstore⟩ := store_ok h
  have hwrite : m.ideal.Writable 2 := ⟨hmode, hmode', by omega⟩
  have harity : f.opcode.arity = 3 := by
    rw [← hplace.length_parameters, hparams]
    rfl
  rw [harity] at hnext
  rw [Follows, Ideal.perform_of_combine? hop hvalue hfirst hsecond,
    Ideal.store, if_pos ⟨hread, hread', hwrite⟩, hstore,
    ideal_put m value next (hto.trans hi), hnext, hrun]
  exact ⟨rfl, rfl⟩

theorem follows_branch {c t : Parameter} {condition target : Word}
    (hplace : f.InPlace m.memory m.pc) (hrun : m.halted = false)
    (hop : f.opcode.isJump = true) (hparams : f.parameters = [c, t])
    (hcondition : f.operand m.memory m.base c = .ok condition)
    (htarget : f.operand m.memory m.base t = .ok target)
    (heffect : effect = if f.opcode.branches condition then .goto target else .proceed)
    (h : (m.perform f effect).1 = .ok b) : m.Follows f (m.perform f effect) := by
  obtain ⟨hread, hfirst⟩ := hplace.operand_ideal (i := 0) (by rw [hparams]; rfl) hcondition
  obtain ⟨hread', hsecond⟩ := hplace.operand_ideal (i := 1) (by rw [hparams]; rfl) htarget
  rw [Follows, Ideal.perform_of_isJump hop hfirst, Ideal.branch, if_pos ⟨hread, hread'⟩, hsecond]
  cases hbranches : f.opcode.branches condition with
  | true =>
      obtain rfl : effect = .goto target := by
        rw [heffect, hbranches]
        rfl
      exact ⟨rfl, congrArg Except.ok hrun.symm⟩
  | false =>
      obtain rfl : effect = .proceed := by
        rw [heffect, hbranches]
        rfl
      obtain ⟨next, hnext, hadvance⟩ := advance_ok h
      have harity : f.opcode.arity = 2 := by
        rw [← hplace.length_parameters, hparams]
        rfl
      rw [harity] at hnext
      have hpc : m.ideal.pc + 3 = next.toInt := hnext.symm
      rw [perform, hadvance, hpc]
      exact ⟨rfl, congrArg Except.ok hrun.symm⟩

theorem follows_input {d : Parameter} {address : Word} (hplace : f.InPlace m.memory m.pc)
    (hrun : m.halted = false) (hop : f.opcode = .input) (hparams : f.parameters = [d])
    (haddress : f.destination m.base d = .ok address)
    (h : (m.deliver f address).1 = .ok b) : m.Follows f (m.deliver f address) := by
  obtain ⟨hmode, hmode', hto⟩ :=
    hplace.destination_ideal (i := 0) (by rw [hparams]; rfl) haddress
  cases hpending : m.device.feed.pending with
  | nil =>
      rw [deliver_of_nil f address hpending] at h
      cases h
  | cons value rest =>
      rw [deliver_of_cons f address hpending] at h ⊢
      obtain ⟨i, next, hi, hnext, hstore⟩ := store_ok h
      have hwrite : m.ideal.Writable 0 := ⟨hmode, hmode', by omega⟩
      have hinput : m.ideal.input = value.toInt :: rest.map Int64.toInt := by
        rw [ideal, hpending]
        rfl
      have hpc : m.ideal.pc + 2 = next.toInt := by
        rw [hnext, hop]
        rfl
      have haccept : m.ideal.accept = some { m.ideal with
          memory := m.ideal.put (m.ideal.address 0) value.toInt
          input := rest.map Int64.toInt, pc := m.ideal.pc + 2 } := by
        rw [Ideal.accept, hinput]
        exact if_pos hwrite
      have hdrop : m.dropInput.ideal = { m.ideal with input := rest.map Int64.toInt } := by
        rw [ideal, dropInput, hpending]
        rfl
      rw [Follows, hop, hstore, ideal_put _ value next (hto.trans hi), hdrop]
      refine ⟨haccept.trans ?_, congrArg Except.ok hrun.symm⟩
      rw [hpc]
      rfl

theorem follows_output {p : Parameter} {value : Word} (hplace : f.InPlace m.memory m.pc)
    (hrun : m.halted = false) (hop : f.opcode = .output) (hparams : f.parameters = [p])
    (hvalue : f.operand m.memory m.base p = .ok value)
    (h : (m.receive f value).1 = .ok b) : m.Follows f (m.receive f value) := by
  obtain ⟨hread, hfirst⟩ := hplace.operand_ideal (i := 0) (by rw [hparams]; rfl) hvalue
  rw [receive_script] at h ⊢
  obtain ⟨next, hnext, hadvance⟩ := advance_ok h
  have hpc : m.ideal.pc + 2 = next.toInt := by
    rw [hnext, hop]
    rfl
  rw [Follows, hop, hadvance]
  refine ⟨(if_pos hread).trans ?_, ?_⟩
  · rw [hpc, hfirst]
    simp [ideal]
  · rw [hrun]

theorem follows_offset {p : Parameter} {offset moved : Word}
    (hplace : f.InPlace m.memory m.pc) (hrun : m.halted = false)
    (hop : f.opcode = .relativeBaseOffset) (hparams : f.parameters = [p])
    (hoffset : f.operand m.memory m.base p = .ok offset)
    (hmoved : Word.add? m.base offset = some moved)
    (h : (advance { m with base := moved } f).1 = .ok b) :
    m.Follows f (advance { m with base := moved } f) := by
  obtain ⟨hread, hfirst⟩ := hplace.operand_ideal (i := 0) (by rw [hparams]; rfl) hoffset
  obtain ⟨next, hnext, hadvance⟩ := advance_ok h
  have hpc : m.ideal.pc + 2 = next.toInt := by
    rw [hnext, hop]
    rfl
  have hbase : m.ideal.base + offset.toInt = moved.toInt :=
    (Word.add?_eq_some_iff.mp hmoved).symm
  rw [Follows, hop, hadvance]
  refine ⟨(if_pos hread).trans ?_, ?_⟩
  · rw [hpc, hfirst, hbase]
    rfl
  · rw [hrun]

/-- **Carrying out an instruction follows the table.** -/
theorem follows_perform (hplace : f.InPlace m.memory m.pc) (hrun : m.halted = false)
    (heffect : f.effect m.memory m.base = .ok effect)
    (h : (m.perform f effect).1 = .ok b) : m.Follows f (m.perform f effect) := by
  cases Fetched.yields_of_effect hplace.length_parameters heffect with
  | store hop hparams hx hy haddress hvalue =>
      exact follows_combination hplace hrun hop hparams hx hy haddress hvalue h
  | jump hop hparams hcondition htarget hbranches =>
      exact follows_branch hplace hrun hop hparams hcondition htarget hbranches h
  | deliver hop hparams haddress => exact follows_input hplace hrun hop hparams haddress h
  | receive hop hparams hvalue => exact follows_output hplace hrun hop hparams hvalue h
  | rebase hop hparams hoffset hmoved =>
      exact follows_offset hplace hrun hop hparams hoffset hmoved h
  | halt hop hparams =>
      rw [Follows, hop]
      exact ⟨rfl, rfl⟩

/-- A cell that holds no instruction is skipped by the table as well. -/
theorem ideal_skip {raw : Word} (hrun : m.halted = false)
    (hfetch : Fetch.fetch m.memory m.pc = .ok (.unknown raw))
    (h : (m.skip raw).outcome = .ok b) :
    m.ideal.step = some (m.skip raw).machine.ideal ∧ b = (m.skip raw).machine.halted := by
  obtain ⟨hpc, rfl, hunknown⟩ := Fetch.rawAt_of_fetch_unknown hfetch
  have hstep : m.ideal.step = some { m.ideal with pc := m.ideal.pc + 1 } :=
    (Ideal.step_of_running hrun hpc).trans (Ideal.perform_of_unknown hunknown)
  rw [skip] at h ⊢
  cases hnext : m.pc.inc? 1 with
  | none =>
      rw [hnext] at h
      cases h
  | some next =>
      rw [hnext] at h
      cases h
      have hpc' : m.ideal.pc + 1 = next.toInt := (Register.inc?_eq_some_iff.mp hnext).symm
      rw [hstep, hpc']
      exact ⟨rfl, hrun.symm⟩

/-- **A step that succeeds is a step of the ideal machine.**  It says that the machine has
stopped exactly when it has. -/
theorem ideal_step (h : m.step.outcome = .ok b) :
    m.ideal.step = some m.step.machine.ideal ∧ b = m.step.machine.halted := by
  rw [step_eq_take] at h ⊢
  cases hturn : m.turn with
  | rest =>
      rw [hturn] at h
      have hhalted : m.halted = true := turn_eq_rest_iff.mp hturn
      cases h
      exact ⟨Ideal.step_of_halted hhalted, hhalted.symm⟩
  | refuse fault events =>
      rw [hturn] at h
      cases h
  | skip raw =>
      obtain ⟨hrun, hfetch⟩ := turn_eq_skip_iff.mp hturn
      rw [hturn] at h
      exact ideal_skip hrun hfetch h
  | act f effect =>
      obtain ⟨hrun, hfetch, heffect⟩ := turn_eq_act_iff.mp hturn
      have hplace := inPlace_of_turn hturn
      rw [hturn] at h
      obtain ⟨hideal, houtcome⟩ := follows_perform hplace hrun heffect h
      rw [Ideal.step_of_running hrun hplace.pc_nonneg, hplace.class_ideal]
      exact ⟨hideal, Except.ok.inj (h.symm.trans houtcome)⟩

/-- **A run that succeeds is a run of the ideal machine.**  As long as no step fails, the ideal
machine goes through the same states, and each step says whether it has stopped. -/
theorem ideal_after_ofProgram (program : Program) (limit : Nat) (input : List Word) (n : Nat)
    (h : ∀ k < n, ∃ b,
      (ofProgram program limit (Script.ofInput input)).outcomeAt k = .ok b) :
    (Ideal.start (program.map Int64.toInt) (input.map Int64.toInt)).after n =
        some ((ofProgram program limit (Script.ofInput input)).after n).ideal ∧
      ∀ k < n, ∃ s,
        (Ideal.start (program.map Int64.toInt) (input.map Int64.toInt)).after (k + 1) = some s ∧
          (ofProgram program limit (Script.ofInput input)).outcomeAt k = .ok s.halted := by
  induction n with
  | zero =>
      refine ⟨?_, fun k hk => absurd hk (Nat.not_lt_zero k)⟩
      rw [← ideal_ofProgram program limit input]
      rfl
  | succ n ih =>
      obtain ⟨hstate, hbefore⟩ := ih fun k hk => h k (Nat.lt_succ_of_lt hk)
      obtain ⟨b, hb⟩ := h n (Nat.lt_succ_self n)
      obtain ⟨hnext, hhalted⟩ := ideal_step hb
      have hafter : (Ideal.start (program.map Int64.toInt) (input.map Int64.toInt)).after (n + 1) =
          some ((ofProgram program limit (Script.ofInput input)).after (n + 1)).ideal := by
        rw [Ideal.after, hstate]
        exact hnext
      refine ⟨hafter, ?_⟩
      intro k hk
      rcases Nat.lt_succ_iff_lt_or_eq.mp hk with hlt | rfl
      · exact hbefore k hlt
      · refine ⟨_, hafter, ?_⟩
        rw [hb, hhalted]
        rfl

/-- The input value lands in the cell that is run next, where it is no instruction, and is put
out later. -/
theorem ideal_after_ofProgram_self_modifying :
    let m := ofProgram [109, 6, 203, -2, 0, 204, -2, 1105, 1, 10, 99] 16 (Script.ofInput [42])
    (∀ k < 7, ∃ b, m.outcomeAt k = .ok b) ∧
      ((Ideal.start ([109, 6, 203, -2, 0, 204, -2, 1105, 1, 10, 99].map Int64.toInt)
        ([42].map Int64.toInt)).after 7).map Ideal.output = some [42] := by
  intro m
  have hok : ∀ k < 7, ∃ b, m.outcomeAt k = .ok b := by decide
  refine ⟨hok, ?_⟩
  rw [(ideal_after_ofProgram _ 16 [42] 7 hok).1]
  decide

end IntcodeMachine.Machine
