import IntcodeMachine.Proofs.Ideal

/-!
# Which fault

The reasons to refuse a step stand in a fixed order, and the fault reported is the one of the
first reason that applies.  `Machine.checks` lists the reasons for the instruction at hand,
each as a condition on the integers that the instruction means.  Every stage of a step reports
by its own part of the list, and stages in a row report by the parts in a row.

* `Reports.bind`: two stages report by their checks in a row.
* `Machine.step_error_iff`: a step reports by `Machine.checks`.
-/

namespace IntcodeMachine

/-- A reason to refuse a step, and the fault that is then reported. -/
structure Check where
  fails : Prop
  fault : Fault

/-- The fault is the one of the first check that fails. -/
def FirstFault : List Check → Fault → Prop
  | [], _ => False
  | c :: rest, fault => (c.fails ∧ fault = c.fault) ∨ (¬ c.fails ∧ FirstFault rest fault)

/-- No check fails. -/
def Passes (checks : List Check) : Prop := ∀ c ∈ checks, ¬ c.fails

theorem firstFault_append {first second : List Check} {fault : Fault} :
    FirstFault (first ++ second) fault ↔
      FirstFault first fault ∨ (Passes first ∧ FirstFault second fault) := by
  induction first with
  | nil => simp [FirstFault, Passes]
  | cons c rest ih =>
      simp only [List.cons_append, FirstFault, ih, Passes, List.forall_mem_cons]
      by_cases hc : c.fails
      · simp [hc]
      · simp [hc]

theorem FirstFault.unique {checks : List Check} {fault other : Fault}
    (h : FirstFault checks fault) (h' : FirstFault checks other) : fault = other := by
  induction checks with
  | nil => exact h.elim
  | cons c rest ih =>
      rcases h with ⟨hc, rfl⟩ | ⟨hc, hrest⟩
      · rcases h' with ⟨_, rfl⟩ | ⟨hc', _⟩
        · rfl
        · exact absurd hc hc'
      · rcases h' with ⟨hc', _⟩ | ⟨_, hrest'⟩
        · exact absurd hc' hc
        · exact ih hrest hrest'

theorem FirstFault.not_passes {checks : List Check} {fault : Fault}
    (h : FirstFault checks fault) : ¬ Passes checks := by
  induction checks with
  | nil => exact h.elim
  | cons c rest ih =>
      intro hpasses
      rcases h with ⟨hc, _⟩ | ⟨_, hrest⟩
      · exact hpasses c List.mem_cons_self hc
      · exact ih hrest fun d hd => hpasses d (List.mem_cons_of_mem c hd)

/-- If no fault is the first one, all checks pass. -/
theorem passes_of_no_fault {checks : List Check} (h : ∀ fault, ¬ FirstFault checks fault) :
    Passes checks := by
  induction checks with
  | nil => exact fun c hc => absurd hc List.not_mem_nil
  | cons c rest ih =>
      have hc : ¬ c.fails := fun hc => h c.fault (Or.inl ⟨hc, rfl⟩)
      have hrest : Passes rest := ih fun fault hfault => h fault (Or.inr ⟨hc, hfault⟩)
      exact List.forall_mem_cons.mpr ⟨hc, hrest⟩

/-- Of checks numbered from 0 on, the one that fails with the lowest number counts. -/
theorem firstFault_map_range {check : Nat → Check} {count : Nat} {fault : Fault} :
    FirstFault ((List.range count).map check) fault ↔
      ∃ i, i < count ∧ (check i).fails ∧ (∀ j, j < i → ¬ (check j).fails) ∧
        fault = (check i).fault := by
  induction count with
  | zero => simp [FirstFault]
  | succ count ih =>
      rw [List.range_succ, List.map_append, firstFault_append, ih]
      constructor
      · intro h
        rcases h with ⟨i, hi, hrest⟩ | ⟨hpasses, hlast⟩
        · exact ⟨i, Nat.lt_succ_of_lt hi, hrest⟩
        · rcases hlast with ⟨hfails, hfault⟩ | ⟨_, hnone⟩
          · refine ⟨count, Nat.lt_succ_self count, hfails, ?_, hfault⟩
            intro j hj
            exact hpasses (check j) (List.mem_map_of_mem (List.mem_range.mpr hj))
          · exact hnone.elim
      · intro h
        obtain ⟨i, hi, hfails, hlower, hfault⟩ := h
        rcases Nat.lt_succ_iff_lt_or_eq.mp hi with hlt | rfl
        · exact Or.inl ⟨i, hlt, hfails, hlower, hfault⟩
        · refine Or.inr ⟨?_, Or.inl ⟨hfails, hfault⟩⟩
          intro c hc
          obtain ⟨j, hj, rfl⟩ := List.mem_map.mp hc
          exact hlower j (List.mem_range.mp hj)

/-- A computation reports the fault of the first check that fails, and no other. -/
def Reports {α : Type} (checks : List Check) (x : Except Fault α) : Prop :=
  ∀ fault, x = .error fault ↔ FirstFault checks fault

namespace Reports

variable {α β : Type}

theorem ok (a : α) : Reports [] (.ok a) := by
  intro fault
  simp [FirstFault]

theorem passes {checks : List Check} {a : α} (h : Reports checks (.ok a)) : Passes checks := by
  apply passes_of_no_fault
  intro fault hfault
  cases (h fault).mpr hfault

/-- **Two stages report by their checks in a row.** -/
theorem bind {checks later : List Check} {x : Except Fault α} {k : α → Except Fault β}
    (hx : Reports checks x) (hk : ∀ a, x = .ok a → Reports later (k a)) :
    Reports (checks ++ later) (x >>= k) := by
  intro fault
  rw [firstFault_append]
  cases x with
  | error other =>
      have hfirst : FirstFault checks other := (hx other).mp rfl
      constructor
      · intro h
        cases h
        exact Or.inl hfirst
      · intro h
        rcases h with h | ⟨hpasses, _⟩
        · rw [h.unique hfirst]
          rfl
        · exact absurd hpasses hfirst.not_passes
  | ok a =>
      have hpasses := hx.passes
      constructor
      · intro h
        exact Or.inr ⟨hpasses, (hk a rfl fault).mp h⟩
      · intro h
        rcases h with h | ⟨_, h⟩
        · exact absurd hpasses h.not_passes
        · exact (hk a rfl fault).mpr h

/-- A check that passes may stand in front. -/
theorem cons_of_not {c : Check} {checks : List Check} {x : Except Fault α} (hc : ¬ c.fails)
    (h : Reports checks x) : Reports (c :: checks) x := by
  intro fault
  simp [FirstFault, hc, h fault]

/-- A check that fails hides all after it. -/
theorem of_fails {c : Check} {checks : List Check} {x : Except Fault α} (hc : c.fails)
    (h : x = .error c.fault) : Reports (c :: checks) x := by
  intro fault
  simp [FirstFault, hc, h, eq_comm]

/-- A computation that fails just if a check does reports by it. -/
theorem single {c : Check} {x : Except Fault α} (hfails : c.fails → x = .error c.fault)
    (hpasses : ¬ c.fails → ∃ a, x = .ok a) : Reports [c] x := by
  by_cases hc : c.fails
  · exact of_fails hc (hfails hc)
  · obtain ⟨a, ha⟩ := hpasses hc
    rw [ha]
    exact cons_of_not hc (ok a)

end Reports

namespace Machine

variable {δ : Type}

/-- The raw value of the instruction at hand. -/
def raw (m : Machine δ) : Word := Fetch.rawAt m.memory m.pc

/-- What a step comes to, once it is known what the program counter points at. -/
def outcomeOf [Device δ] (m : Machine δ) : Fetch → Except Fault Bool
  | .unknown raw => (m.skip raw).outcome
  | .known f => f.effect m.memory m.base >>= fun effect => (m.perform f effect).1

/-- A step fetches and then acts. -/
theorem outcome_of_running [Device δ] {m : Machine δ} (hrun : m.halted = false) :
    m.step.outcome = Fetch.fetch m.memory m.pc >>= m.outcomeOf := by
  cases hfetch : Fetch.fetch m.memory m.pc with
  | error fault =>
      rw [step_of_fetch_error hrun hfetch]
      rfl
  | ok found =>
      cases found with
      | unknown raw =>
          rw [step_of_unknown hrun hfetch]
          rfl
      | known f =>
          rw [step_of_known hrun hfetch, carryOut]
          show _ = f.effect m.memory m.base >>= fun effect => (m.perform f effect).1
          cases f.effect m.memory m.base <;> rfl

section Checks

variable (m : Machine Script)

/-- The program counter is negative. -/
def pcCheck : Check where
  fails := m.pc.toInt < 0
  fault := .address (.negative m.pc)

/-- A cell that holds no instruction has the last address of all. -/
def skipCheck : Check where
  fails := m.pc.toInt = 0x7FFFFFFFFFFFFFFF
  fault := .overflow m.pc m.raw

/-- The digit in a place stands for no mode. -/
def modeCheck (i : Nat) : Check where
  fails := 2 < m.ideal.mode i
  fault := .invalidMode m.pc m.raw (m.ideal.mode i)

/-- A relative parameter and the base add up to no word. -/
def rangeCheck (i : Nat) : Check where
  fails := m.ideal.mode i = 2 ∧ ¬ Word.InRange (m.ideal.address i)
  fault := .overflow m.pc m.raw

/-- The address that a parameter means is negative.  Its range is checked before, so it is the
value of the word that the fault names. -/
def signCheck (i : Nat) : Check where
  fails := m.ideal.mode i ≠ 1 ∧ m.ideal.address i < 0
  fault := .address (.negative (Int64.ofInt (m.ideal.address i)))

/-- The destination is given as a value. -/
def valueCheck (i : Nat) : Check where
  fails := m.ideal.mode i = 1
  fault := .immediateDestination m.pc m.raw

/-- A result is no word. -/
def exactCheck (n : Int) : Check where
  fails := ¬ Word.InRange n
  fault := .overflow m.pc m.raw

/-- There is no input value left. -/
def inputCheck : Check where
  fails := m.device.feed.pending = []
  fault := .device .exhausted

/-- Memory cannot grow as far as the address that a parameter means. -/
def limitCheck (i : Nat) : Check where
  fails := m.memory.limit ≤ m.ideal.address i
  fault := .address (.beyond (Int64.ofInt (m.ideal.address i)))

/-- What is checked of a parameter that is read. -/
def readChecks (i : Nat) : List Check := [m.rangeCheck i, m.signCheck i]

/-- What is checked of a destination before it is written to. -/
def targetChecks (i : Nat) : List Check := [m.valueCheck i, m.rangeCheck i]

/-- What is checked of a destination when it is written to. -/
def writeChecks (i : Nat) : List Check := [m.signCheck i, m.limitCheck i]

/-- What is checked of a result. -/
def resultChecks : Opcode → List Check
  | .add => [m.exactCheck (m.ideal.operand 0 + m.ideal.operand 1)]
  | .multiply => [m.exactCheck (m.ideal.operand 0 * m.ideal.operand 1)]
  | .relativeBaseOffset => [m.exactCheck (m.ideal.base + m.ideal.operand 0)]
  | _ => []

/-- What is checked of an operation and its parameters, after their modes. -/
def actionChecks (op : Opcode) : List Check :=
  -- operands, destination and result come before the device and the write
  (List.range (if op.writes then op.arity - 1 else op.arity)).flatMap m.readChecks ++
    ((if op.writes then m.targetChecks (op.arity - 1) else []) ++
      (m.resultChecks op ++
        ((if op = .input then [m.inputCheck] else []) ++
          (if op.writes then m.writeChecks (op.arity - 1) else []))))

/-- **The reasons to refuse a step**, in the order in which they count. -/
def checks : List Check :=
  m.pcCheck ::
    match Opcode.ofClass? (m.ideal.raw % 100) with
    | none => [m.skipCheck]
    | some op => (List.range op.arity).map m.modeCheck ++ m.actionChecks op

end Checks

variable {m : Machine Script} {f : Fetched}

theorem overflow_of_inPlace (h : f.InPlace m.memory m.pc) :
    f.overflow = .overflow m.pc m.raw := by
  rw [Fetched.overflow, h.pc_eq, h.raw_eq]
  rfl

theorem reports_exact (h : f.InPlace m.memory m.pc) (n : Int) :
    Reports [m.exactCheck n] (f.exact (Word.ofInt? n)) := by
  apply Reports.single
  · intro hout
    rw [Word.ofInt?_eq_none_iff.mpr hout, Fetched.exact, overflow_of_inPlace h]
    rfl
  · intro hin
    have hrange : Word.InRange n := not_not.mp hin
    exact ⟨Int64.ofInt n, Fetched.exact_eq_ok_iff.mpr (if_pos hrange)⟩

/-- A load fails just if the address is negative. -/
theorem reports_load {i : Nat} {address : Word} (hmode : m.ideal.mode i ≠ 1)
    (h : m.ideal.address i = address.toInt) :
    Reports [m.signCheck i] (m.memory.load address) := by
  apply Reports.single
  · intro hfails
    obtain ⟨_, hneg⟩ := hfails
    rw [h] at hneg
    rw [m.memory.load_of_neg hneg, signCheck, h, Int64.ofInt_toInt]
  · intro hsign
    have hnonneg : 0 ≤ address.toInt := by
      rw [← h]
      exact Int.not_lt.mp fun hneg => hsign ⟨hmode, hneg⟩
    exact ⟨_, m.memory.load_of_nonneg hnonneg⟩

/-- The sum of a relative parameter and the base fails just if it is no word. -/
theorem reports_relative {i : Nat} {p : Parameter} (hplace : f.InPlace m.memory m.pc)
    (hp : f.parameters[i]? = some p) (hmode : p.mode = .relative) :
    Reports [m.rangeCheck i] (f.exact (Word.add? p.value m.base)) := by
  have hdigit : m.ideal.mode i = 2 := by
    rw [hplace.mode_ideal hp, hmode]
    rfl
  have hsum : m.ideal.address i = p.value.toInt + m.base.toInt := by
    rw [Ideal.address, if_pos hdigit, hplace.parameter_ideal hp]
    rfl
  intro fault
  rw [Word.add?, ← hsum, reports_exact hplace (m.ideal.address i) fault]
  simp [FirstFault, exactCheck, rangeCheck, hdigit]

/-- An operand is refused for its address: the sum with the base, then the sign. -/
theorem reports_operand {i : Nat} {p : Parameter} (hplace : f.InPlace m.memory m.pc)
    (hp : f.parameters[i]? = some p) :
    Reports (m.readChecks i) (f.operand m.memory m.base p) := by
  have hdigit := hplace.mode_ideal hp
  have hparameter := hplace.parameter_ideal hp
  unfold Fetched.operand
  cases hmode : p.mode with
  | position =>
      have hnotvalue : m.ideal.mode i ≠ 1 := by
        rw [hdigit, hmode]
        decide
      have hnotrelative : m.ideal.mode i ≠ 2 := by
        rw [hdigit, hmode]
        decide
      have haddress : m.ideal.address i = p.value.toInt := by
        rw [Ideal.address, if_neg hnotrelative, hparameter]
      apply Reports.cons_of_not
      · intro hfails
        exact hnotrelative hfails.1
      · exact reports_load hnotvalue haddress
  | immediate =>
      have hvalue : m.ideal.mode i = 1 := by
        rw [hdigit, hmode]
        rfl
      apply Reports.cons_of_not
      · intro hfails
        exact absurd (hvalue.symm.trans hfails.1) (by decide)
      · apply Reports.cons_of_not
        · intro hfails
          exact hfails.1 hvalue
        · exact Reports.ok p.value
  | relative =>
      have hrelative : m.ideal.mode i = 2 := by
        rw [hdigit, hmode]
        rfl
      have hnotvalue : m.ideal.mode i ≠ 1 := by
        rw [hrelative]
        decide
      have hrange := reports_relative hplace hp hmode
      refine Reports.bind hrange fun address hexact => ?_
      have hsum := Word.add?_eq_some_iff.mp (Fetched.exact_eq_ok_iff.mp hexact)
      have haddress : m.ideal.address i = address.toInt := by
        rw [Ideal.address, if_pos hrelative, hparameter, hsum]
        rfl
      exact reports_load hnotvalue haddress

/-- A destination is refused if it is a value, and then for the sum with the base. -/
theorem reports_destination {i : Nat} {p : Parameter} (hplace : f.InPlace m.memory m.pc)
    (hp : f.parameters[i]? = some p) :
    Reports (m.targetChecks i) (f.destination m.base p) := by
  have hdigit := hplace.mode_ideal hp
  unfold Fetched.destination
  cases hmode : p.mode with
  | position =>
      have hzero : m.ideal.mode i = 0 := by
        rw [hdigit, hmode]
        rfl
      apply Reports.cons_of_not
      · intro hvalue
        exact absurd (hzero.symm.trans hvalue) (by decide)
      · apply Reports.cons_of_not
        · intro hfails
          exact absurd (hzero.symm.trans hfails.1) (by decide)
        · exact Reports.ok p.value
  | immediate =>
      have hvalue : m.ideal.mode i = 1 := by
        rw [hdigit, hmode]
        rfl
      apply Reports.of_fails hvalue
      rw [valueCheck, hplace.pc_eq, hplace.raw_eq]
      rfl
  | relative =>
      have hrelative : m.ideal.mode i = 2 := by
        rw [hdigit, hmode]
        rfl
      apply Reports.cons_of_not
      · intro hvalue
        exact absurd (hrelative.symm.trans hvalue) (by decide)
      · exact reports_relative hplace hp hmode

/-- A write is refused for its address: the sign, then the limit. -/
theorem reports_store {i : Nat} {address next : Word} (value : Word)
    (hsize : m.memory.size ≤ m.memory.limit) (hnext : m.pc.inc? f.width = some next)
    (hmode : m.ideal.mode i ≠ 1) (h : m.ideal.address i = address.toInt) :
    Reports (m.writeChecks i) (m.store f address value).1 := by
  rcases Int.lt_or_le address.toInt 0 with hneg | hnonneg
  · refine Reports.of_fails ⟨hmode, by rwa [h]⟩ ?_
    have hslot : m.memory.slot address = .error (.negative address) :=
      Memory.slot_eq_error_iff.mpr (Or.inl ⟨hneg, rfl⟩)
    rw [store_of_slot_error f value hslot, signCheck, h, Int64.ofInt_toInt]
  · have hsign : ¬ (m.signCheck i).fails := by
      intro hfails
      obtain ⟨_, hneg⟩ := hfails
      rw [h] at hneg
      omega
    refine Reports.cons_of_not hsign (Reports.single ?_ ?_)
    · intro hlimit
      have hbeyond : (m.memory.limit : Int) ≤ address.toInt := by
        rw [← h]
        exact hlimit
      have hslot : m.memory.slot address = .error (.beyond address) :=
        Memory.slot_eq_error_iff.mpr (Or.inr ⟨by omega, hbeyond, rfl⟩)
      rw [store_of_slot_error f value hslot, limitCheck, h, Int64.ofInt_toInt]
    · intro hroom
      have hbelow : address.toInt < m.memory.limit := by
        rw [← h]
        exact Int.not_le.mp hroom
      have hslot : m.memory.slot address = .ok address.toInt.toNat :=
        Memory.slot_eq_ok_iff.mpr ⟨by omega, Or.inr (by omega)⟩
      exact ⟨false, by rw [store_of_slot value hslot hnext]⟩

/-- An input value is asked for before it is known whether it can be written. -/
theorem reports_deliver {i : Nat} {address next : Word}
    (hsize : m.memory.size ≤ m.memory.limit) (hnext : m.pc.inc? f.width = some next)
    (hmode : m.ideal.mode i ≠ 1) (h : m.ideal.address i = address.toInt) :
    Reports (m.inputCheck :: m.writeChecks i) (m.deliver f address).1 := by
  cases hpending : m.device.feed.pending with
  | nil => exact Reports.of_fails hpending (by rw [deliver_of_nil f address hpending]; rfl)
  | cons value rest =>
      have hsome : ¬ m.inputCheck.fails := by
        intro hnil
        cases hpending.symm.trans hnil
      rw [deliver_of_cons f address hpending]
      -- taking a value away changes nothing that a check of an address looks at
      exact Reports.cons_of_not hsome (reports_store (m := m.dropInput) value hsize hnext hmode h)

theorem reports_advance {next : Word} (hnext : m.pc.inc? f.width = some next) :
    Reports [] (m.advance f).1 := by
  rw [advance_of_next hnext]
  exact Reports.ok false

/-- Of the combinations, only sums and products may be no word. -/
theorem reports_combine {combine : Word → Word → Option Word} {x y : Word}
    (hplace : f.InPlace m.memory m.pc) (hop : f.opcode.combine? = some combine)
    (hx : m.ideal.operand 0 = x.toInt) (hy : m.ideal.operand 1 = y.toInt) :
    Reports (m.resultChecks f.opcode) (f.exact (combine x y)) := by
  cases hcode : f.opcode with
  | add =>
      rw [hcode] at hop
      cases hop
      rw [resultChecks, hx, hy]
      exact reports_exact hplace (x.toInt + y.toInt)
  | multiply =>
      rw [hcode] at hop
      cases hop
      rw [resultChecks, hx, hy]
      exact reports_exact hplace (x.toInt * y.toInt)
  | lessThan | equals =>
      rw [hcode] at hop
      cases hop
      exact Reports.ok _
  | input | output | jumpIfTrue | jumpIfFalse | relativeBaseOffset | halt =>
      rw [hcode] at hop
      cases hop

theorem reports_combination {combine : Word → Word → Option Word} {a b d : Parameter}
    {next : Word} (hplace : f.InPlace m.memory m.pc) (hsize : m.memory.size ≤ m.memory.limit)
    (hnext : m.pc.inc? f.width = some next) (hop : f.opcode.combine? = some combine)
    (hparams : f.parameters = [a, b, d]) :
    Reports (m.readChecks 0 ++ (m.readChecks 1 ++ (m.targetChecks 2 ++
        (m.resultChecks f.opcode ++ m.writeChecks 2))))
      (f.combination m.memory m.base combine a b d >>= fun effect => (m.perform f effect).1) := by
  have ha : f.parameters[0]? = some a := by rw [hparams]; rfl
  have hb : f.parameters[1]? = some b := by rw [hparams]; rfl
  have hd : f.parameters[2]? = some d := by rw [hparams]; rfl
  simp only [Fetched.combination, bind_assoc, pure_bind]
  refine Reports.bind (reports_operand hplace ha) fun x hx => ?_
  refine Reports.bind (reports_operand hplace hb) fun y hy => ?_
  refine Reports.bind (reports_destination hplace hd) fun address haddress => ?_
  obtain ⟨_, hfirst⟩ := hplace.operand_ideal ha hx
  obtain ⟨_, hsecond⟩ := hplace.operand_ideal hb hy
  obtain ⟨_, hmode, hto⟩ := hplace.destination_ideal hd haddress
  refine Reports.bind (reports_combine hplace hop hfirst hsecond) fun value _ => ?_
  exact reports_store value hsize hnext hmode hto

theorem reports_branch {c t : Parameter} {next : Word} (hplace : f.InPlace m.memory m.pc)
    (hnext : m.pc.inc? f.width = some next) (hparams : f.parameters = [c, t]) :
    Reports (m.readChecks 0 ++ (m.readChecks 1 ++ []))
      (f.branch m.memory m.base c t >>= fun effect => (m.perform f effect).1) := by
  have hc : f.parameters[0]? = some c := by rw [hparams]; rfl
  have ht : f.parameters[1]? = some t := by rw [hparams]; rfl
  simp only [Fetched.branch, bind_assoc, pure_bind]
  refine Reports.bind (reports_operand hplace hc) fun condition _ => ?_
  refine Reports.bind (reports_operand hplace ht) fun target _ => ?_
  cases f.opcode.branches condition with
  | true => exact Reports.ok false
  | false => exact reports_advance hnext

/-- **An instruction reports by its checks.** -/
theorem reports_action (hplace : f.InPlace m.memory m.pc)
    (hlimit : m.memory.limit < Memory.capacity) (hsize : m.memory.size ≤ m.memory.limit) :
    Reports (m.actionChecks f.opcode)
      (f.effect m.memory m.base >>= fun effect => (m.perform f effect).1) := by
  obtain ⟨next, hnext⟩ := hplace.exists_next (Nat.lt_of_le_of_lt hsize hlimit)
  cases Fetched.shape hplace.length_parameters m.memory m.base with
  | @combination combine a b d hop hparams hform =>
      have hreports := reports_combination hplace hsize hnext hop hparams
      rw [hform]
      cases hcode : f.opcode with
      | add | multiply | lessThan | equals =>
          rw [hcode] at hreports
          exact hreports
      | input | output | jumpIfTrue | jumpIfFalse | relativeBaseOffset | halt =>
          rw [hcode] at hop
          cases hop
  | @branch c t hop hparams hform =>
      have hreports := reports_branch hplace hnext hparams
      rw [hform]
      cases hcode : f.opcode with
      | jumpIfTrue | jumpIfFalse => exact hreports
      | add | multiply | input | output | lessThan | equals | relativeBaseOffset | halt =>
          rw [hcode] at hop
          cases hop
  | @input d hop hparams hform =>
      have hd : f.parameters[0]? = some d := by rw [hparams]; rfl
      have hchecks : m.actionChecks .input =
          m.targetChecks 0 ++ m.inputCheck :: m.writeChecks 0 := rfl
      rw [hform, hop, hchecks]
      simp only [bind_assoc]
      refine Reports.bind (reports_destination hplace hd) fun address haddress => ?_
      obtain ⟨_, hmode, hto⟩ := hplace.destination_ideal hd haddress
      exact reports_deliver hsize hnext hmode hto
  | @output a hop hparams hform =>
      have ha : f.parameters[0]? = some a := by rw [hparams]; rfl
      have hchecks : m.actionChecks .output = m.readChecks 0 ++ [] := rfl
      rw [hform, hop, hchecks]
      simp only [bind_assoc]
      refine Reports.bind (reports_operand hplace ha) fun value _ => ?_
      exact reports_advance hnext
  | @offset a hop hparams hform =>
      have ha : f.parameters[0]? = some a := by rw [hparams]; rfl
      have hchecks : m.actionChecks .relativeBaseOffset = m.readChecks 0 ++
          ([m.exactCheck (m.ideal.base + m.ideal.operand 0)] ++ []) := rfl
      rw [hform, hop, hchecks]
      simp only [bind_assoc]
      refine Reports.bind (reports_operand hplace ha) fun offset hoffset => ?_
      obtain ⟨_, hfirst⟩ := hplace.operand_ideal ha hoffset
      rw [hfirst]
      refine Reports.bind (reports_exact hplace (m.base.toInt + offset.toInt)) fun moved _ => ?_
      exact reports_advance hnext
  | halt hop hparams hform =>
      rw [hform, hop]
      exact Reports.ok true

/-- Modes are read lowest digit first, so the lowest wrong one is reported. -/
theorem reports_fetch {op : Opcode} (hpc : 0 ≤ m.pc.toInt)
    (hsize : m.memory.size < Memory.capacity)
    (hop : Opcode.ofClass? (Opcode.classOf m.raw) = some op) :
    Reports ((List.range op.arity).map m.modeCheck) (Fetch.fetch m.memory m.pc) := by
  intro fault
  rw [firstFault_map_range]
  cases hmodes : Instruction.modesOf m.raw op.arity with
  | error e =>
      rw [Fetch.fetch_of_invalidMode m.memory hpc hop hmodes]
      have hlowest := Mode.ofDigits_eq_error_iff.mp hmodes
      rw [Nat.min_eq_left op.arity_le_maxArity] at hlowest
      obtain ⟨i, hi, hbad, hlower, rfl⟩ := hlowest
      constructor
      · intro h
        refine ⟨i, hi, hbad, fun j hj => Nat.not_lt.mpr (hlower j hj), ?_⟩
        exact (Except.error.inj h).symm
      · intro hfirst
        obtain ⟨j, hj, hbad', hlower', rfl⟩ := hfirst
        have hsame : j = i := by
          rcases Nat.lt_trichotomy j i with hlt | heq | hgt
          · exact absurd hbad' (Nat.not_lt.mpr (hlower j hlt))
          · exact heq
          · exact absurd hbad (hlower' i hgt)
        rw [hsame]
        rfl
  | ok modes =>
      obtain ⟨f, hfetch, _⟩ := Fetch.fetch_of_modes hsize hpc hop hmodes
      have hdigits := Mode.ofDigits_eq_ok_iff.mp hmodes
      rw [Nat.min_eq_left op.arity_le_maxArity] at hdigits
      rw [hfetch]
      simp only [reduceCtorEq, false_iff]
      intro hfirst
      obtain ⟨i, hi, hbad, _⟩ := hfirst
      have hmem : m.ideal.mode i ∈ modes.map Mode.digit := by
        rw [hdigits]
        exact List.mem_map_of_mem (List.mem_range.mpr hi)
      obtain ⟨mode, _, hmode⟩ := List.mem_map.mp hmem
      have hle := mode.digit_le_two
      have hgt : 2 < m.ideal.mode i := hbad
      omega

theorem reports_skip :
    Reports [m.skipCheck] (m.skip m.raw).outcome := by
  apply Reports.single
  · intro hlast
    have hnone : m.pc.inc? 1 = none := by
      refine Word.ofInt?_eq_none_iff.mpr ?_
      intro hrange
      obtain ⟨_, hlt⟩ := hrange
      have hpc : m.pc.toInt = 0x7FFFFFFFFFFFFFFF := hlast
      have hone : Int64.toInt 1 = 1 := by decide
      omega
    rw [skip, hnone]
    rfl
  · intro hnotlast
    have hpc : m.pc.toInt ≠ 0x7FFFFFFFFFFFFFFF := hnotlast
    have hrange : Word.InRange (m.pc.toInt + Int64.toInt 1) := by
      have hone : Int64.toInt 1 = 1 := by decide
      have hlow := Int64.le_toInt m.pc
      have hhigh := Int64.toInt_lt m.pc
      unfold Word.InRange
      omega
    have hsome : m.pc.inc? 1 = some (Int64.ofInt (m.pc.toInt + Int64.toInt 1)) := if_pos hrange
    rw [skip, hsome]
    exact ⟨false, rfl⟩

/-- **Which fault.**  A step of a machine that has not stopped fails exactly if one of its
checks does, and the fault is the one of the first that does. -/
theorem step_error_iff (m : Machine Script) (hrun : m.halted = false)
    (hlimit : m.memory.limit < Memory.capacity) (hsize : m.memory.size ≤ m.memory.limit)
    (fault : Fault) : m.step.outcome = .error fault ↔ FirstFault m.checks fault := by
  have hholds : m.memory.size < Memory.capacity := Nat.lt_of_le_of_lt hsize hlimit
  revert fault
  show Reports m.checks m.step.outcome
  rw [outcome_of_running hrun]
  rcases Int.lt_or_le m.pc.toInt 0 with hneg | hpc
  · refine Reports.of_fails hneg ?_
    rw [Fetch.fetch_of_neg m.memory hneg]
    rfl
  · refine Reports.cons_of_not (Int.not_lt.mpr hpc) ?_
    cases hop : Opcode.ofClass? (Opcode.classOf m.raw) with
    | none =>
        rw [Fetch.fetch_of_unknown m.memory hpc hop]
        rw [show Opcode.ofClass? (m.ideal.raw % 100) = none from hop]
        exact reports_skip
    | some op =>
        rw [show Opcode.ofClass? (m.ideal.raw % 100) = some op from hop]
        refine Reports.bind (reports_fetch hpc hholds hop) fun found hfound => ?_
        cases found with
        | unknown raw =>
            obtain ⟨_, rfl, hnone⟩ := Fetch.rawAt_of_fetch_unknown hfound
            cases hop.symm.trans hnone
        | known f =>
            have hplace := Fetch.inPlace_of_fetch hfound
            have hsame : f.opcode = op := by
              have hclass := hplace.opcode_eq
              rw [hplace.raw_eq] at hclass
              exact Option.some.inj (hclass.symm.trans hop)
            rw [← hsame]
            exact reports_action hplace hlimit hsize

/-- Both the destination and the sum are wrong, and the destination counts. -/
theorem step_error_iff_immediate_destination :
    let m := ofProgram [11101, 0x7FFFFFFFFFFFFFFF, 1, 0] 16 (Script.ofInput [])
    m.halted = false ∧ m.memory.limit < Memory.capacity ∧ m.memory.size ≤ m.memory.limit ∧
      FirstFault m.checks (.immediateDestination 0 11101) := by
  intro m
  refine ⟨rfl, by decide, by decide, ?_⟩
  exact (step_error_iff m rfl (by decide) (by decide) _).mp (by decide)

end Machine

end IntcodeMachine
