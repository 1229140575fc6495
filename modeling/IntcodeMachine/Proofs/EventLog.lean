import IntcodeMachine.Proofs.FaultKinds
import IntcodeMachine.Proofs.Halting

/-!
# The event log of a run

What a step reports is decided between fetching and acting: a fetch that fails is not reported, and
whatever comes after it makes no difference any more.  So the events of a step can be told from the
cells alone, as they stand before the step, even if the instruction then overwrites them or fails.

* `Machine.step_events`: the events of a step, told from the cells at the program counter.
* `Machine.not_debug_of_mem_dropLast_log`: the stop is reported last.
* `Machine.log_tells_run`: the log of a run, and what can be learnt from it.
-/

namespace IntcodeMachine

/-- An event with which the report of a step begins: a cell is skipped, or an instruction is about
to take effect. -/
def Event.isEntry (e : Event) : Bool := e.level = .warn ∨ e.level = .trace

/-- A step came upon a digit that stands for no mode. -/
def refusesMode : Except Fault Bool → Bool
  | .error (.invalidMode _ _ _) => true
  | _ => false

/-- A fault that is not about a mode. -/
def Fault.NotOfMode : Fault → Prop
  | .invalidMode _ _ _ => False
  | .address _ | .immediateDestination _ _ | .overflow _ _ | .malformed _ _ | .device _ => True

namespace Machine

variable {δ : Type}

/-- What is to be reported of the cell at the program counter: that it selects no operation, or else
the operation with the cells after it as its parameters, and that the machine stops if it does. -/
def report (m : Machine δ) : List Event :=
  let raw := m.memory.cell m.pc.toInt.toNat
  match Opcode.ofClass? (Opcode.classOf raw) with
  | none => [.unknownOpcode m.pc raw]
  | some op =>
      let parameters := (List.range op.arity).map fun i => m.memory.cell (m.pc.toInt.toNat + 1 + i)
      .execute m.pc raw op parameters :: if op = .halt then [.halted m.pc] else []

theorem report_of_unknown {m : Machine δ}
    (h : Opcode.ofClass? (Opcode.classOf (Fetch.rawAt m.memory m.pc)) = none) :
    m.report = [.unknownOpcode m.pc (Fetch.rawAt m.memory m.pc)] := by
  unfold Fetch.rawAt at h ⊢
  simp only [report, h]

/-- The report of an instruction are the events that it has when it is fetched. -/
theorem report_of_inPlace {m : Machine δ} {f : Fetched} (h : f.InPlace m.memory m.pc) :
    m.report = f.events := by
  have hop := h.opcode_eq
  rw [h.raw_eq, Fetch.rawAt] at hop
  simp only [report, hop, Fetched.events, h.values_eq, h.pc_eq, h.raw_eq, Fetch.rawAt]
  split <;> rfl

/-- Every report begins with its only entry, and this is at the program counter. -/
theorem filter_isEntry_report (m : Machine δ) :
    ∃ e, m.report.filter Event.isEntry = [e] ∧ e.pc = m.pc := by
  cases hop : Opcode.ofClass? (Opcode.classOf (m.memory.cell m.pc.toInt.toNat)) with
  | none =>
      simp only [report, hop]
      exact ⟨_, rfl, rfl⟩
  | some op =>
      simp only [report, hop]
      by_cases hhalt : op = .halt
      · rw [if_pos hhalt]
        exact ⟨_, rfl, rfl⟩
      · rw [if_neg hhalt]
        exact ⟨_, rfl, rfl⟩

/-- Only the last event of a report tells that the machine stops. -/
theorem not_debug_of_mem_dropLast_report {m : Machine δ} {e : Event}
    (he : e ∈ m.report.dropLast) : e.level ≠ .debug := by
  cases hop : Opcode.ofClass? (Opcode.classOf (m.memory.cell m.pc.toInt.toNat)) with
  | none =>
      simp only [report, hop] at he
      cases he
  | some op =>
      simp only [report, hop] at he
      by_cases hhalt : op = .halt
      · rw [if_pos hhalt] at he
        obtain rfl := List.mem_singleton.mp he
        exact nofun
      · rw [if_neg hhalt] at he
        cases he

/-- An instruction whose report tells that the machine stops has the class 99. -/
theorem class_of_debug {m : Machine δ} {e : Event} (he : e ∈ m.report) (hdebug : e.level = .debug) :
    Opcode.classOf (m.memory.cell m.pc.toInt.toNat) = 99 := by
  cases hop : Opcode.ofClass? (Opcode.classOf (m.memory.cell m.pc.toInt.toNat)) with
  | none =>
      simp only [report, hop] at he
      obtain rfl := List.mem_singleton.mp he
      cases hdebug
  | some op =>
      simp only [report, hop] at he
      by_cases hhalt : op = .halt
      · rw [Opcode.ofClass?_eq_some_iff.mp hop, hhalt]
        rfl
      · rw [if_neg hhalt] at he
        obtain rfl := List.mem_singleton.mp he
        cases hdebug

variable [Device δ]

/-- The step of a machine is not reported: the machine has stopped, or its program counter is
negative, or it comes upon a digit that stands for no mode. -/
def silent (m : Machine δ) : Bool :=
  m.halted || decide (m.pc.toInt < 0) || refusesMode m.step.outcome

/-- All that is reported in a number of steps, each taken whatever came of the one before. -/
def log (m : Machine δ) : Nat → List Event
  | 0 => []
  | n + 1 => m.log n ++ (m.after n).step.events

variable {m : Machine δ}

/-- A fetch fails silently, in a memory that can be held. -/
theorem silent_of_fetch_error {fault : Fault} (hsize : m.memory.size < Memory.capacity)
    (hrun : m.halted = false) (hfetch : Fetch.fetch m.memory m.pc = .error fault) :
    m.silent = true := by
  rcases Int.lt_or_le m.pc.toInt 0 with hneg | hpc
  · simp [silent, hneg]
  · cases hop : Opcode.ofClass? (Opcode.classOf (Fetch.rawAt m.memory m.pc)) with
    | none =>
        rw [Fetch.fetch_of_unknown m.memory hpc hop] at hfetch
        cases hfetch
    | some op =>
        cases hmodes : Instruction.modesOf (Fetch.rawAt m.memory m.pc) op.arity with
        | error e =>
            have hmode := Fetch.fetch_of_invalidMode m.memory hpc hop hmodes
            simp [silent, step_of_fetch_error hrun hmode, refusesMode]
        | ok modes =>
            obtain ⟨f, hknown, _⟩ := Fetch.fetch_of_modes hsize hpc hop hmodes
            rw [hknown] at hfetch
            cases hfetch

/-- A step that does not fail for a mode is reported, if it is taken at an address. -/
theorem not_silent (hrun : m.halted = false) (hpc : 0 ≤ m.pc.toInt)
    (h : FailsWithin Fault.NotOfMode m.step.outcome) :
    m.silent = false := by
  have hmode : refusesMode m.step.outcome = false := by
    cases houtcome : m.step.outcome with
    | error fault =>
        have hfault := h fault houtcome
        cases fault with
        | invalidMode pc raw digit => exact hfault.elim
        | address _ | immediateDestination _ _ | overflow _ _ | malformed _ _ | device _ => rfl
    | ok b => rfl
  simp [silent, hrun, hmode, hpc]

/-- **The events of a step can be told from the cells.** -/
theorem step_events (hsize : m.memory.size < Memory.capacity) :
    m.step.events = if m.silent then [] else m.report := by
  have hstep := m.step_eq_take
  have harises := m.arises_turn
  generalize m.turn = turn at hstep harises
  cases harises with
  | rest hhalted =>
      have hsilent : m.silent = true := by simp [silent, hhalted]
      rw [hsilent, hstep]
      rfl
  | unfetched hrun hfetch =>
      rw [silent_of_fetch_error hsize hrun hfetch, hstep]
      rfl
  | skip hrun hfetch =>
      obtain ⟨hpc, rfl, hop⟩ := Fetch.rawAt_of_fetch_unknown hfetch
      have hspoken : m.silent = false := by
        refine not_silent hrun hpc ?_
        rw [hstep, take, skip]
        cases m.pc.inc? 1 with
        | none => exact .error trivial
        | some next => exact .ok false
      rw [hspoken, hstep, report_of_unknown hop, take, skip]
      cases m.pc.inc? 1 <;> rfl
  | @ineffective f fault hrun hfetch heffect =>
      have hplace := Fetch.inPlace_of_fetch hfetch
      have hspoken : m.silent = false := by
        refine not_silent hrun hplace.pc_nonneg ?_
        have hfaults : FailsWithin Fault.NotOfMode (f.effect m.memory m.base) :=
          .effect (fun _ => trivial) hplace.length_parameters trivial (fun _ _ _ _ => trivial)
            m.memory m.base
        rw [hstep]
        exact .error (hfaults _ heffect)
      rw [hspoken, hstep, report_of_inPlace hplace]
      rfl
  | @act f effect hrun hfetch heffect =>
      have hplace := Fetch.inPlace_of_fetch hfetch
      have hspoken : m.silent = false := by
        refine not_silent hrun hplace.pc_nonneg ?_
        have hfaults : FailsWithin Fault.NotOfMode (m.perform f effect).1 :=
          .perform (fun _ => trivial) trivial (fun _ => trivial) m effect
        rw [hstep]
        exact hfaults
      rw [hspoken, hstep, report_of_inPlace hplace]
      rfl

/-- A step that succeeds on a machine that runs is reported. -/
theorem not_silent_of_ok {b : Bool} (hrun : m.halted = false) (h : m.step.outcome = .ok b) :
    m.silent = false := by
  have hpc : 0 ≤ m.pc.toInt := by
    by_contra hneg
    rw [step_of_fetch_error hrun (Fetch.fetch_of_neg m.memory (by omega))] at h
    cases h
  refine not_silent hrun hpc ?_
  rw [h]
  exact .ok b

/-- The events that a step begins with: one at the program counter, if it is reported. -/
theorem entries_step (hsize : m.memory.size < Memory.capacity) :
    (m.step.events.filter Event.isEntry).map Event.pc = if m.silent then [] else [m.pc] := by
  rw [step_events hsize]
  cases m.silent with
  | true => rfl
  | false =>
      obtain ⟨e, hentry, hpc⟩ := m.filter_isEntry_report
      rw [if_neg Bool.false_ne_true, if_neg Bool.false_ne_true, hentry, ← hpc]
      rfl

/-- A step that tells that the machine stops makes it stop. -/
theorem halted_of_debug {e : Event} (hsize : m.memory.size < Memory.capacity)
    (he : e ∈ m.step.events) (hdebug : e.level = .debug) : m.step.machine.halted = true := by
  rw [step_events hsize] at he
  cases hsilent : m.silent with
  | true =>
      rw [hsilent] at he
      cases he
  | false =>
      rw [hsilent, if_neg Bool.false_ne_true] at he
      simp only [silent, Bool.or_eq_false_iff, decide_eq_false_iff_not, Int.not_lt] at hsilent
      obtain ⟨⟨hrun, hpc⟩, _⟩ := hsilent
      rw [(step_of_halts hrun ⟨hpc, class_of_debug he hdebug⟩).2]

section Log

variable (h : m.memory.Bounded) (n : Nat)

include h

/-- The log are the reports of the steps, one after the other. -/
theorem log_eq_flatMap :
    m.log n = (List.range n).flatMap fun k =>
      if (m.after k).silent then [] else (m.after k).report := by
  induction n with
  | zero => rfl
  | succ n ih =>
      rw [log, ih, step_events (bounded_after h n).size_lt, List.range_succ, List.flatMap_append,
        List.flatMap_singleton]

/-- **The log tells where the machine was.** -/
theorem entries_log :
    ((m.log n).filter Event.isEntry).map Event.pc =
      ((List.range n).filter fun k => !(m.after k).silent).map fun k => (m.after k).pc := by
  induction n with
  | zero => rfl
  | succ n ih =>
      rw [log, List.filter_append, List.map_append, ih,
        entries_step (bounded_after h n).size_lt, List.range_succ, List.filter_append,
        List.map_append, List.filter_singleton]
      cases (m.after n).silent <;> rfl

/-- Once the stop has been reported, the machine has stopped. -/
theorem halted_of_mem_log {e : Event} (he : e ∈ m.log n) (hdebug : e.level = .debug) :
    (m.after n).halted = true := by
  induction n with
  | zero => cases he
  | succ n ih =>
      rw [log] at he
      rcases List.mem_append.mp he with hbefore | hlast
      · have hhalted := ih hbefore
        rw [after_succ, step_of_halted hhalted]
        exact hhalted
      · exact halted_of_debug (bounded_after h n).size_lt hlast hdebug

/-- **The stop is reported last.** -/
theorem not_debug_of_mem_dropLast_log {e : Event} (he : e ∈ (m.log n).dropLast) :
    e.level ≠ .debug := by
  induction n with
  | zero => cases he
  | succ n ih =>
      rw [log] at he
      by_cases hnone : (m.after n).step.events = []
      · rw [hnone, List.append_nil] at he
        exact ih he
      · rw [List.dropLast_append_of_ne_nil hnone] at he
        rcases List.mem_append.mp he with hbefore | hlast
        · -- a machine that had stopped before would have nothing to report now
          intro hdebug
          have hhalted := halted_of_mem_log h n hbefore hdebug
          rw [step_of_halted hhalted] at hnone
          exact hnone rfl
        · rw [step_events (bounded_after h n).size_lt] at hlast
          split at hlast
          · cases hlast
          · exact not_debug_of_mem_dropLast_report hlast

end Log

/-- A run reports what its steps do. -/
theorem events_run (m : Machine δ) (limit : Nat) :
    (m.run limit).events.toList = m.log (m.run limit).calls := by
  have hproceed : ∀ (limit : Nat) (r : Run δ), r.machine = m.after r.calls →
      r.events.toList = m.log r.calls →
      (Run.proceed limit r).events.toList = m.log (Run.proceed limit r).calls := by
    intro limit
    induction limit with
    | zero => exact fun _ _ hevents => hevents
    | succ limit ih =>
        intro r hmachine hevents
        unfold Run.proceed
        split
        · refine ih r.next ?_ ?_
          · change r.machine.step.machine = m.after (r.calls + 1)
            rw [hmachine, after_succ]
          · change (r.events ++ r.machine.step.events).toList = m.log (r.calls + 1)
            rw [Array.toList_appendList, hevents, hmachine, log]
        · exact hevents
  exact hproceed limit (Run.start m) rfl rfl

/-- **The log of a run is a faithful trace.**  It is made of the reports of the steps in their
order, each told from the cells as they stand before the step.  Every step that succeeds on a
machine that runs begins its report with exactly one event that a cell is skipped or an instruction
is about to take effect.  That the machine stops is reported at most once, and last.  The program
counters of the log are those of the steps that are reported, in order; so they are all that were
visited, as long as steps succeed on a machine that runs.  And a run to the stop or the first
failure reports what its steps do. -/
theorem log_tells_run (m : Machine δ) (h : m.memory.Bounded) (n : Nat) :
    (m.log n = (List.range n).flatMap fun k =>
      if (m.after k).silent then [] else (m.after k).report) ∧
    (∀ k b, (m.after k).halted = false → m.outcomeAt k = .ok b →
      (m.after k).step.events.countP Event.isEntry = 1) ∧
    (m.log n).countP (fun e => e.level = .debug) ≤ 1 ∧
    (∀ e ∈ (m.log n).dropLast, e.level ≠ .debug) ∧
    ((m.log n).filter Event.isEntry).map Event.pc =
      ((List.range n).filter fun k => !(m.after k).silent).map (fun k => (m.after k).pc) ∧
    ((∀ k, k < n → (m.after k).halted = false ∧ ∃ b, m.outcomeAt k = .ok b) →
      ((m.log n).filter Event.isEntry).map Event.pc =
        (List.range n).map fun k => (m.after k).pc) ∧
    ∀ limit, (m.run limit).events.toList = m.log (m.run limit).calls := by
  have hlast : ∀ e ∈ (m.log n).dropLast, e.level ≠ .debug :=
    fun _ he => not_debug_of_mem_dropLast_log h n he
  refine ⟨log_eq_flatMap h n, ?_, ?_, hlast, entries_log h n, ?_, m.events_run⟩
  · intro k b hrun hok
    have hentries := congrArg List.length (entries_step (bounded_after h k).size_lt)
    rw [not_silent_of_ok hrun hok, List.length_map, ← List.countP_eq_length_filter] at hentries
    exact hentries
  · rcases List.eq_nil_or_concat (m.log n) with hnil | ⟨before, e, hconcat⟩
    · simp [hnil]
    · rw [hconcat, List.concat_eq_append] at hlast ⊢
      rw [List.dropLast_concat] at hlast
      have hbefore : before.countP (fun e => e.level = .debug) = 0 :=
        List.countP_eq_zero.mpr fun e he => by simpa using hlast e he
      rw [List.countP_append, hbefore, Nat.zero_add]
      exact List.countP_le_length
  · intro hsteps
    rw [entries_log h n, List.filter_eq_self.mpr]
    intro k hk
    obtain ⟨hrun, b, hok⟩ := hsteps k (List.mem_range.mp hk)
    rw [not_silent_of_ok hrun hok]
    rfl

/-- A cell is skipped, an instruction overwrites itself, and one with a negative raw value stops the
machine; two more steps are taken. -/
theorem log_tells_run_self_modifying :
    let m := ofProgram [42, 1101, 40, 59, 1, -1] 16 (Script.ofInput [])
    m.memory.Bounded ∧
      m.log 5 = [.unknownOpcode 0 42, .execute 1 1101 .add [40, 59, 1], .execute 5 (-1) .halt [],
        .halted 5] ∧
      (m.after 1).halted = false ∧ m.outcomeAt 1 = .ok false ∧
      (m.after 1).step.events.countP Event.isEntry = 1 ∧
      (∀ k, k < 3 → (m.after k).halted = false ∧ ∃ b, m.outcomeAt k = .ok b) ∧
      ((m.log 3).filter Event.isEntry).map Event.pc = [0, 1, 5] := by
  intro m
  have hbounded : m.memory.Bounded := ⟨by decide, by decide⟩
  obtain ⟨hlog, hentry, _⟩ := log_tells_run m hbounded 5
  obtain ⟨_, _, _, _, _, hvisited, _⟩ := log_tells_run m hbounded 3
  have hrun : (m.after 1).halted = false := by decide
  have hok : m.outcomeAt 1 = .ok false := by decide
  have hsteps : ∀ k, k < 3 → (m.after k).halted = false ∧ ∃ b, m.outcomeAt k = .ok b := by
    intro k hk
    obtain rfl | rfl | rfl : k = 0 ∨ k = 1 ∨ k = 2 := by omega
    · exact ⟨by decide, false, by decide⟩
    · exact ⟨hrun, false, hok⟩
    · exact ⟨by decide, true, by decide⟩
  refine ⟨hbounded, ?_, hrun, hok, hentry 1 false hrun hok, hsteps, ?_⟩
  · rw [hlog]
    decide
  · rw [hvisited hsteps]
    decide

end Machine

end IntcodeMachine
