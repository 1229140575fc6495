import IntcodeMachine.Proofs.Halting

/-!
# The course of known code

Where the cells at the program counter are known, so is the next step: the code gives the
instruction, and the instruction its effect.  Such steps are put together to courses, and a course
that comes to an instruction to stop is a run.

* `Memory.Shows`: the cells from a place on hold some code.
* `Machine.Leads`: a number of steps, each of which lets a run go on, lead from one state to
  another.
* `Machine.stands_of_shows`, `Machine.halts_of_shows`: the code at the program counter gives the
  instruction there.
* `Machine.Stands.leads`: one instruction whose effect is known.
* `Machine.Leads.trans`: one course after another.
* `Machine.Leads.executes`: a course that comes to an instruction to stop.
-/

namespace IntcodeMachine

namespace Memory

/-- The cells from a place on hold some code. -/
def Shows (memory : Memory) (place : Nat) : (code : List Word) → Prop
  | [] => True
  | value :: rest => memory.cell place = value ∧ memory.Shows (place + 1) rest

variable {memory : Memory} {place : Nat} {code : List Word}

/-- The code is what its cells hold. -/
theorem Shows.eq_map_cell (h : memory.Shows place code) :
    code = (List.range code.length).map fun i => memory.cell (place + i) := by
  induction code generalizing place with
  | nil => rfl
  | cons value rest ih =>
      obtain ⟨hcell, hrest⟩ := h
      rw [List.length_cons, List.range_succ_eq_map, List.map_cons, List.map_map, Nat.add_zero,
        hcell]
      refine congrArg (value :: ·) ((ih hrest).trans ?_)
      refine List.map_congr_left fun i _ => ?_
      rw [Function.comp_apply, Nat.succ_eq_add_one, Nat.add_assoc, Nat.add_comm 1]

/-- A write behind code leaves it alone. -/
theorem Shows.put (h : memory.Shows place code) {i : Nat} (hi : place + code.length ≤ i)
    (value : Word) : (memory.put i value).Shows place code := by
  induction code generalizing place with
  | nil => trivial
  | cons first rest ih =>
      rw [List.length_cons] at hi
      refine ⟨?_, ih h.2 (by omega)⟩
      rw [cell_put_of_ne memory value (by omega)]
      exact h.1

/-- A program is in memory from the start of it. -/
theorem shows_program (program : Program) (limit : Nat) :
    Shows { cells := program.toArray, limit } 0 program := by
  have hfrom : ∀ front back : List Word, front ++ back = program →
      Shows { cells := program.toArray, limit } front.length back := by
    intro front back hprogram
    induction back generalizing front with
    | nil => trivial
    | cons value back ih =>
        refine ⟨?_, ?_⟩
        · simp [cell, ← hprogram]
        · have hrest := ih (front ++ [value]) (by rw [← List.append_cons, hprogram])
          rwa [List.length_append] at hrest
  exact hfrom [] program rfl

end Memory

namespace Machine

variable {δ : Type}

/-- The machine runs and stands at an instruction, and `next` is the address behind this. -/
structure Stands (m : Machine δ) (f : Fetched) (next : Word) : Prop where
  running : m.halted = false
  fetch_eq : Fetch.fetch m.memory m.pc = .ok (.known f)
  next_eq : m.pc.inc? f.width = some next

/-- **The code at the program counter gives the instruction there.** -/
theorem stands_of_shows {m : Machine δ} {place : Nat} {raw next : Word} {op : Opcode}
    {modes : List Mode} {values : List Word} (hrun : m.halted = false)
    (hpc : m.pc.toInt = place) (hcode : m.memory.Shows place (raw :: values))
    (hdecode : Instruction.decode raw = .ok (some { opcode := op, modes }))
    (hlength : values.length = op.arity) (hnext : next.toInt = place + (op.arity + 1)) :
    m.Stands ⟨m.pc, raw, op, List.zipWith Parameter.mk modes values⟩ next where
  running := hrun
  fetch_eq := by
    have hpos : 0 ≤ m.pc.toInt := by omega
    have hplace : m.pc.toInt.toNat = place := by omega
    have hraw : Fetch.rawAt m.memory m.pc = raw := by
      rw [Fetch.rawAt, hplace]
      exact hcode.1
    have hfits := next.toInt_lt
    have hvalues := hcode.2.eq_map_cell
    rw [hlength, ← hplace] at hvalues
    rw [Fetch.fetch_of_nonneg m.memory hpos, hraw, hdecode]
    simp only [Fetch.complete, Instruction.arity, Fetch.window_eq m.memory raw hpos]
    rw [if_pos (by omega), ← hvalues]
    rfl
  next_eq := by
    rw [Register.inc?_eq_some_iff, Fetched.toInt_width, hpc]
    exact hnext

/-- **The code at the program counter stops the machine.** -/
theorem halts_of_shows {memory : Memory} {pc raw : Word} {place : Nat} (hpc : pc.toInt = place)
    (hcode : memory.Shows place [raw]) (hclass : Opcode.classOf raw = 99) :
    Fetch.Halts memory pc := by
  have hplace : pc.toInt.toNat = place := by omega
  refine ⟨by omega, ?_⟩
  rw [hplace, hcode.1, hclass]

variable [Device δ]

/-- A number of steps, each of which lets a run go on, lead from one machine to another. -/
def Leads (m : Machine δ) : (steps : Nat) → (k : Machine δ) → Prop
  | 0, k => m = k
  | n + 1, k => m.step.outcome = .ok false ∧ m.step.machine.Leads n k

variable {m k l : Machine δ} {n : Nat}

/-- **One instruction whose effect is known.** -/
theorem Stands.leads {f : Fetched} {next : Word} {effect : Effect} (h : m.Stands f next)
    (hyields : f.Yields m.memory m.base effect)
    (hperform : m.perform f effect = (.ok false, k)) : m.Leads 1 k := by
  have hturn := turn_of_effect h.running h.fetch_eq hyields.effect_eq
  rw [Leads, Leads, step_eq_take, hturn, take, hperform]
  exact ⟨rfl, rfl⟩

/-- **One course after another.** -/
theorem Leads.trans (h : m.Leads n k) {further : Nat} (hfurther : k.Leads further l) :
    m.Leads (n + further) l := by
  induction n generalizing m with
  | zero =>
      obtain rfl : m = k := h
      rwa [Nat.zero_add]
  | succ n ih =>
      rw [Nat.succ_add]
      exact ⟨h.1, ih h.2⟩

theorem Leads.outcomeAt (h : m.Leads n k) {j : Nat} (hj : j < n) :
    m.outcomeAt j = .ok false := by
  induction n generalizing m j with
  | zero => exact absurd hj (Nat.not_lt_zero j)
  | succ n ih =>
      cases j with
      | zero => exact h.1
      | succ j =>
          rw [Machine.outcomeAt, after_succ_first]
          exact ih h.2 (Nat.lt_of_succ_lt_succ hj)

theorem Leads.after_eq (h : m.Leads n k) : m.after n = k := by
  induction n generalizing m with
  | zero => exact h
  | succ n ih =>
      rw [after_succ_first]
      exact ih h.2

/-- A course that comes to an instruction to stop is followed by the step that stops. -/
theorem Leads.stops (h : m.Leads n k) (hrun : k.halted = false)
    (hhalts : Fetch.Halts k.memory k.pc) :
    m.outcomeAt n = .ok true ∧ m.after (n + 1) = { k with halted := true } := by
  rw [Machine.outcomeAt, after_succ, h.after_eq]
  exact step_of_halts hrun hhalts

/-- **A course that comes to an instruction to stop** is a run that stops there. -/
theorem Leads.executes (h : m.Leads n k) (hrun : k.halted = false)
    (hhalts : Fetch.Halts k.memory k.pc) : m.Executes (.ok ()) { k with halted := true } := by
  obtain ⟨hlast, hafter⟩ := h.stops hrun hhalts
  refine executes_iff.mpr ⟨n, fun j hj => h.outcomeAt hj, ?_, ?_, hafter⟩
  · rw [hlast]
    exact nofun
  · rw [hlast]
    rfl

end Machine

end IntcodeMachine
