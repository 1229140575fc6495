import IntcodeMachine.Proofs.Destinations

/-!
# Relative addressing and addressing by position

A relative parameter means the address that lies as far from the relative base as it says, whether
it is read or written.  So an instruction may be written in another way: the parameter becomes that
address and is taken by position, and the raw value gets another digit for it.  The new instruction
does the same as the old one.  It may be at fault for the same reason, and then names its own raw
value.

Writing an instruction anew changes two cells of memory, and the instruction itself may read them.
The law holds if it does not.

* `Fetched.Readdressed.effect`: two instructions whose parameters mean the same have the same
  effect.
* `Machine.step_of_readdressed`: a step on such an instruction.
* `Machine.relative_eq_position`: a step on a relative parameter that is made a position.
-/

namespace IntcodeMachine

namespace Fault

/-- The fault with another raw value, if it names the one of an instruction. -/
def withRaw (raw : Word) : Fault → Fault
  | .immediateDestination pc _ => .immediateDestination pc raw
  | .invalidMode pc _ digit => .invalidMode pc raw digit
  | .overflow pc _ => .overflow pc raw
  | .malformed pc _ => .malformed pc raw
  | .address cause => .address cause
  | .device cause => .device cause

/-- If each of two stages names another raw value, so do both together. -/
theorem mapError_bind {α β : Type} {change : Fault → Fault} {x y : Except Fault α}
    {next other : α → Except Fault β} (hfirst : y = x.mapError change)
    (hsecond : ∀ a, other a = (next a).mapError change) :
    (y >>= other) = (x >>= next).mapError change := by
  subst hfirst
  cases x with
  | error fault => rfl
  | ok a => exact hsecond a

end Fault

/-- Two parameters mean the same: they are the same, or the first one is relative and the second one
is the address that it means, by position. -/
inductive Parameter.Means (base : Word) : Parameter → Parameter → Prop where
  | same (p : Parameter) : Means base p p
  | shifted {value address : Word} (hsum : Word.add? value base = some address) :
      Means base ⟨.relative, value⟩ ⟨.position, address⟩

/-- Two ways to write an instruction: with the same operation in the same place, on parameters that
mean the same. -/
structure Fetched.Readdressed (base : Word) (f g : Fetched) : Prop where
  pc_eq : g.pc = f.pc
  opcode_eq : g.opcode = f.opcode
  parameters : List.Forall₂ (Parameter.Means base) f.parameters g.parameters

theorem Memory.mapError_load (memory : Memory) (raw address : Word) :
    (memory.load address).mapError (Fault.withRaw raw) = memory.load address := by
  unfold load
  cases memory.read address <;> rfl

namespace Fetched.Readdressed

variable {base : Word} {f g : Fetched} {memory other : Memory} {p q : Parameter}

theorem overflow_eq (h : f.Readdressed base g) : g.overflow = f.overflow.withRaw g.raw := by
  rw [overflow, h.pc_eq]
  rfl

theorem exact_eq (h : f.Readdressed base g) (result : Option Word) :
    g.exact result = (f.exact result).mapError (Fault.withRaw g.raw) := by
  cases result with
  | none => exact congrArg Except.error h.overflow_eq
  | some w => rfl

theorem width_eq (h : f.Readdressed base g) : g.width = f.width := by
  rw [width, h.opcode_eq]
  rfl

/-- An operand has the same value, if it is read from a cell that holds the same. -/
theorem operand_eq (h : f.Readdressed base g) (hmeans : Parameter.Means base p q)
    (hload : ∀ a, p.source? base = some a → other.load a = memory.load a) :
    g.operand other base q = (f.operand memory base p).mapError (Fault.withRaw g.raw) := by
  cases hmeans with
  | same =>
      rw [operand_congr hload]
      unfold operand
      cases p.mode with
      | position => exact (memory.mapError_load g.raw p.value).symm
      | immediate => rfl
      | relative =>
          exact Fault.mapError_bind (h.exact_eq _) fun a => (memory.mapError_load g.raw a).symm
  | @shifted value address hsum =>
      have hrelative : f.operand memory base ⟨.relative, value⟩ = memory.load address := by
        simp only [operand, hsum]
        rfl
      rw [hrelative, memory.mapError_load]
      exact hload address hsum

/-- A destination is the same address. -/
theorem destination_eq (h : f.Readdressed base g) (hmeans : Parameter.Means base p q) :
    g.destination base q = (f.destination base p).mapError (Fault.withRaw g.raw) := by
  cases hmeans with
  | same =>
      unfold destination
      cases p.mode with
      | position => rfl
      | immediate => rw [h.pc_eq]; rfl
      | relative => exact h.exact_eq _
  | shifted hsum =>
      simp only [destination, hsum]
      rfl

theorem combination_eq (h : f.Readdressed base g) (combine : Word → Word → Option Word)
    {a b d a' b' d' : Parameter}
    (ha : g.operand other base a' = (f.operand memory base a).mapError (Fault.withRaw g.raw))
    (hb : g.operand other base b' = (f.operand memory base b).mapError (Fault.withRaw g.raw))
    (hd : g.destination base d' = (f.destination base d).mapError (Fault.withRaw g.raw)) :
    g.combination other base combine a' b' d' =
      (f.combination memory base combine a b d).mapError (Fault.withRaw g.raw) := by
  refine Fault.mapError_bind ha fun x => ?_
  refine Fault.mapError_bind hb fun y => ?_
  refine Fault.mapError_bind hd fun address => ?_
  exact Fault.mapError_bind (h.exact_eq _) fun value => rfl

theorem branch_eq (h : f.Readdressed base g) {c t c' t' : Parameter}
    (hc : g.operand other base c' = (f.operand memory base c).mapError (Fault.withRaw g.raw))
    (ht : g.operand other base t' = (f.operand memory base t).mapError (Fault.withRaw g.raw)) :
    g.branch other base c' t' = (f.branch memory base c t).mapError (Fault.withRaw g.raw) := by
  refine Fault.mapError_bind hc fun condition => ?_
  refine Fault.mapError_bind ht fun target => ?_
  rw [h.opcode_eq]
  rfl

/-- **Two instructions whose parameters mean the same have the same effect**, or are at fault for
the same reason, if their operands are read from cells that hold the same. -/
theorem effect_eq (h : f.Readdressed base g) (hlength : f.parameters.length = f.opcode.arity)
    (hload : ∀ p ∈ f.operands, ∀ a, p.source? base = some a → other.load a = memory.load a) :
    g.effect other base = (f.effect memory base).mapError (Fault.withRaw g.raw) := by
  -- to be had before `f` and `g` are taken apart into their fields
  have hoperand : ∀ {p q}, p ∈ f.operands → Parameter.Means base p q →
      g.operand other base q = (f.operand memory base p).mapError (Fault.withRaw g.raw) :=
    fun hp hmeans => h.operand_eq hmeans (hload _ hp)
  obtain ⟨pc, raw, opcode, parameters⟩ := f
  obtain ⟨pc', raw', opcode', parameters'⟩ := g
  obtain rfl : pc' = pc := h.pc_eq
  obtain rfl : opcode' = opcode := h.opcode_eq
  have hparams : List.Forall₂ (Parameter.Means base) parameters parameters' := h.parameters
  cases opcode' with
  | add | multiply | lessThan | equals =>
      obtain ⟨a, b, d, rfl⟩ := List.length_eq_three.mp hlength
      obtain _ | ⟨ha, _ | ⟨hb, _ | ⟨hd, _ | _⟩⟩⟩ := hparams
      exact h.combination_eq _ (hoperand List.mem_cons_self ha)
        (hoperand (List.mem_cons_of_mem a List.mem_cons_self) hb) (h.destination_eq hd)
  | jumpIfTrue | jumpIfFalse =>
      obtain ⟨c, t, rfl⟩ := List.length_eq_two.mp hlength
      obtain _ | ⟨hc, _ | ⟨ht, _ | _⟩⟩ := hparams
      exact h.branch_eq (hoperand List.mem_cons_self hc)
        (hoperand (List.mem_cons_of_mem c List.mem_cons_self) ht)
  | input =>
      obtain ⟨d, rfl⟩ := List.length_eq_one_iff.mp hlength
      obtain _ | ⟨hd, _ | _⟩ := hparams
      exact Fault.mapError_bind (h.destination_eq hd) fun address => rfl
  | output =>
      obtain ⟨a, rfl⟩ := List.length_eq_one_iff.mp hlength
      obtain _ | ⟨ha, _ | _⟩ := hparams
      exact Fault.mapError_bind (hoperand List.mem_cons_self ha) fun value => rfl
  | relativeBaseOffset =>
      obtain ⟨a, rfl⟩ := List.length_eq_one_iff.mp hlength
      obtain _ | ⟨ha, _ | _⟩ := hparams
      refine Fault.mapError_bind (hoperand List.mem_cons_self ha) fun offset => ?_
      exact Fault.mapError_bind (h.exact_eq _) fun moved => rfl
  | halt =>
      obtain rfl := List.length_eq_zero_iff.mp hlength
      obtain _ | _ := hparams
      rfl

end Fetched.Readdressed

namespace Machine

variable {δ : Type} {m : Machine δ} {f g : Fetched} {other : Memory}

theorem advance_of_readdressed (h : f.Readdressed m.base g) (k : Machine δ) :
    k.advance g = ((k.advance f).1.mapError (Fault.withRaw g.raw), (k.advance f).2) := by
  unfold advance
  rw [h.width_eq]
  cases k.pc.inc? f.width with
  | none => rw [h.overflow_eq]; rfl
  | some next => rfl

theorem store_of_readdressed (h : f.Readdressed m.base g) (k : Machine δ) (address value : Word) :
    k.store g address value =
      ((k.store f address value).1.mapError (Fault.withRaw g.raw),
        (k.store f address value).2) := by
  unfold store
  cases k.memory.slot address with
  | error e => rfl
  | ok i => exact advance_of_readdressed h _

variable [Device δ]

/-- An effect comes to the same, but for the raw value that is named. -/
theorem perform_of_readdressed (h : f.Readdressed m.base g) (effect : Effect) :
    m.perform g effect =
      ((m.perform f effect).1.mapError (Fault.withRaw g.raw), (m.perform f effect).2) := by
  cases effect with
  | store address value => exact store_of_readdressed h m address value
  | deliver address =>
      rw [perform, perform, deliver, deliver]
      rcases Device.deliver m.device with ⟨e | value, device⟩
      · rfl
      · exact store_of_readdressed h _ address value
  | receive value =>
      rw [perform, perform, receive, receive]
      rcases Device.receive m.device value with ⟨e | _, device⟩
      · rfl
      · exact advance_of_readdressed h _
  | goto target => rfl
  | proceed => exact advance_of_readdressed h m
  | rebase base => exact advance_of_readdressed h _
  | halt => rfl

/-- **A step on an instruction that is written in another way** comes to the same and makes the same
write, if its operands read the same there. -/
theorem step_of_readdressed (hslot : ∀ address, other.slot address = m.memory.slot address)
    (hstands : m.instruction? = some f) (hother : (m.withMemory other).instruction? = some g)
    (h : f.Readdressed m.base g)
    (hread : ∀ p ∈ f.operands, ∀ a, p.source? m.base = some a →
      other.read a = m.memory.read a) :
    (m.withMemory other).step.outcome = m.step.outcome.mapError (Fault.withRaw g.raw) ∧
      (m.withMemory other).step.machine =
        m.step.machine.withMemory (other.history m.written.toList) ∧
      (m.withMemory other).written = m.written := by
  obtain ⟨hrun, hfetch⟩ := instruction?_eq_some_iff.mp hstands
  obtain ⟨hrun', hfetch'⟩ := instruction?_eq_some_iff.mp hother
  have heffect := h.effect_eq (Fetch.length_parameters_of_fetch hfetch)
    fun p hp a ha => Memory.load_congr (hread p hp a ha)
  cases hfound : f.effect m.memory m.base with
  | error fault =>
      rw [hfound] at heffect
      have hturn := turn_of_effect_error hrun hfetch hfound
      have hturn' := turn_of_effect_error hrun' hfetch' heffect
      rw [step_eq_take, step_eq_take m, written, written, hturn, hturn']
      exact ⟨rfl, rfl, rfl⟩
  | ok effect =>
      rw [hfound] at heffect
      have hturn := turn_of_effect hrun hfetch hfound
      have hturn' := turn_of_effect hrun' hfetch' heffect
      have hslot' : ∀ address, (m.withMemory other).memory.slot address =
          m.memory.slot address := hslot
      have hperform : (m.withMemory other).perform g effect =
          ((m.perform f effect).1.mapError (Fault.withRaw g.raw),
            (m.perform f effect).2.withMemory
              (other.history (effect.write? m.device).toList)) := by
        rw [perform_withMemory hslot, perform_of_readdressed h]
      rw [step_eq_take, step_eq_take m, written, written, hturn, hturn', take, take, hperform]
      refine ⟨rfl, ?_, ?_⟩
      · simp only [history_filter hslot]
      · simp only [hslot']
        rfl

omit [Device δ]

/-- The machine with another raw value for its instruction, and another cell for one of the
parameters. -/
def rewrite (m : Machine δ) (raw : Word) (i : Nat) (value : Word) : Machine δ :=
  m.withMemory ((m.memory.put m.pc.toInt.toNat raw).put (m.pc.toInt.toNat + 1 + i) value)

/-- An address is one of the two that are written anew. -/
def Rewrites (m : Machine δ) (i : Nat) (a : Word) : Prop :=
  a = m.pc ∨ a.toInt = m.pc.toInt + 1 + i

theorem read_rewrite_of_not {raw value a : Word} {i : Nat} (hpc : 0 ≤ m.pc.toInt)
    (h : ¬ m.Rewrites i a) : (m.rewrite raw i value).memory.read a = m.memory.read a := by
  rw [Rewrites, not_or, ← Int64.toInt_inj] at h
  obtain ⟨hraw, hparameter⟩ := h
  rw [rewrite, memory_withMemory, Memory.read_put_of_ne _ _ (by omega),
    Memory.read_put_of_ne _ _ (by omega)]

/-- The instruction written anew has the new raw value and the new parameter. -/
theorem instruction?_rewrite {i : Nat} {mode : Mode} {raw value : Word}
    (hstands : m.instruction? = some f)
    (hdecode : Instruction.decode raw =
      .ok (some ⟨f.opcode, (f.parameters.map (·.mode)).set i mode⟩)) :
    (m.rewrite raw i value).instruction? =
      some { f with raw, parameters := f.parameters.set i ⟨mode, value⟩ } := by
  obtain ⟨hrun, hfetch⟩ := instruction?_eq_some_iff.mp hstands
  obtain ⟨hat, hpc, _, _, hfits, hvalues⟩ := Fetch.fetch_eq_known_iff.mp hfetch
  have hlength := Fetch.length_parameters_of_fetch hfetch
  refine instruction?_eq_some_iff.mpr ⟨hrun, Fetch.fetch_eq_known_iff.mpr ?_⟩
  refine ⟨hat, hpc, ?_, ?_, hfits, ?_⟩
  · change raw = Memory.cell _ m.pc.toInt.toNat
    rw [rewrite, memory_withMemory, Memory.cell_put_of_ne _ _ (by omega), Memory.cell_put_self]
  · rw [List.map_set]
    exact hdecode
  · change (f.parameters.set i ⟨mode, value⟩).map (·.value) = (List.range f.opcode.arity).map
      fun j => (m.rewrite raw i value).memory.cell (m.pc.toInt.toNat + 1 + j)
    rw [List.map_set, hvalues]
    apply List.ext_getElem
    · simp
    · intro j hj hj'
      have hbefore : m.pc.toInt.toNat + 1 + j ≠ m.pc.toInt.toNat := by omega
      simp only [List.getElem_set, List.getElem_map, List.getElem_range, rewrite,
        memory_withMemory, Memory.cell_put, if_neg hbefore]
      by_cases hij : i = j
      · rw [if_pos hij, if_pos (by omega)]
      · rw [if_neg hij, if_neg (by omega)]

/-- A parameter may be replaced by one that means the same. -/
theorem readdressed_set {i : Nat} {p q : Parameter} {raw base : Word}
    (hp : f.parameters[i]? = some p) (hmeans : Parameter.Means base p q) :
    f.Readdressed base { f with raw, parameters := f.parameters.set i q } where
  pc_eq := rfl
  opcode_eq := rfl
  parameters := by
    obtain ⟨hi, rfl⟩ := List.getElem?_eq_some_iff.mp hp
    refine List.forall₂_iff_get.mpr ⟨by simp, ?_⟩
    intro j hj hj'
    simp only [List.get_eq_getElem, List.getElem_set]
    by_cases hij : i = j
    · subst hij
      rw [if_pos rfl]
      exact hmeans
    · rw [if_neg hij]
      exact .same _

variable [Device δ]

/-- **Relative addressing is addressing by position, counted from the base.**  A relative parameter
is made a position: its cell becomes the address that it means, and the raw value of the instruction
any other one that decodes to the same but for this mode.  If no operand is read from these two
cells, the step comes to the same, and a fault that names the raw value names the new one.  It
leaves the same registers and the same device, and makes the same write; so memories read the same,
but for the two cells, and there too if it is one of them that is written to. -/
theorem relative_eq_position (s : Machine δ) {i : Nat} {p : Parameter} {raw address : Word}
    (hstands : s.instruction? = some f) (hp : f.parameters[i]? = some p)
    (hmode : p.mode = .relative) (haddress : Word.add? p.value s.base = some address)
    (hdecode : Instruction.decode raw =
      .ok (some ⟨f.opcode, (f.parameters.map (·.mode)).set i .position⟩))
    (hreach : s.memory.SameReach (s.rewrite raw i address).memory)
    (hunread : ∀ q ∈ f.operands, ∀ a, q.source? s.base = some a → ¬ s.Rewrites i a) :
    let t := s.rewrite raw i address
    t.step.outcome = s.step.outcome.mapError (Fault.withRaw raw) ∧
      s.step.machine.Twins t.step.machine ∧ t.written = s.written ∧
      ∀ a, (s.Rewrites i a → ∃ w, s.written = some w ∧ w.address = a) →
        t.step.machine.memory.read a = s.step.machine.memory.read a := by
  intro t
  have hpc : 0 ≤ s.pc.toInt :=
    (Fetch.inPlace_of_fetch (instruction?_eq_some_iff.mp hstands).2).pc_nonneg
  have hmeans : Parameter.Means s.base p ⟨.position, address⟩ := by
    obtain ⟨mode, value⟩ := p
    obtain rfl : mode = .relative := hmode
    exact .shifted haddress
  have hread : ∀ a, ¬ s.Rewrites i a → t.memory.read a = s.memory.read a :=
    fun a ha => read_rewrite_of_not hpc ha
  obtain ⟨houtcome, hmachine, hwritten⟩ := step_of_readdressed hreach.slot_eq hstands
    (instruction?_rewrite hstands hdecode) (readdressed_set hp hmeans)
    fun q hq a ha => hread a (hunread q hq a ha)
  refine ⟨houtcome, ?_, hwritten, ?_⟩
  · change s.step.machine.Twins (s.withMemory t.memory).step.machine
    rw [hmachine]
    exact twins_withMemory _ _
  · intro a ha
    change (s.withMemory t.memory).step.machine.memory.read a = _
    rw [hmachine, memory_withMemory, memory_step]
    apply hreach.read_history
    -- a cell that is written anew differs, unless the step writes to it
    by_cases hrewritten : s.Rewrites i a
    · obtain ⟨w, hw, hsame⟩ := ha hrewritten
      exact Or.inr ⟨w, Option.mem_toList.mpr hw, hsame⟩
    · exact Or.inl (hread a hrewritten)

/-- A sum is written to the cell of its own destination, which is counted from a base of 5.  The new
raw value is negative. -/
theorem relative_eq_position_own_cell :
    let s := (ofProgram [109, 5, 21101, 7, 8, 0, 99] 16 (Script.ofInput [])).after 1
    let t := s.rewrite (-1099) 2 5
    s.memory.SameReach t.memory ∧ t.step.outcome = .ok false ∧
      s.step.machine.Twins t.step.machine ∧ t.step.machine.memory.read 5 = .ok 15 := by
  intro s t
  let p : Parameter := ⟨.relative, 0⟩
  let f : Fetched := ⟨2, 21101, .add, [⟨.immediate, 7⟩, ⟨.immediate, 8⟩, p]⟩
  have hstands : s.instruction? = some f := by decide
  have hreach : s.memory.SameReach t.memory := ⟨by decide, by decide, by decide⟩
  have hunread : ∀ q ∈ f.operands, ∀ a, q.source? s.base = some a → ¬ s.Rewrites 2 a := by
    intro q hq a ha
    have hnone : ∀ q ∈ f.operands, q.source? s.base = none := by decide
    rw [hnone q hq] at ha
    cases ha
  obtain ⟨houtcome, htwins, _, hmemory⟩ := relative_eq_position s hstands (i := 2) (p := p) rfl rfl
    (by decide) (by decide) hreach hunread
  refine ⟨hreach, ?_, htwins, ?_⟩
  · rw [houtcome]
    decide
  · rw [hmemory 5 fun _ => ⟨⟨5, 15⟩, by decide, rfl⟩]
    decide

end Machine

end IntcodeMachine
