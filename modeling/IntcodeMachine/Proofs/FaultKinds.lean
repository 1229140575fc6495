import IntcodeMachine.Proofs.Turn

/-!
# Which faults a stage may report

Every stage of a step reports faults of a few kinds only: a load reports its address, exact
arithmetic reports an overflow, a destination may be refused for being a value.  So to know that a
step never reports a certain fault, or does so in certain instructions only, it is enough to look at
these; how the stages are put together makes no difference.

* `FailsWithin.bind`: two stages report what either of them may report.
* `FailsWithin.effect`, `FailsWithin.fetch`, `FailsWithin.perform`: what the parts of a step may
  report.
* `FailsWithin.step`: what a step may report.
-/

namespace IntcodeMachine

namespace Opcode

/-- What an operation combines it also stores. -/
theorem writes_of_combine? {op : Opcode} {combine : Word → Word → Option Word}
    (h : op.combine? = some combine) : op.writes = true := by
  cases op <;> first | rfl | cases h

end Opcode

/-- A computation that fails, if at all, with a fault of a kind. -/
def FailsWithin {α : Type} (kind : Fault → Prop) (x : Except Fault α) : Prop :=
  ∀ fault, x = .error fault → kind fault

namespace FailsWithin

variable {α β : Type} {kind : Fault → Prop}

theorem ok (a : α) : FailsWithin kind (.ok a) := nofun

theorem error {fault : Fault} (h : kind fault) :
    FailsWithin kind (.error fault : Except Fault α) := by
  intro other hother
  cases hother
  exact h

/-- **Two stages report what either of them may report.** -/
theorem bind {x : Except Fault α} {next : α → Except Fault β} (hx : FailsWithin kind x)
    (hnext : ∀ a, FailsWithin kind (next a)) : FailsWithin kind (x >>= next) := by
  cases x with
  | error fault => exact error (hx fault rfl)
  | ok a => exact hnext a

theorem map {x : Except Fault α} (g : α → β) (hx : FailsWithin kind x) :
    FailsWithin kind (x.map g) := by
  cases x with
  | error fault => exact error (hx fault rfl)
  | ok a => exact ok (g a)

section Stages

variable (haddress : ∀ e, kind (.address e))

include haddress in
theorem load (memory : Memory) (address : Word) : FailsWithin kind (memory.load address) := by
  unfold Memory.load
  cases memory.read address with
  | error e => exact error (haddress e)
  | ok value => exact ok value

theorem exact {f : Fetched} (hoverflow : kind f.overflow) (result : Option Word) :
    FailsWithin kind (f.exact result) := by
  cases result with
  | none => exact error hoverflow
  | some w => exact ok w

include haddress in
theorem operand {f : Fetched} (hoverflow : kind f.overflow) (memory : Memory) (base : Word)
    (p : Parameter) : FailsWithin kind (f.operand memory base p) := by
  unfold Fetched.operand
  cases p.mode with
  | position => exact load haddress memory p.value
  | immediate => exact ok p.value
  | relative => exact bind (exact hoverflow _) fun address => load haddress memory address

theorem destination {f : Fetched} (hoverflow : kind f.overflow) (base : Word) {p : Parameter}
    (hvalue : p.mode = .immediate → kind (.immediateDestination f.pc f.raw)) :
    FailsWithin kind (f.destination base p) := by
  unfold Fetched.destination
  cases hmode : p.mode with
  | position => exact ok p.value
  | immediate => exact error (hvalue hmode)
  | relative => exact exact hoverflow _

include haddress in
/-- What an instruction may report before it is carried out.  That a destination is a value is
reported for the last parameter of an operation that writes. -/
theorem effect {f : Fetched} (hlength : f.parameters.length = f.opcode.arity)
    (hoverflow : kind f.overflow)
    (hvalue : ∀ p, f.opcode.writes = true → f.parameters.getLast? = some p →
      p.mode = .immediate → kind (.immediateDestination f.pc f.raw))
    (memory : Memory) (base : Word) : FailsWithin kind (f.effect memory base) := by
  have hoperand := operand haddress hoverflow memory base
  cases Fetched.shape hlength memory base with
  | combination hop hparams hform =>
      rw [hform]
      refine bind (hoperand _) fun x => ?_
      refine bind (hoperand _) fun y => ?_
      refine bind (destination hoverflow base ?_) fun address => ?_
      · exact hvalue _ (Opcode.writes_of_combine? hop) (by rw [hparams]; rfl)
      · exact bind (exact hoverflow _) fun value => ok _
  | branch _ _ hform =>
      rw [hform]
      refine bind (hoperand _) fun condition => ?_
      exact bind (hoperand _) fun target => ok _
  | input hop hparams hform =>
      rw [hform]
      refine bind (destination hoverflow base ?_) fun address => ok _
      exact hvalue _ (by rw [hop]; rfl) (by rw [hparams]; rfl)
  | output _ _ hform =>
      rw [hform]
      exact bind (hoperand _) fun value => ok _
  | offset _ _ hform =>
      rw [hform]
      refine bind (hoperand _) fun offset => ?_
      exact bind (exact hoverflow _) fun moved => ok _
  | halt _ _ hform =>
      rw [hform]
      exact ok _

include haddress in
theorem window {pc raw : Word} (hoverflow : kind (.overflow pc raw)) (memory : Memory)
    (offset count : Nat) : FailsWithin kind (Fetch.window memory pc raw offset count) := by
  induction count generalizing offset with
  | zero => exact ok []
  | succ count ih =>
      unfold Fetch.window
      cases Word.ofInt? (pc.toInt + offset) with
      | none => exact error hoverflow
      | some address =>
          have hload := load haddress memory address
          simp only
          cases hvalue : memory.load address with
          | error fault =>
              rw [hvalue] at hload
              exact error (hload fault rfl)
          | ok value => exact map (value :: ·) (ih (offset + 1))

include haddress in
/-- What may be reported before an instruction is known.  A digit is refused only where decoding
fails. -/
theorem fetch {memory : Memory} {pc : Word} (hoverflow : ∀ raw, kind (.overflow pc raw))
    (hmode : ∀ e, Instruction.decode (Fetch.rawAt memory pc) = .error e →
      kind (.invalidMode pc (Fetch.rawAt memory pc) e.digit)) :
    FailsWithin kind (Fetch.fetch memory pc) := by
  have hload := load haddress memory pc
  unfold Fetch.fetch
  cases hraw : memory.load pc with
  | error fault =>
      rw [hraw] at hload
      exact error (hload fault rfl)
  | ok raw =>
      obtain rfl : raw = Fetch.rawAt memory pc := (Memory.load_eq_ok_iff.mp hraw).2
      simp only
      cases hdecode : Instruction.decode (Fetch.rawAt memory pc) with
      | error e => exact error (hmode e hdecode)
      | ok decoded =>
          cases decoded with
          | none => exact ok _
          | some i =>
              have hwindow := window haddress (hoverflow (Fetch.rawAt memory pc)) memory 1 i.arity
              exact map Fetch.known (map _ hwindow)

variable {δ : Type} {f : Fetched} (hoverflow : kind f.overflow)

include hoverflow in
theorem advance (m : Machine δ) : FailsWithin kind (m.advance f).1 := by
  unfold Machine.advance
  cases m.pc.inc? f.width with
  | none => exact error hoverflow
  | some next => exact ok false

include haddress hoverflow in
theorem store (m : Machine δ) (address value : Word) :
    FailsWithin kind (m.store f address value).1 := by
  cases hslot : m.memory.slot address with
  | error e =>
      rw [Machine.store_of_slot_error f value hslot]
      exact error (haddress e)
  | ok i =>
      rw [Machine.store, hslot]
      exact advance hoverflow _

include haddress hoverflow in
/-- What may be reported when an instruction is carried out. -/
theorem perform [Device δ] (hdevice : ∀ e, kind (.device e)) (m : Machine δ) (effect : Effect) :
    FailsWithin kind (m.perform f effect).1 := by
  cases effect with
  | store address value => exact store haddress hoverflow m address value
  | deliver address =>
      rw [Machine.perform, Machine.deliver]
      rcases Device.deliver m.device with ⟨e | value, device⟩
      · exact error (hdevice e)
      · exact store haddress hoverflow { m with device } address value
  | receive value =>
      rw [Machine.perform, Machine.receive]
      rcases Device.receive m.device value with ⟨e | _, device⟩
      · exact error (hdevice e)
      · exact advance hoverflow { m with device }
  | goto target => exact ok false
  | proceed => exact advance hoverflow m
  | rebase base => exact advance hoverflow { m with base }
  | halt => exact ok true

end Stages

/-- **What a step may report.**  A digit is refused only in the raw value that the machine stands at,
and only if that cannot be decoded.  That a destination is a value is reported for the instruction
there, and only if its operation writes and its last parameter is a value. -/
theorem step {δ : Type} [Device δ] {m : Machine δ} (haddress : ∀ e, kind (.address e))
    (hdevice : ∀ e, kind (.device e)) (hoverflow : ∀ raw, kind (.overflow m.pc raw))
    (hmode : ∀ e, Instruction.decode (Fetch.rawAt m.memory m.pc) = .error e →
      kind (.invalidMode m.pc (Fetch.rawAt m.memory m.pc) e.digit))
    (hvalue : ∀ f p, m.halted = false → Fetch.fetch m.memory m.pc = .ok (.known f) →
      f.opcode.writes = true → f.parameters.getLast? = some p → p.mode = .immediate →
      kind (.immediateDestination f.pc f.raw)) :
    FailsWithin kind m.step.outcome := by
  have hinstruction : ∀ {f}, Fetch.fetch m.memory m.pc = .ok (.known f) → kind f.overflow := by
    intro f hfetch
    rw [Fetched.overflow, (Fetch.inPlace_of_fetch hfetch).pc_eq]
    exact hoverflow f.raw
  have harises := m.arises_turn
  rw [Machine.step_eq_take]
  generalize m.turn = turn at harises ⊢
  cases harises with
  | rest _ => exact ok true
  | unfetched _ hfetch =>
      have hfaults := fetch haddress hoverflow hmode
      exact error (hfaults _ hfetch)
  | skip _ _ =>
      rw [Machine.take, Machine.skip]
      cases m.pc.inc? 1 with
      | none => exact error (hoverflow _)
      | some next => exact ok false
  | ineffective hrun hfetch heffect =>
      have hfaults := effect haddress (Fetch.length_parameters_of_fetch hfetch)
        (hinstruction hfetch) (fun p => hvalue _ p hrun hfetch) m.memory m.base
      exact error (hfaults _ heffect)
  | act _ hfetch _ => exact perform haddress (hinstruction hfetch) hdevice m _

end FailsWithin

end IntcodeMachine
