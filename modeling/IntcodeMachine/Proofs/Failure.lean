import IntcodeMachine.Proofs.Ideal
import IntcodeMachine.Proofs.Runs

/-!
# Failing steps

An effect is carried out before the program counter moves, so a failure to move on would leave
an instruction half done.  It cannot happen: an operation that is known has a cell that is not
0, so the program counter is inside memory and far below the greatest word.  All other
failures come before anything has changed, with one exception: an input value is taken before
it is known whether it can be written.

* `Machine.step_of_error`: a step that fails changes nothing, or loses the value at the front.
* `Machine.failsInto_of_error`: the same for a single step and for a run.
-/

namespace IntcodeMachine

namespace Fetched

/-- Only an input instruction asks for a value. -/
theorem InPlace.destination_of_deliver {f : Fetched} {memory : Memory} {pc base address : Word}
    (h : f.InPlace memory pc) (heffect : f.effect memory base = .ok (.deliver address)) :
    f.opcode = .input ∧ ∃ d, f.parameters = [d] ∧ f.destination base d = .ok address := by
  cases yields_of_effect h.length_parameters heffect with
  | deliver hop hparams haddress => exact ⟨hop, _, hparams, haddress⟩
  | jump _ _ _ _ hbranches => split at hbranches <;> cases hbranches

end Fetched

namespace Machine

/-- The machine is about to take an input value that it cannot write: the destination of the
input instruction resolves, but to an address that is negative or out of reach. -/
structure LosesInput (m : Machine Script) : Prop where
  running : m.halted = false
  pc_nonneg : 0 ≤ m.pc.toInt
  input : m.ideal.raw % 100 = 3
  mode : m.ideal.mode 0 = 0 ∨ m.ideal.mode 0 = 2
  resolves : Word.InRange (m.ideal.address 0)
  unwritable : m.ideal.address 0 < 0 ∨
    (m.memory.size ≤ m.ideal.address 0 ∧ m.memory.limit ≤ m.ideal.address 0)
  pending : m.device.feed.pending ≠ []

/-- What a failing step may do to a machine. -/
def FailsInto (before after : Machine Script) : Prop :=
  (before.LosesInput → after = before.dropInput) ∧ (¬ before.LosesInput → after = before)

/-- The effect takes an input value that cannot be written. -/
def Loses (m : Machine Script) (effect : Effect) : Prop :=
  ∃ address e, effect = .deliver address ∧ m.memory.slot address = .error e ∧
    m.device.feed.pending ≠ []

variable {m : Machine Script} {f : Fetched} {effect : Effect}

theorem perform_of_loses (f : Fetched) (h : m.Loses effect) :
    (m.perform f effect).2 = m.dropInput := by
  obtain ⟨address, e, rfl, hslot, hpending⟩ := h
  cases hfeed : m.device.feed.pending with
  | nil => exact absurd hfeed hpending
  | cons value rest =>
      have hstore : m.dropInput.store f address value = (.error (.address e), m.dropInput) :=
        store_of_slot_error f value hslot
      rw [perform, deliver_of_cons f address hfeed, hstore]

/-- **Effects fail before they change anything**, if the next instruction has an address. -/
theorem perform_of_error {fault : Fault} {next : Word} (hnext : m.pc.inc? f.width = some next)
    (h : (m.perform f effect).1 = .error fault) (hkeeps : ¬ m.Loses effect) :
    (m.perform f effect).2 = m := by
  cases effect with
  | store address value =>
      cases hslot : m.memory.slot address with
      | error e => rw [perform, store_of_slot_error f value hslot]
      | ok i => exact absurd h (store_ne_error hslot hnext)
  | deliver address =>
      cases hfeed : m.device.feed.pending with
      | nil => rw [perform, deliver_of_nil f address hfeed]
      | cons value rest =>
          rw [perform, deliver_of_cons f address hfeed] at h
          cases hslot : m.memory.slot address with
          | error e =>
              exact absurd ⟨address, e, rfl, hslot, by simp [hfeed]⟩ hkeeps
          | ok i => exact absurd h (store_ne_error hslot hnext)
  | receive value => exact absurd h (advance_ne_error hnext)
  | goto target => cases h
  | proceed => exact absurd h (advance_ne_error hnext)
  | rebase base => exact absurd h (advance_ne_error hnext)
  | halt => cases h

/-- A value is about to be lost exactly when the effect at hand takes it and cannot write it. -/
theorem losesInput_iff (hsize : m.memory.size < Memory.capacity) :
    m.LosesInput ↔ ∃ f effect, m.turn = .act f effect ∧ m.Loses effect := by
  constructor
  · intro h
    have hop : Opcode.ofClass? (Opcode.classOf (Fetch.rawAt m.memory m.pc)) = some .input :=
      Opcode.ofClass?_eq_some_iff.mpr h.input
    obtain ⟨mode, hmode⟩ : ∃ mode : Mode, mode.digit = m.ideal.mode 0 := by
      rcases h.mode with hzero | htwo
      · exact ⟨.position, hzero.symm⟩
      · exact ⟨.relative, htwo.symm⟩
    have hmodes : Instruction.modesOf (Fetch.rawAt m.memory m.pc) Opcode.input.arity =
        .ok [mode] := by
      refine Mode.ofDigits_eq_ok_iff.mpr ?_
      exact congrArg (fun digit => [digit]) hmode
    obtain ⟨f, hfetch, hinput⟩ := Fetch.fetch_of_modes hsize h.pc_nonneg hop hmodes
    have hplace := Fetch.inPlace_of_fetch hfetch
    have hlength := hplace.length_parameters
    rw [hinput] at hlength
    obtain ⟨d, hparams⟩ := List.length_eq_one_iff.mp hlength
    have hd : f.parameters[0]? = some d := by rw [hparams]; rfl
    have hnotvalue : m.ideal.mode 0 ≠ 1 := by
      rcases h.mode with hzero | htwo <;> omega
    obtain ⟨address, haddress, hto⟩ := hplace.exists_destination hd hnotvalue h.resolves
    refine ⟨f, .deliver address, ?_, ?_⟩
    · have hyields : f.Yields m.memory m.base (.deliver address) :=
        .deliver hinput hparams haddress
      exact turn_of_effect h.running hfetch hyields.effect_eq
    · have hunwritable := h.unwritable
      rw [← hto] at hunwritable
      rcases hunwritable with hneg | ⟨hlong, hlimit⟩
      · exact ⟨address, _, rfl, Memory.slot_eq_error_iff.mpr (Or.inl ⟨hneg, rfl⟩), h.pending⟩
      · exact ⟨address, _, rfl,
          Memory.slot_eq_error_iff.mpr (Or.inr ⟨hlong, hlimit, rfl⟩), h.pending⟩
  · intro h
    obtain ⟨f, effect, hturn, address, e, rfl, hslot, hpending⟩ := h
    obtain ⟨hrun, hfetch, heffect⟩ := turn_eq_act_iff.mp hturn
    have hplace := inPlace_of_turn hturn
    obtain ⟨hop, d, hparams, haddress⟩ := hplace.destination_of_deliver heffect
    obtain ⟨hmode, hmode', hto⟩ :=
      hplace.destination_ideal (i := 0) (by rw [hparams]; rfl) haddress
    refine ⟨hrun, hplace.pc_nonneg, ?_, by omega, ?_, ?_, hpending⟩
    · rw [hplace.class_ideal, hop]
      rfl
    · rw [hto]
      exact Word.inRange_toInt address
    · rw [hto]
      rcases Memory.slot_eq_error_iff.mp hslot with ⟨hneg, _⟩ | ⟨hsize, hlimit, _⟩
      · exact Or.inl hneg
      · exact Or.inr ⟨hsize, hlimit⟩

/-- **A step that fails changes nothing**, except that it may lose an input value. -/
theorem step_of_error {fault : Fault} (hsize : m.memory.size < Memory.capacity)
    (h : m.step.outcome = .error fault) : m.FailsInto m.step.machine := by
  have hlost := losesInput_iff hsize
  rw [step_eq_take] at h ⊢
  cases hturn : m.turn with
  | rest =>
      rw [hturn] at h
      cases h
  | refuse fault' events =>
      refine ⟨fun hloses => ?_, fun _ => rfl⟩
      obtain ⟨f, effect, hact, _⟩ := hlost.mp hloses
      rw [hturn] at hact
      cases hact
  | skip raw =>
      rw [hturn] at h
      refine ⟨fun hloses => ?_, fun _ => ?_⟩
      · obtain ⟨f, effect, hact, _⟩ := hlost.mp hloses
        rw [hturn] at hact
        cases hact
      · rw [take, skip] at h ⊢
        cases hnext : m.pc.inc? 1 with
        | none => rfl
        | some next =>
            rw [hnext] at h
            cases h
  | act f effect =>
      rw [hturn] at h
      obtain ⟨next, hnext⟩ := (inPlace_of_turn hturn).exists_next hsize
      refine ⟨fun hloses => ?_, fun hkeeps => ?_⟩
      · obtain ⟨f', effect', hact, hloses'⟩ := hlost.mp hloses
        rw [hturn] at hact
        cases hact
        exact perform_of_loses f hloses'
      · refine perform_of_error hnext h ?_
        intro hloses
        exact hkeeps (hlost.mpr ⟨f, effect, hturn, hloses⟩)

/-- **Nothing is half done.**  A step that fails leaves the machine as it was, and a run that
fails leaves it as its successful steps made it, with the program counter at the instruction at
fault; but an input value that could not be written is lost. -/
theorem failsInto_of_error (m : Machine Script) (hsize : m.memory.size < Memory.capacity) :
    (∀ fault, m.step.outcome = .error fault → m.FailsInto m.step.machine) ∧
      (m.memory.limit < Memory.capacity → ∀ limit fault, (m.run limit).outcome = .error fault →
        ∃ k, (m.run limit).calls = k + 1 ∧ (∀ j, j < k → m.outcomeAt j = .ok false) ∧
          m.outcomeAt k = .error fault ∧ (m.run limit).machine.pc = (m.after k).pc ∧
          (m.after k).FailsInto (m.run limit).machine) := by
  refine ⟨fun fault h => step_of_error hsize h, ?_⟩
  intro hlimit limit fault h
  obtain ⟨k, hcalls, hearlier, hlast, hmachine⟩ := (m.traces_run limit).last_of_error h
  have hbounded : (m.after k).memory.Bounded := bounded_after ⟨hsize, hlimit⟩ k
  have hfails := step_of_error hbounded.size_lt hlast
  rw [← hmachine] at hfails
  refine ⟨k, hcalls, hearlier, hlast, ?_, hfails⟩
  by_cases hloses : (m.after k).LosesInput
  · rw [hfails.1 hloses]
    rfl
  · rw [hfails.2 hloses]

/-- The second instruction takes an input value for the address -1. -/
theorem failsInto_of_error_lost_input :
    let m := ofProgram [1101, 5, 5, 9, 3, -1, 99] 16 (Script.ofInput [7, 8])
    m.memory.size < Memory.capacity ∧ m.memory.limit < Memory.capacity ∧
      (m.run 5).outcome = .error (.address (.negative (-1))) ∧
        ∃ k, (m.run 5).calls = k + 1 ∧ (m.after k).FailsInto (m.run 5).machine := by
  intro m
  have hfails : (m.run 5).outcome = .error (.address (.negative (-1))) := by decide
  obtain ⟨k, hcalls, _, _, _, hinto⟩ :=
    (failsInto_of_error m (by decide)).2 (by decide) 5 _ hfails
  exact ⟨by decide, by decide, hfails, k, hcalls, hinto⟩

end Machine

end IntcodeMachine
