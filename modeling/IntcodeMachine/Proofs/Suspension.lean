import IntcodeMachine.Proofs.FaultKinds

/-!
# Waiting for input

A machine with a script may be given more input between its steps.  A step that finds no input
left changes nothing, so it can be taken again later.  Every other step looks at the front of
the input at most, so what stands behind makes no difference to it.  Together: when a value is
added cannot be observed, only in which order the values come.

* `Machine.step_of_exhausted`: a step that finds no input changes nothing.
* `Machine.step_withTail`: any other step is the same with more input.
* `Machine.drive_ofProgram`: a machine that is fed while it runs behaves like one that has all
  of its input from the start.
-/

namespace IntcodeMachine

/-- What is done to a machine from outside. -/
inductive Action where
  /-- A step is taken. -/
  | step
  /-- An input value is added. -/
  | push (value : Word)
  deriving DecidableEq, Repr

/-- All values that are added, in order. -/
def Action.pushed : List Action → List Word
  | [] => []
  | .step :: rest => pushed rest
  | .push value :: rest => value :: pushed rest

/-- What the steps came to, and the machine in the end. -/
structure Driven where
  outcomes : List (Except Fault Bool)
  machine : Machine Script

namespace Driven

/-- What becomes of a machine with one more step in front. -/
def add (outcome : Except Fault Bool) (d : Driven) : Driven :=
  { d with outcomes := outcome :: d.outcomes }

/-- The outcomes of the steps that found input or needed none. -/
def results (d : Driven) : List (Except Fault Bool) :=
  d.outcomes.filter fun outcome => outcome ≠ .error (.device .exhausted)

theorem results_add_of_ne {outcome : Except Fault Bool} (d : Driven)
    (h : outcome ≠ .error (.device .exhausted)) :
    (d.add outcome).results = outcome :: d.results :=
  List.filter_cons_of_pos (decide_eq_true h)

theorem results_add_exhausted (d : Driven) :
    (d.add (.error (.device .exhausted))).results = d.results := rfl

end Driven

namespace Machine

/-- The machine with one more input value. -/
def push (m : Machine Script) (value : Word) : Machine Script :=
  { m with device := m.device.push value }

/-- Does a series of actions, whatever comes of them. -/
def drive (m : Machine Script) : List Action → Driven
  | [] => { outcomes := [], machine := m }
  | .push value :: rest => (m.push value).drive rest
  | .step :: rest => (m.step.machine.drive rest).add m.step.outcome

/-- The machine with more input values behind those that wait. -/
def withTail (m : Machine Script) (tail : List Word) : Machine Script :=
  { m with device := { m.device with feed := { pending := m.device.feed.pending ++ tail } } }

variable {m : Machine Script} {f : Fetched}

theorem withTail_nil (m : Machine Script) : m.withTail [] = m := by
  rw [withTail, List.append_nil]

theorem withTail_push (m : Machine Script) (value : Word) (tail : List Word) :
    (m.push value).withTail tail = m.withTail (value :: tail) := by
  simp [withTail, push, Script.push, Feed.push]

theorem ofProgram_withTail (program : Program) (limit : Nat) (input tail : List Word) :
    (ofProgram program limit (Script.ofInput input)).withTail tail =
      ofProgram program limit (Script.ofInput (input ++ tail)) := rfl

/-- No input is looked at to find out what is to be done. -/
theorem turn_withTail (m : Machine Script) (tail : List Word) :
    (m.withTail tail).turn = m.turn := rfl

theorem advance_withTail (m : Machine Script) (f : Fetched) (tail : List Word) :
    (m.withTail tail).advance f = ((m.advance f).1, (m.advance f).2.withTail tail) := by
  simp only [advance, withTail]
  cases m.pc.inc? f.width <;> rfl

theorem store_withTail (m : Machine Script) (f : Fetched) (address value : Word)
    (tail : List Word) :
    (m.withTail tail).store f address value =
      ((m.store f address value).1, (m.store f address value).2.withTail tail) := by
  cases hslot : m.memory.slot address with
  | error e =>
      have hslot' : (m.withTail tail).memory.slot address = .error e := hslot
      rw [store_of_slot_error f value hslot, store_of_slot_error f value hslot']
  | ok i =>
      have hslot' : (m.withTail tail).memory.slot address = .ok i := hslot
      rw [store, store, hslot, hslot']
      exact advance_withTail { m with memory := m.memory.put i value } f tail

/-- An effect that finds input or needs none is the same with more input. -/
theorem perform_withTail {effect : Effect} (tail : List Word)
    (h : (m.perform f effect).1 ≠ .error (.device .exhausted)) :
    (m.withTail tail).perform f effect =
      ((m.perform f effect).1, (m.perform f effect).2.withTail tail) := by
  cases effect with
  | store address value => exact store_withTail m f address value tail
  | deliver address =>
      simp only [perform] at h ⊢
      cases hpending : m.device.feed.pending with
      | nil =>
          rw [deliver_of_nil f address hpending] at h
          exact absurd rfl h
      | cons value rest =>
          have hlonger : (m.withTail tail).device.feed.pending = value :: (rest ++ tail) :=
            congrArg (· ++ tail) hpending
          have hdrop : (m.withTail tail).dropInput = m.dropInput.withTail tail := by
            rw [dropInput, hlonger, dropInput, hpending]
            rfl
          rw [deliver_of_cons f address hpending, deliver_of_cons f address hlonger, hdrop]
          exact store_withTail m.dropInput f address value tail
  | receive value =>
      exact advance_withTail
        { m with device := { m.device with buffer := m.device.buffer.receive value } } f tail
  | goto target => rfl
  | proceed => exact advance_withTail m f tail
  | rebase base => exact advance_withTail { m with base } f tail
  | halt => rfl

/-- **A step that finds input or needs none is the same with more input.** -/
theorem step_withTail (tail : List Word)
    (h : m.step.outcome ≠ .error (.device .exhausted)) :
    (m.withTail tail).step.outcome = m.step.outcome ∧
      (m.withTail tail).step.machine = m.step.machine.withTail tail := by
  rw [step_eq_take] at h
  rw [step_eq_take, step_eq_take m, turn_withTail]
  cases hturn : m.turn with
  | rest => exact ⟨rfl, rfl⟩
  | refuse fault events => exact ⟨rfl, rfl⟩
  | skip raw =>
      simp only [take, skip, withTail]
      cases m.pc.inc? 1 <;> exact ⟨rfl, rfl⟩
  | act f effect =>
      rw [hturn] at h
      rw [take, take, perform_withTail tail h]
      exact ⟨rfl, rfl⟩

/-- Moving on never asks for input. -/
theorem advance_ne_exhausted (m : Machine Script) (f : Fetched) :
    (m.advance f).1 ≠ .error (.device .exhausted) := by
  have hkind : FailsWithin (· ≠ .device .exhausted) (m.advance f).1 := .advance nofun m
  exact fun h => hkind _ h rfl

theorem store_ne_exhausted (m : Machine Script) (f : Fetched) (address value : Word) :
    (m.store f address value).1 ≠ .error (.device .exhausted) := by
  have hkind : FailsWithin (· ≠ .device .exhausted) (m.store f address value).1 :=
    .store (fun _ => nofun) nofun m address value
  exact fun h => hkind _ h rfl

theorem perform_of_exhausted {effect : Effect}
    (h : (m.perform f effect).1 = .error (.device .exhausted)) :
    (m.perform f effect).2 = m := by
  cases effect with
  | store address value => exact absurd h (store_ne_exhausted m f address value)
  | deliver address =>
      simp only [perform] at h ⊢
      cases hpending : m.device.feed.pending with
      | nil => rw [deliver_of_nil f address hpending]
      | cons value rest =>
          rw [deliver_of_cons f address hpending] at h
          exact absurd h (store_ne_exhausted m.dropInput f address value)
  | receive value => exact absurd h (advance_ne_exhausted _ f)
  | goto target => cases h
  | proceed => exact absurd h (advance_ne_exhausted m f)
  | rebase base => exact absurd h (advance_ne_exhausted _ f)
  | halt => cases h

/-- **A step that finds no input changes nothing.** -/
theorem step_of_exhausted (h : m.step.outcome = .error (.device .exhausted)) :
    m.step.machine = m := by
  rw [step_eq_take] at h ⊢
  cases hturn : m.turn with
  | rest => rfl
  | refuse fault events => rfl
  | skip raw =>
      rw [hturn] at h
      rw [take, skip] at h ⊢
      cases hnext : m.pc.inc? 1 with
      | none => rfl
      | some next =>
          rw [hnext] at h
          cases h
  | act f effect =>
      rw [hturn] at h
      exact perform_of_exhausted h

/-- What becomes of a machine that is fed is what becomes of another one by steps alone: as many
steps as have results, with these results. -/
structure Unfed (d : Driven) (m : Machine Script) : Prop where
  machine_eq : d.machine = m.after d.results.length
  results_eq : d.results = (List.range d.results.length).map m.outcomeAt

/-- A step with a result is one more step in front. -/
theorem Unfed.add_of_ne {d : Driven} (h : Unfed d m.step.machine)
    (hresult : m.step.outcome ≠ .error (.device .exhausted)) :
    Unfed (d.add m.step.outcome) m := by
  have hlater : m.step.machine.outcomeAt = fun k => m.outcomeAt (k + 1) := by
    funext k
    rw [outcomeAt, outcomeAt, after_succ_first]
  have hresults := d.results_add_of_ne hresult
  have hlength : (d.add m.step.outcome).results.length = d.results.length + 1 := by
    rw [hresults, List.length_cons]
  constructor
  · rw [hlength, after_succ_first]
    exact h.machine_eq
  · rw [hlength, hresults, List.range_succ_eq_map, List.map_cons, List.map_map]
    refine congrArg (m.step.outcome :: ·) (h.results_eq.trans ?_)
    rw [hlater]
    rfl

/-- A step that finds no input left makes no difference. -/
theorem Unfed.add_exhausted {d : Driven} (h : Unfed d m) :
    Unfed (d.add (.error (.device .exhausted))) m := by
  have hresults := d.results_add_exhausted
  constructor
  · rw [hresults]
    exact h.machine_eq
  · rw [hresults]
    exact h.results_eq

/-- **Driving is running with all of the input**, from any state on. -/
theorem unfed_drive (m : Machine Script) (actions : List Action) :
    Unfed (m.drive actions) (m.withTail (Action.pushed actions)) := by
  induction actions generalizing m with
  | nil =>
      rw [Action.pushed, withTail_nil]
      exact ⟨rfl, rfl⟩
  | cons action rest ih =>
      cases action with
      | push value =>
          rw [Action.pushed, ← withTail_push]
          exact ih (m.push value)
      | step =>
          have hrest := ih m.step.machine
          rw [drive, Action.pushed]
          by_cases hdry : m.step.outcome = .error (.device .exhausted)
          · rw [step_of_exhausted hdry] at hrest
            rw [step_of_exhausted hdry, hdry]
            exact hrest.add_exhausted
          · obtain ⟨houtcome, hmachine⟩ := step_withTail (Action.pushed rest) hdry
            rw [← hmachine] at hrest
            rw [← houtcome] at hdry ⊢
            exact hrest.add_of_ne hdry

/-- **When input arrives cannot be observed.**  A machine that is driven by steps and pushes, in
any order, ends like a machine that has all input values from the start and takes as many steps
as found input or needed none; and these steps come to the same in both. -/
theorem drive_ofProgram (program : Program) (limit : Nat) (input : List Word)
    (actions : List Action) :
    let driven := (ofProgram program limit (Script.ofInput input)).drive actions
    let fresh := ofProgram program limit (Script.ofInput (input ++ Action.pushed actions))
    driven.machine = fresh.after driven.results.length ∧
      driven.results = (List.range driven.results.length).map fresh.outcomeAt := by
  intro driven fresh
  have hunfed := unfed_drive (ofProgram program limit (Script.ofInput input)) actions
  rw [ofProgram_withTail] at hunfed
  exact ⟨hunfed.machine_eq, hunfed.results_eq⟩

example : ((ofProgram [3, 0, 99] 16 (Script.ofInput [])).drive
    [.step, .push 5, .step, .step]).outcomes =
      [.error (.device .exhausted), .ok false, .ok true] := by
  decide

end Machine

end IntcodeMachine
