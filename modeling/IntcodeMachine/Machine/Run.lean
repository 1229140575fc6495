import IntcodeMachine.Machine.Step

/-!
# Runs of a machine

A run takes steps until the machine stops, a step fails, or a given number of steps is used
up.

* `Machine.after_add`: steps add up.
* `Machine.after_of_halted`: no step changes a machine that has stopped.
-/

namespace IntcodeMachine

/-- A run so far. -/
structure Run (δ : Type) where
  /-- The number of steps taken; a step that stops the machine or fails counts. -/
  calls : Nat
  /-- What the last step came to. -/
  outcome : Except Fault Bool
  /-- The machine after these steps. -/
  machine : Machine δ
  /-- All that was reported, in order. -/
  events : Array Event

namespace Run

variable {δ : Type}

/-- The run of no steps. -/
def start (m : Machine δ) : Run δ :=
  { calls := 0, outcome := .ok false, machine := m, events := #[] }

/-- The run with one more step. -/
def next [Device δ] (r : Run δ) : Run δ :=
  let { calls, machine, events, .. } := r
  let s := machine.step
  { calls := calls + 1, outcome := s.outcome, machine := s.machine,
    events := events ++ s.events }

/-- Goes on for at most the given number of steps, until the machine stops or a step
fails. -/
def proceed [Device δ] : Nat → Run δ → Run δ
  | 0, r => r
  | limit + 1, r =>
      match r.outcome with
      | .ok false => proceed limit r.next
      | _ => r

end Run

namespace Machine

variable {δ : Type}

/-- Runs a machine for at most the given number of steps. -/
def run [Device δ] (m : Machine δ) (limit : Nat) : Run δ :=
  (Run.start m).proceed limit

/-- The machine after a number of steps, each taken whatever came of the one before. -/
def after [Device δ] (m : Machine δ) : Nat → Machine δ
  | 0 => m
  | n + 1 => (m.after n).step.machine

/-- What the step after the first `n` comes to. -/
def outcomeAt [Device δ] (m : Machine δ) (n : Nat) : Except Fault Bool :=
  (m.after n).step.outcome

variable [Device δ]

@[simp]
theorem after_zero (m : Machine δ) : m.after 0 = m := rfl

theorem after_succ (m : Machine δ) (n : Nat) : m.after (n + 1) = (m.after n).step.machine := rfl

/-- Steps add up. -/
theorem after_add (m : Machine δ) (n k : Nat) : m.after (n + k) = (m.after n).after k := by
  induction k with
  | zero => rfl
  | succ k ih =>
      rw [← Nat.add_assoc, after_succ, after_succ, ih]

/-- The first of several steps may be split off. -/
theorem after_succ_first (m : Machine δ) (n : Nat) :
    m.after (n + 1) = m.step.machine.after n := by
  rw [Nat.add_comm]
  exact m.after_add 1 n

/-- No step changes a machine that has stopped. -/
theorem after_of_halted {m : Machine δ} (h : m.halted = true) (n : Nat) : m.after n = m := by
  induction n with
  | zero => rfl
  | succ n ih =>
      rw [after_succ, ih, step_of_halted h]

end Machine

end IntcodeMachine
