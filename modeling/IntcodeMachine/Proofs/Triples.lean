import IntcodeMachine.Proofs.Devices
import IntcodeMachine.Proofs.Guards
import Mathlib.Data.List.Induction

/-!
# Taking output away

While a machine runs, what it has put out may be taken away again, three values at a time.  Output
is taken from the front of what is kept and added at its back, and a step never looks at it.  So the
machine goes on as if nothing had been taken, and what has been taken together with what is left is
what would be there then.

* `Script.Lacks`: a script that lacks the first values of another one answers like it.
* `Handled.Unfelt`: what holds of a machine whose output is taken away.
* `Handled.Unfelt.next`, `Machine.unfelt_handle`: one thing that is done, and any number of them.
* `Machine.taking_unfelt`: all of this, and which triples are taken.
-/

namespace IntcodeMachine

/-- What is done to a machine whose output is taken away. -/
inductive Handling where
  /-- A step is taken. -/
  | step
  /-- The oldest three output values are taken away, if there are three. -/
  | takeTriple
  deriving DecidableEq, Repr

namespace Buffer

/-- A row that does not start with three values is shorter than that. -/
theorem length_lt_three {values : List Word}
    (h : ∀ x y z rest, values = x :: y :: z :: rest → False) : values.length < 3 := by
  match values with
  | [] | [_] | [_, _] => simp
  | x :: y :: z :: rest => exact (h x y z rest rfl).elim

/-- Nothing is taken just if there are fewer than three values. -/
theorem takeTriple_eq_none_iff {b : Buffer} : b.takeTriple.1 = none ↔ b.values.size < 3 := by
  rw [← Array.length_toList, takeTriple]
  split
  · next h => simp [h]
  · next hshort => simpa using length_lt_three hshort

/-- If nothing is taken, nothing changes. -/
theorem takeTriple_of_none {b : Buffer} (h : b.takeTriple.1 = none) : b.takeTriple.2 = b := by
  unfold takeTriple at h ⊢
  split at h
  · cases h
  · rfl

/-- The consecutive triples of a row of values.  Up to two values at its end are in none. -/
def triplesOf : List Word → List (Word × Word × Word)
  | x :: y :: z :: rest => (x, y, z) :: triplesOf rest
  | _ => []

/-- A triple in a place is made of the three values from three times this place on. -/
theorem getElem?_triplesOf_iff {values : List Word} {place : Nat} {x y z : Word} :
    (triplesOf values)[place]? = some (x, y, z) ↔
      values[3 * place]? = some x ∧ values[3 * place + 1]? = some y ∧
        values[3 * place + 2]? = some z := by
  induction values using triplesOf.induct generalizing place with
  | case1 a b c rest ih =>
      cases place with
      | zero => simp [triplesOf]
      | succ place =>
          rw [triplesOf, List.getElem?_cons_succ, ih]
          exact Iff.rfl
  | case2 values hshort =>
      have hlast : values[3 * place + 2]? = none :=
        List.getElem?_eq_none (by have := length_lt_three hshort; omega)
      simp [triplesOf.eq_2 values hshort, hlast]

/-- What was taken away in triples stands in the first of the triples. -/
theorem triplesOf_append (takings : List (Option (Word × Word × Word))) (rest : List Word) :
    triplesOf (takings.flatMap tripleValues ++ rest) = takings.filterMap id ++ triplesOf rest := by
  induction takings with
  | nil => rfl
  | cons taking takings ih =>
      cases taking with
      | none => exact ih
      | some triple => exact congrArg (triple :: ·) ih

/-- Where fewer than three values are left, taking again and again gives nothing. -/
theorem serve_of_short {b : Buffer} (h : b.values.size < 3) (count : Nat) :
    b.serve (List.replicate count .takeTriple) = (List.replicate count none, b) := by
  have hnone := takeTriple_eq_none_iff.mpr h
  have hsame : b.takeTriple = (none, b) := Prod.ext hnone (takeTriple_of_none hnone)
  induction count with
  | zero => rfl
  | succ count ih =>
      rw [List.replicate_succ, serve, answer, hsame]
      simp only [ih]
      rfl

/-- **Taking again and again** gives the triples away one by one, and then nothing. -/
theorem serve_takeTriple (values : List Word) (count : Nat) :
    let served := serve { values := values.toArray } (List.replicate count .takeTriple)
    served.1 = (List.range count).map (fun place => (triplesOf values)[place]?) ∧
      served.2.values.toList = values.drop (3 * min count (values.length / 3)) := by
  induction values using triplesOf.induct generalizing count with
  | case1 x y z rest ih =>
      cases count with
      | zero => simp [serve]
      | succ count =>
          obtain ⟨htriples, hleft⟩ := ih count
          have hlength : 3 * min (count + 1) ((x :: y :: z :: rest).length / 3) =
              3 * min count (rest.length / 3) + 3 := by
            simp only [List.length_cons]
            omega
          rw [hlength, List.range_succ_eq_map, List.map_cons, List.map_map]
          refine ⟨?_, hleft⟩
          exact congrArg (some (x, y, z) :: ·) htriples
  | case2 values hshort =>
      have hsize := length_lt_three hshort
      have hzero : values.length / 3 = 0 := Nat.div_eq_of_lt hsize
      rw [serve_of_short (by simpa using hsize), triplesOf.eq_2 values hshort, hzero]
      simp

end Buffer

namespace Script

/-- A script is like another one but for output values at the front, which it lacks. -/
structure Lacks (front : List Word) (s full : Script) : Prop where
  feed_eq : s.feed = full.feed
  values_eq : front ++ s.buffer.values.toList = full.buffer.values.toList

/-- **Output values that are lacking at the front make no difference** to what is answered. -/
theorem Lacks.answersAlike (front : List Word) : AnswersAlike (Lacks front) id where
  deliver := by
    rintro ⟨feed, buffer⟩ ⟨feed', buffer'⟩ ⟨hfeed, hvalues⟩
    obtain rfl : feed = feed' := hfeed
    refine ⟨?_, rfl, hvalues⟩
    change feed.deliver.1 = _
    cases feed.deliver.1 <;> rfl
  receive := by
    rintro ⟨feed, buffer⟩ ⟨feed', buffer'⟩ value ⟨hfeed, hvalues⟩
    refine ⟨rfl, hfeed, ?_⟩
    change front ++ (buffer.receive value).values.toList = (buffer'.receive value).values.toList
    rw [Buffer.toList_receive, Buffer.toList_receive, ← List.append_assoc]
    exact congrArg (· ++ [value]) hvalues

end Script

/-- What came of all that was done to a machine. -/
structure Handled where
  /-- What the steps came to, in order. -/
  outcomes : List (Except Fault Bool) := []
  /-- What was taken each time, in order. -/
  takings : List (Option (Word × Word × Word)) := []
  machine : Machine Script

namespace Machine

/-- Takes the oldest three output values away. -/
def takeTriple (m : Machine Script) : Option (Word × Word × Word) × Machine Script :=
  (m.device.takeTriple.1, { m with device := m.device.takeTriple.2 })

end Machine

namespace Handled

/-- Does one more thing, whatever came of those before. -/
def next (h : Handled) : Handling → Handled
  | .step => { h with
      outcomes := h.outcomes ++ [h.machine.step.outcome], machine := h.machine.step.machine }
  | .takeTriple => { h with
      takings := h.takings ++ [h.machine.takeTriple.1], machine := h.machine.takeTriple.2 }

/-- All values that were taken, in order. -/
def taken (h : Handled) : List Word := h.takings.flatMap Buffer.tripleValues

/-- The triples that were taken, in order. -/
def triples (h : Handled) : List (Word × Word × Word) := h.takings.filterMap id

/-- A machine has come through all that was done to it as it would have by the steps alone, but for
the values that were taken. -/
structure Unfelt (h : Handled) (m : Machine Script) : Prop where
  outcomes_eq : h.outcomes = (List.range h.outcomes.length).map m.outcomeAt
  alike : Machine.Alike (Script.Lacks h.taken) h.machine (m.after h.outcomes.length)

variable {h : Handled} {m : Machine Script}

/-- **One more thing is not felt either.** -/
theorem Unfelt.next (hunfelt : h.Unfelt m) (handling : Handling) : (h.next handling).Unfelt m := by
  obtain ⟨houtcomes, halike⟩ := hunfelt
  cases handling with
  | step =>
      obtain ⟨houtcome, hafter⟩ := halike.step (Script.Lacks.answersAlike h.taken)
      rw [Fault.mapError_rename_id] at houtcome
      have hlength : (h.next .step).outcomes.length = h.outcomes.length + 1 := by
        simp [Handled.next]
      constructor
      · rw [hlength, List.range_succ, List.map_append, ← houtcomes]
        exact congrArg (h.outcomes ++ [·]) houtcome
      · rw [hlength]
        exact hafter
  | takeTriple =>
      refine ⟨houtcomes, halike.memory_eq, halike.pc_eq, halike.base_eq, halike.halted_eq,
        halike.device.feed_eq, ?_⟩
      have htaken : (h.next .takeTriple).taken =
          h.taken ++ Buffer.tripleValues h.machine.device.buffer.takeTriple.1 := by
        simp [taken, Handled.next, Machine.takeTriple, Script.takeTriple]
      rw [htaken, List.append_assoc]
      refine Eq.trans ?_ halike.device.values_eq
      exact congrArg (h.taken ++ ·) (Buffer.values_takeTriple _)

end Handled

namespace Machine

/-- Does one thing after the other to a machine. -/
def handle (m : Machine Script) (schedule : List Handling) : Handled :=
  schedule.foldl Handled.next { machine := m }

/-- **Nothing that is done is felt**, in whatever order steps and takings come. -/
theorem unfelt_handle (m : Machine Script) (schedule : List Handling) :
    (m.handle schedule).Unfelt m := by
  have hstart : Handled.Unfelt { machine := m } m :=
    ⟨rfl, rfl, rfl, rfl, rfl, rfl, rfl⟩
  unfold handle
  generalize ({ machine := m } : Handled) = h at hstart ⊢
  induction schedule generalizing h with
  | nil => exact hstart
  | cons handling rest ih => exact ih _ (hstart.next handling)

/-- What is done first is done whatever comes later. -/
theorem handle_append (m : Machine Script) (schedule later : List Handling) :
    m.handle (schedule ++ later) = later.foldl Handled.next (m.handle schedule) :=
  List.foldl_append

/-- Each step has an outcome, and each taking a reply. -/
theorem length_handle (m : Machine Script) (schedule : List Handling) :
    (m.handle schedule).outcomes.length = schedule.count .step ∧
      (m.handle schedule).takings.length = schedule.count .takeTriple := by
  induction schedule using List.reverseRecOn with
  | nil => exact ⟨rfl, rfl⟩
  | append_singleton schedule handling ih =>
      obtain ⟨houtcomes, htakings⟩ := ih
      rw [handle_append, List.count_append, List.count_append, ← houtcomes, ← htakings]
      cases handling with
      | step => simp [Handled.next]
      | takeTriple => simp [Handled.next]

/-- A reply stays whatever is done later. -/
theorem takings_handle_prefix (m : Machine Script) (schedule later : List Handling) :
    (m.handle schedule).takings <+: (m.handle (schedule ++ later)).takings := by
  induction later using List.reverseRecOn with
  | nil => simp
  | append_singleton later handling ih =>
      refine ih.trans ?_
      rw [← List.append_assoc, handle_append m (schedule ++ later)]
      cases handling with
      | step => exact List.prefix_rfl
      | takeTriple => exact List.prefix_append _ _

theorem takeTriple_of_none {m : Machine Script} (h : m.takeTriple.1 = none) :
    m.takeTriple.2 = m := by
  obtain ⟨memory, pc, base, halted, ⟨feed, buffer⟩⟩ := m
  have hsame : buffer.takeTriple.2 = buffer := Buffer.takeTriple_of_none h
  rw [takeTriple, Script.takeTriple]
  simp only [hsame]

/-- What a taking came to that has others before and after it. -/
theorem taking_handle (m : Machine Script) (schedule later : List Handling) :
    (m.handle (schedule ++ .takeTriple :: later)).takings[schedule.count .takeTriple]? =
      some (m.handle schedule).machine.takeTriple.1 := by
  obtain ⟨more, hmore⟩ := m.takings_handle_prefix (schedule ++ [.takeTriple]) later
  have hlast : (m.handle (schedule ++ [.takeTriple])).takings =
      (m.handle schedule).takings ++ [(m.handle schedule).machine.takeTriple.1] := by
    rw [handle_append]
    rfl
  rw [List.append_cons, ← hmore, hlast, ← (m.length_handle schedule).2]
  simp

/-- **Taking output away is not felt, and loses nothing.**  However steps and takings follow one
another, the steps come to the same as without the takings, and leave the same memory, registers and
input.  What was taken, and then what is left, is what would have been kept; the triples are its
consecutive ones.  Nothing is taken exactly when there are fewer than three values, and then nothing
changes. -/
theorem taking_unfelt (m : Machine Script) (schedule : List Handling) :
    let handled := m.handle schedule
    let undisturbed := m.after (schedule.count .step)
    let kept := undisturbed.device.buffer.values.toList
    handled.outcomes = (List.range (schedule.count .step)).map m.outcomeAt ∧
    (handled.machine.memory = undisturbed.memory ∧ handled.machine.pc = undisturbed.pc ∧
      handled.machine.base = undisturbed.base ∧ handled.machine.halted = undisturbed.halted ∧
      handled.machine.device.feed = undisturbed.device.feed) ∧
    handled.taken ++ handled.machine.device.buffer.values.toList = kept ∧
    (∀ j x y z, handled.triples[j]? = some (x, y, z) →
      kept[3 * j]? = some x ∧ kept[3 * j + 1]? = some y ∧ kept[3 * j + 2]? = some z) ∧
    ∀ before later, schedule = before ++ .takeTriple :: later →
      let reached := (m.handle before).machine
      handled.takings[before.count .takeTriple]? = some reached.takeTriple.1 ∧
      (reached.takeTriple.1 = none ↔ reached.device.buffer.values.size < 3) ∧
      (reached.takeTriple.1 = none → reached.takeTriple.2 = reached) := by
  intro handled undisturbed kept
  obtain ⟨houtcomes, halike⟩ := m.unfelt_handle schedule
  rw [(m.length_handle schedule).1] at houtcomes halike
  have hkept : handled.taken ++ handled.machine.device.buffer.values.toList = kept :=
    halike.device.values_eq
  refine ⟨houtcomes, ⟨halike.memory_eq, halike.pc_eq, halike.base_eq, halike.halted_eq,
    halike.device.feed_eq⟩, hkept, ?_, ?_⟩
  · intro j x y z hj
    apply Buffer.getElem?_triplesOf_iff.mp
    obtain ⟨hlt, _⟩ := List.getElem?_eq_some_iff.mp hj
    rw [← hkept, Handled.taken, Buffer.triplesOf_append]
    exact (List.getElem?_append_left hlt).trans hj
  · rintro before later rfl
    refine ⟨m.taking_handle before later, ?_, takeTriple_of_none⟩
    exact Buffer.takeTriple_eq_none_iff

example : ((ofProgram [104, 1, 104, 2, 104, 3, 104, 4, 99] 16 (Script.ofInput [])).handle
    [.step, .takeTriple, .step, .step, .takeTriple, .step, .takeTriple]).takings =
      [none, some (1, 2, 3), none] := by
  decide

end Machine

end IntcodeMachine
