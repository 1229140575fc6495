import IntcodeMachine.Console
import IntcodeMachine.Directory
import IntcodeMachine.Filter
import IntcodeMachine.Machine.Run

/-!
# The command

The command reads a program from a file and runs it on a console.  It ends with exit code 0
when the machine stops.  It ends with exit code 1 when anything fails, and then the last entry
of its log names the failure and what led to it.
-/

namespace IntcodeMachine

/-- Why the command failed. -/
inductive Failure where
  /-- No program file is named. -/
  | usage
  /-- The program file cannot be read. -/
  | unreadable (path : String) (cause : FileError)
  /-- The program file does not hold a program. -/
  | unparsable (path : String) (cause : ProgramError)
  /-- The run of the program failed. -/
  | run (cause : Fault)
  deriving DecidableEq, Repr

namespace Failure

/-- A failure and what led to it, from the outermost to the innermost. -/
def chain : Failure → List String
  | .usage => ["usage: intcode <program>"]
  | .unreadable path cause => [s!"failed to read {path}", cause.message]
  | .unparsable path cause => [s!"failed to parse {path}", cause.message, cause.cause.message]
  | .run cause => "program failed" :: cause.message :: cause.reasons

/-- The text that names a failure; it is one line if the path in it is. -/
def text (f : Failure) : String := "error: " ++ ": ".intercalate f.chain

end Failure

/-- What the command leaves behind. -/
structure Report where
  exitCode : Nat
  /-- All that was written on the console. -/
  output : String
  /-- The entries of the log, in the order in which they were made. -/
  log : List String
  deriving DecidableEq, Repr

/-- How the command is called. -/
structure Invocation where
  arguments : List String := []
  /-- The log filter that is asked for. -/
  filter : Option String := none
  /-- The bytes that the console reads. -/
  input : List UInt8 := []
  /-- The limit of the memory that the command is granted. -/
  memoryLimit : Nat := Memory.defaultLimit
  deriving DecidableEq, Repr

namespace Command

/-- The program in a file that was opened. -/
def readProgram (path : String) (content : Except FileError (List UInt8)) :
    Except Failure Program :=
  match content with
  | .error e => .error (.unreadable path e)
  | .ok bytes =>
      match String.fromUTF8? (ByteArray.mk bytes.toArray) with
      | none => .error (.unreadable path .invalidText)
      | some text =>
          match Program.parse text with
          | .error e => .error (.unparsable path e)
          | .ok program => .ok program

/-- The path that the arguments name.  All arguments but the first are ignored. -/
def programPath : List String → Except Failure String
  | [] => .error .usage
  | path :: _ => .ok path

/-- The program that the arguments name. -/
def findProgram (d : Directory) (arguments : List String) : Except Failure Program :=
  match programPath arguments with
  | .error failure => .error failure
  | .ok path => readProgram path (d.openFile path)

/-- The lines of the events that a filter shows. -/
def logLines (filter : Filter) (events : List Event) : List String :=
  (events.filter filter.shows).map Event.line

/-- The machine that runs a program on a console, in a memory that grows up to a limit. -/
def machine (program : Program) (limit : Nat) (input : List UInt8) : Machine Console :=
  { memory := { Memory.ofProgram program with limit }, device := { source := { unread := input } } }

/-- The report of a failure before the machine has started. -/
def reportFailure (failure : Failure) : Report :=
  { exitCode := 1, output := "", log := [failure.text] }

/-- The report of a run that has come to an end; none if it has not. -/
def reportRun (filter : Filter) (r : Run Console) : Option Report :=
  let output := r.machine.device.sink.transcript
  let log := logLines filter r.events.toList
  match r.outcome with
  | .ok true => some { exitCode := 0, output, log }
  | .ok false => none
  | .error fault => some { exitCode := 1, output, log := log ++ [(Failure.run fault).text] }

/-- Runs the command, with at most `limit` steps of the machine.  There is no report if the
program is still running then. -/
def run (limit : Nat) (d : Directory) (i : Invocation) : Option Report :=
  match findProgram d i.arguments with
  | .error failure => some (reportFailure failure)
  | .ok program =>
      reportRun (Filter.ofSetting i.filter) ((machine program i.memoryLimit i.input).run limit)

end Command

end IntcodeMachine
