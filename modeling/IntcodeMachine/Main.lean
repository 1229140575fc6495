import IntcodeMachine.Command
import Std.Time

/-!
# The program

Runs the command on the real console.  Each step of the machine is taken on a console with
nothing to read; if the step finds it closed, a line is read and the step is taken again
with that line.  So a prompt is seen before its line is awaited, and output as it is made.
-/

namespace IntcodeMachine.Command

/-- Reads the bytes up to and including the next newline, or what is left before the end. -/
partial def awaitLine (input : IO.FS.Stream) (line : ByteArray) : IO (List UInt8) := do
  let bytes ← input.read 1
  let line := line ++ bytes
  if bytes.isEmpty || bytes.toList = [newline] then return line.toList
  else awaitLine input line

/-- Shows lines of the log, each after the time. -/
def showLog (lines : List String) : IO Unit := do
  let stderr ← IO.getStderr
  for line in lines do
    let now := Std.Time.DateTime.ofTimestamp (← Std.Time.Timestamp.now) .UTC
    stderr.putStrLn (now.format "uuuu-MM-dd'T'HH:mm:ss.SSSSSS'Z'" ++ " " ++ line)

/-- Shows the text that names a failure. -/
def showFailure (failure : Failure) : IO UInt32 := do
  (← IO.getStderr).putStrLn failure.text
  return 1

/-- Shows what a step wrote on the console. -/
def showOutput (m : Machine Console) : IO Unit := do
  let stdout ← IO.getStdout
  stdout.putStr m.device.sink.transcript
  stdout.flush

/-- Takes a step whose prompt has been seen, with the line that was awaited. -/
def answer (m : Machine Console) (line : List UInt8) : Step Console :=
  { m with device := { m.device with source := { unread := line } } }.step

/-- Runs a machine whose console has nothing to read and nothing written. -/
partial def session (filter : Filter) (m : Machine Console) : IO UInt32 := do
  let first := m.step
  showLog (logLines filter first.events)
  showOutput first.machine
  let s ← match first.outcome with
    | .error (.device .closed) =>
        pure (answer m (← awaitLine (← IO.getStdin) ByteArray.empty))
    | _ => pure first
  match s.outcome with
  | .ok true => return 0
  | .ok false => session filter { s.machine with device := {} }
  | .error fault => showFailure (.run fault)

/-- Reads the bytes of a file. -/
def readFile (path : String) : IO (Except FileError (List UInt8)) := do
  try
    return .ok (← IO.FS.readBinFile path).toList
  catch e =>
    match e with
    | .noFileOrDirectory .. => return .error .notFound
    | .inappropriateType _ code _ =>
        return .error (if code = 21 || code = 0 - 21 then .isDirectory else .notDirectory)
    | .invalidArgument _ code details =>
        return .error (if code = 36 || code = 0 - 36 then .nameTooLong else .other details)
    | .permissionDenied .. => return .error (.other "Permission denied (os error 13)")
    | e => return .error (.other (toString e))

end IntcodeMachine.Command

open IntcodeMachine in
/-- Runs the program in the file that the first argument names. -/
def main (arguments : List String) : IO UInt32 := do
  match Command.programPath arguments with
  | .error failure => Command.showFailure failure
  | .ok path =>
      match Command.readProgram path (← Command.readFile path) with
      | .error failure => Command.showFailure failure
      | .ok program =>
          let filter := Filter.ofSetting (← IO.getEnv "RUST_LOG")
          Command.session filter (Command.machine program Memory.defaultLimit [])
