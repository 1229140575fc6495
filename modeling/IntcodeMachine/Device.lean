import IntcodeMachine.Numeral
import IntcodeMachine.Text.Quoted

/-!
# Devices

A device is the outside world of a running machine.  It hands over one word for each input
instruction and accepts one word for each output instruction.  Either may fail, and either
may change the device even then, so both return the device as they leave it.
-/

namespace IntcodeMachine

/-- A failure of a stream of bytes under a console. -/
inductive StreamError where
  /-- A line of input is not valid UTF-8. -/
  | invalidText
  /-- The sink has no room for all of what was to be written. -/
  | full
  /-- The source broke while it was being read. -/
  | readFailure
  /-- The sink broke while it was being flushed. -/
  | flushFailure
  deriving DecidableEq, Repr

/-- The wording of a stream error. -/
def StreamError.message : StreamError → String
  | .invalidText => "stream did not contain valid UTF-8"
  | .full => "failed to write whole buffer"
  | .readFailure => "read failure"
  | .flushFailure => "flush failure"

/-- Why a device did not do what it was asked for. -/
inductive DeviceError where
  /-- All values meant for the machine have been taken. -/
  | exhausted
  /-- The console has no further line. -/
  | closed
  /-- A line of the console is not the numeral of a word. -/
  | unreadable (line : String) (cause : NumeralError)
  /-- A stream under the console failed. -/
  | stream (cause : StreamError)
  deriving DecidableEq, Repr

namespace DeviceError

/-- The wording of a device error. -/
def message : DeviceError → String
  | .exhausted => "no more input values"
  | .closed => "input closed"
  | .unreadable line cause =>
      s!"failed to parse input line {Text.quoted line}: {cause.message}"
  | .stream cause => cause.message

/-- The wordings of what lies beneath a device error. -/
def reasons : DeviceError → List String
  | .unreadable _ cause => [cause.message]
  | .exhausted | .closed | .stream _ => []

end DeviceError

/-- What a machine can ask of a device. -/
class Device (δ : Type) where
  /-- Hands over the next input value. -/
  deliver : δ → Except DeviceError Word × δ
  /-- Accepts an output value. -/
  receive : δ → Word → Except DeviceError Unit × δ

end IntcodeMachine
