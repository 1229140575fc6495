import IntcodeMachine.Device
import IntcodeMachine.Memory

/-!
# Faults

A fault is the reason why a step of the machine failed.  A fault of an instruction names the
place of the instruction and its raw value.
-/

namespace IntcodeMachine

/-- Why a step failed. -/
inductive Fault where
  /-- An address cannot be used. -/
  | address (cause : AddressError)
  /-- The destination of a write is given as a value. -/
  | immediateDestination (pc raw : Word)
  /-- A digit of the instruction stands for no mode. -/
  | invalidMode (pc raw : Word) (digit : Int)
  /-- A result, an address or the place of the next instruction is no word. -/
  | overflow (pc raw : Word)
  /-- The instruction has not as many parameters as its operation takes. -/
  | malformed (pc raw : Word)
  /-- The device failed. -/
  | device (cause : DeviceError)
  deriving DecidableEq, Repr

namespace Fault

/-- An instruction as messages name it. -/
def site (pc raw : Word) : String := s!"instruction {Numeral.text raw} at {Numeral.text pc}"

/-- The wording of a fault. -/
def message : Fault → String
  | .address cause => cause.message
  | .immediateDestination pc raw => s!"immediate mode write destination in {site pc raw}"
  | .invalidMode pc raw digit => s!"invalid parameter mode {digit} in {site pc raw}"
  | .overflow pc raw => s!"arithmetic overflow in {site pc raw}"
  | .malformed pc raw => s!"wrong number of parameters in {site pc raw}"
  | .device cause => cause.message

/-- The wordings of what lies beneath a fault. -/
def reasons : Fault → List String
  | .device cause => cause.reasons
  | _ => []

end Fault

end IntcodeMachine
