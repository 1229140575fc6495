import IntcodeMachine.Opcode

/-!
# Events

What a machine reports of its run.  An event is a fact about one instruction; whether it is
shown to anybody is for others to decide.
-/

namespace IntcodeMachine

/-- How much an event matters. -/
inductive Level where
  | trace
  | debug
  | info
  | warn
  | error
  deriving DecidableEq, Repr

namespace Level

/-- The rank of a level; what matters more has the higher rank. -/
def rank : Level → Nat
  | .trace => 0
  | .debug => 1
  | .info => 2
  | .warn => 3
  | .error => 4

/-- The name of a level. -/
def name : Level → String
  | .trace => "TRACE"
  | .debug => "DEBUG"
  | .info => "INFO"
  | .warn => "WARN"
  | .error => "ERROR"

end Level

/-- What a machine reports. -/
inductive Event where
  /-- A cell whose class selects no operation was skipped. -/
  | unknownOpcode (pc raw : Word)
  /-- An instruction is about to take effect, with these parameters as they stand in memory. -/
  | execute (pc raw : Word) (opcode : Opcode) (parameters : List Word)
  /-- The machine stopped. -/
  | halted (pc : Word)
  deriving DecidableEq, Repr

namespace Event

/-- How much an event matters. -/
def level : Event → Level
  | .unknownOpcode .. => .warn
  | .execute .. => .trace
  | .halted .. => .debug

/-- The place of the instruction that an event is about. -/
def pc : Event → Word
  | .unknownOpcode pc _ => pc
  | .execute pc _ _ _ => pc
  | .halted pc => pc

/-- What an event says, without its particulars. -/
def message : Event → String
  | .unknownOpcode .. => "unknown opcode"
  | .execute .. => "execute"
  | .halted .. => "halted"

end Event

end IntcodeMachine
