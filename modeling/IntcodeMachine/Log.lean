import IntcodeMachine.Event
import IntcodeMachine.Numeral

/-!
# The event log

How an event is shown: one line with its level, the name of what reports it, what it says, and
its particulars.
-/

namespace IntcodeMachine

/-- The name under which the machine reports. -/
def Event.source : List Char := "intcode::machine".toList

/-- The list of values as the log shows it. -/
def shownValues (values : List Word) : List Char :=
  ['['] ++ [',', ' '].intercalate (values.map Numeral.write) ++ [']']

namespace Event

/-- The particulars of an event, as name and value. -/
def fields : Event → List (List Char × List Char)
  | .unknownOpcode pc raw => [("pc".toList, Numeral.write pc), ("raw".toList, Numeral.write raw)]
  | .execute pc raw opcode parameters =>
      [("pc".toList, Numeral.write pc), ("raw".toList, Numeral.write raw),
        ("opcode".toList, opcode.name.toList), ("params".toList, shownValues parameters)]
  | .halted pc => [("pc".toList, Numeral.write pc)]

/-- The line that shows an event: the level, five characters wide, then the source, the
message and the particulars. -/
def line (e : Event) : String :=
  let level := e.level.name.toList
  let words := e.message.toList :: e.fields.map fun field => field.1 ++ ['='] ++ field.2
  String.ofList (List.replicate (5 - level.length) ' ' ++ level ++ [' '] ++ source ++ [':', ' '] ++
    [' '].intercalate words)

end Event

end IntcodeMachine
