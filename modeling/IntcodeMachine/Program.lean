import IntcodeMachine.Numeral
import IntcodeMachine.Text.Blank
import IntcodeMachine.Text.Quoted

/-!
# Program text

A program is a list of words, written as numerals with commas between them.  Blanks around
the whole text and around each numeral are free, and one comma may stand at the end.  A text
with nothing in it is the empty program.

* `Program.parse`: reads a program, or reports the first piece that is no numeral.
* `Program.render`: the plain form, with neither blanks nor a comma at the end.
-/

namespace IntcodeMachine

/-- A program: the words that memory holds before the first step. -/
abbrev Program := List Word

/-- The first piece of a program text that is not the numeral of a word. -/
structure ProgramError where
  /-- How many pieces stand before it. -/
  index : Nat
  /-- The piece, without the blanks around it. -/
  token : String
  /-- What is wrong with it. -/
  cause : NumeralError
  deriving DecidableEq, Repr

/-- The wording of a program error. -/
def ProgramError.message (e : ProgramError) : String :=
  s!"invalid program value {Text.quoted e.token} at index {e.index}: {e.cause.message}"

namespace Program

/-- The text without the comma that ends it, if one does. -/
def dropFinalComma (text : List Char) : List Char :=
  if text.getLast? = some ',' then text.dropLast else text

/-- What stands between the commas, without the blanks around it. -/
def pieces (text : List Char) : List (List Char) :=
  (text.splitOn ',').map Text.trim

/-- The pieces of a program text, each of which has to be a numeral. -/
def tokens (text : List Char) : List (List Char) :=
  let body := dropFinalComma (Text.trim text)
  if body.isEmpty then [] else pieces body

/-- Reads the numerals of a program whose first piece has the given index. -/
def readTokens (index : Nat) : List (List Char) → Except ProgramError Program
  | [] => .ok []
  | token :: rest =>
      match Numeral.read token with
      | .ok value => (readTokens (index + 1) rest).map (value :: ·)
      | .error cause => .error { index, token := String.ofList token, cause }

/-- Reads a program text. -/
def parse (text : String) : Except ProgramError Program :=
  readTokens 0 (tokens text.toList)

/-- The plain text of a program. -/
def render (program : Program) : String :=
  String.ofList ([','].intercalate (program.map Numeral.write))

example : parse " 3, 0,4,0,99,\n" = .ok [3, 0, 4, 0, 99] := by cbv
example : parse " ,\n" = .ok [] := by cbv
example : parse "1,,2" = .error { index := 1, token := "", cause := .empty } := by cbv

end Program

end IntcodeMachine
