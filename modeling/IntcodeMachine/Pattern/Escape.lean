import IntcodeMachine.Pattern.Syntax
import IntcodeMachine.Text.Blank

/-!
# Escapes

What a backslash makes of the characters after it.  Of the forms that need a closing brace none
can be read, for that brace ends the text of a pattern before it.  Nor can properties of
characters, for which there are no tables.
-/

namespace IntcodeMachine.Pattern

/-- Skips blanks and comments.  A comment starts with `#` and ends with its line. -/
def skipComments (inComment : Bool) : List Char → List Char
  | [] => []
  | c :: cs =>
      if inComment then skipComments (c ≠ '\n') cs
      else if Text.isBlank c then skipComments false cs
      else if c = '#' then skipComments true cs
      else c :: cs

/-- Skips what a verbose pattern may hold for its reader; any other holds nothing of the kind. -/
def skip (verbose : Bool) (text : List Char) : List Char :=
  if verbose then skipComments false text else text

/-- What an escape stands for. -/
inductive Atom where
  | literal (l : Literal)
  | shorthand (negated : Bool)
  | edge
  | boundary
  deriving DecidableEq, Repr

/-- The value of a hexadecimal digit. -/
def hexValue? (c : Char) : Option Nat :=
  if c.isDigit then some (c.toNat - '0'.toNat)
  else if 'a' ≤ c ∧ c ≤ 'f' then some (c.toNat - 'a'.toNat + 10)
  else if 'A' ≤ c ∧ c ≤ 'F' then some (c.toNat - 'A'.toNat + 10)
  else none

/-- Reads a number of so many hexadecimal digits, of which some are read already. -/
def readHex? (verbose : Bool) (value : Nat) : Nat → List Char → Option (Nat × List Char)
  | 0, text => some (value, text)
  | digits + 1, text =>
      match skip verbose text with
      | [] => none
      | c :: rest =>
          match hexValue? c with
          | none => none
          | some digit => readHex? verbose (16 * value + digit) digits rest

/-- Reads the number of a character. -/
def readNumber? (verbose : Bool) (digits : Nat) (text : List Char) :
    Option (Atom × List Char) :=
  match readHex? verbose 0 digits text with
  | none => none
  | some (value, rest) =>
      if value.isValidChar then
        some (.literal { char := Char.ofNat value, byNumber := digits = 2 }, rest)
      else none

/-- The control characters that have a letter. -/
def controls : List (Char × Char) :=
  [('a', '\x07'), ('f', '\x0c'), ('t', '\t'), ('n', '\n'), ('r', '\r'), ('v', '\x0b')]

/-- Reads what follows a backslash.  Any ASCII character that is neither a letter nor a digit
stands for itself, but `<` and `>` do not. -/
def readEscape? (verbose : Bool) : List Char → Option (Atom × List Char)
  | [] => none
  | c :: rest =>
      if c = 'x' then readNumber? verbose 2 rest
      else if c = 'u' then readNumber? verbose 4 rest
      else if c = 'U' then readNumber? verbose 8 rest
      else if c = 'd' ∨ c = 's' ∨ c = 'w' then some (.shorthand false, rest)
      else if c = 'D' ∨ c = 'S' ∨ c = 'W' then some (.shorthand true, rest)
      else if c = 'A' ∨ c = 'z' then some (.edge, rest)
      else if c = 'b' ∨ c = 'B' ∨ c = '<' ∨ c = '>' then some (.boundary, rest)
      else
        match controls.lookup c with
        | some control => some (.literal { char := control }, rest)
        | none =>
            if c.toNat < 128 && !c.isAlphanum then some (.literal { char := c }, rest) else none

end IntcodeMachine.Pattern
