import IntcodeMachine.Word

/-!
# Decimal numerals

A numeral is one optional sign and at least one ASCII digit; leading zeros are free.  It is
read from left to right, and the first character that makes it impossible to go on decides
the error: a character that is no digit, or a digit that takes the value read so far out of
the range of words.

* `Numeral.write`: the shortest numeral of a word, with a sign only when it is negative.
-/

namespace IntcodeMachine

/-- Why a text is not the numeral of a word. -/
inductive NumeralError where
  /-- There is no character at all. -/
  | empty
  /-- A digit was due and something else stands there, or nothing after a sign. -/
  | invalidDigit
  /-- The digits read so far exceed the largest word. -/
  | tooLarge
  /-- The digits read so far fall below the smallest word. -/
  | tooSmall
  deriving DecidableEq, Repr

/-- The wording of a numeral error. -/
def NumeralError.message : NumeralError → String
  | .empty => "cannot parse integer from empty string"
  | .invalidDigit => "invalid digit found in string"
  | .tooLarge => "number too large to fit in target type"
  | .tooSmall => "number too small to fit in target type"

/-- The sign of a numeral. -/
inductive Sign where
  | plus
  | minus
  deriving DecidableEq, Repr

namespace Sign

/-- The integer with this sign and the given magnitude. -/
def apply : Sign → Int → Int
  | .plus, n => n
  | .minus, n => -n

/-- The error of a numeral with this sign whose digits leave the range of words. -/
def overflow : Sign → NumeralError
  | .plus => .tooLarge
  | .minus => .tooSmall

end Sign

namespace Numeral

/-- The value of an ASCII digit. -/
def digitValue (c : Char) : Nat := c.toNat - '0'.toNat

/-- Reads the digits that follow after `value` has been read.  Each digit is appended to the
value in the direction of the sign. -/
def readDigits (sign : Sign) (value : Word) : List Char → Except NumeralError Word
  | [] => .ok value
  | c :: cs =>
      if c.isDigit then
        match Word.ofInt? (10 * value.toInt + sign.apply (digitValue c)) with
        | some extended => readDigits sign extended cs
        | none => .error sign.overflow
      else .error .invalidDigit

/-- Reads the part of a numeral after its sign, which must not be empty. -/
def readUnsigned (sign : Sign) : List Char → Except NumeralError Word
  | [] => .error .invalidDigit
  | c :: cs => readDigits sign 0 (c :: cs)

/-- Reads a numeral that makes up the whole text. -/
def read : List Char → Except NumeralError Word
  | [] => .error .empty
  | '+' :: cs => readUnsigned .plus cs
  | '-' :: cs => readUnsigned .minus cs
  | cs => readUnsigned .plus cs

/-- The shortest numeral of a word. -/
def write (w : Word) : List Char :=
  if w < 0 then '-' :: Nat.toDigits 10 w.toInt.natAbs else Nat.toDigits 10 w.toInt.natAbs

/-- The shortest numeral of a word, as a string. -/
def text (w : Word) : String := String.ofList (write w)

example : read ("9223372036854775807x".toList) = .error .invalidDigit := rfl
example : read ("9223372036854775808x".toList) = .error .tooLarge := rfl
example : read ("-9223372036854775808".toList) = .ok (-9223372036854775808) := rfl
example : read ("-".toList) = .error .invalidDigit := rfl

end Numeral

end IntcodeMachine
