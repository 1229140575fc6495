import IntcodeMachine.Log
import IntcodeMachine.Pattern.Usable
import IntcodeMachine.Text.Place

/-!
# Scopes

A directive of a filter may ask an event for more than its source.  A scope stands in brackets.
It is the name of a span, or a particular in braces, or both.  A particular is a name alone, or a
name and a value with `=` between them.
-/

namespace IntcodeMachine

/-- What a directive asks of an event besides its source. -/
inductive Scope where
  /-- Nothing. -/
  | anywhere
  /-- A particular of this name. -/
  | particular (name : List Char)
  /-- A span in which the event happens.  The machine opens no spans, so that no event of it
  happens in one. -/
  | span
  deriving DecidableEq, Repr

namespace Scope

/-- Whether an event meets the demand. -/
def holds (e : Event) : Scope → Bool
  | .anywhere => true
  | .particular name => name = "message".toList || e.fields.any fun field => field.1 = name
  | .span => false

/-- The name of the particular that is asked for; empty if none is. -/
def name : Scope → List Char
  | .anywhere => []
  | .particular name => name
  | .span => []

/-- Whether a text is a numeral without sign: digits, perhaps with a point before, among or after
them, and perhaps an exponent. -/
def isNumeral (text : List Char) : Bool :=
  let whole := text.takeWhile Char.isDigit
  let rest := text.dropWhile Char.isDigit
  let point := rest.head? = some '.'
  let places := if point then rest.tail.takeWhile Char.isDigit else []
  let rest := if point then rest.tail.dropWhile Char.isDigit else rest
  !(whole ++ places).isEmpty &&
    match rest with
    | [] => true
    | mark :: exponent =>
        let digits :=
          if exponent.head? = some '+' || exponent.head? = some '-' then exponent.tail
          else exponent
        (mark = 'e' || mark = 'E') && !digits.isEmpty && digits.all Char.isDigit

/-- Whether a text is a number: a numeral, infinity, or what is no number at all, each perhaps
with a sign. -/
def isNumber (text : List Char) : Bool :=
  let unsigned :=
    if text.head? = some '+' || text.head? = some '-' then text.tail else text
  isNumeral unsigned ||
    ["inf", "infinity", "nan"].contains (String.ofList (unsigned.map Char.toLower))

/-- Whether a particular may have this value: a number or a usable pattern. -/
def isValue (text : List Char) : Bool :=
  isNumber text || (Pattern.read? text).any Pattern.isUsable

example : isValue "-1.5".toList = true := by decide +kernel
example : isValue "a|[^b-d]+".toList = true := by decide +kernel
example : isValue "a)".toList = false := by decide +kernel
example : isValue "(?i)a".toList = false := by decide +kernel

/-- Reads a particular, which has a span or not.  One with a value is that of a span.  What
follows a second `=` is ignored. -/
def ofParticular? (inSpan : Bool) (text : List Char) : Option Scope :=
  let name := text.takeWhile fun c => c ≠ '='
  match text.dropWhile fun c => c ≠ '=' with
  | [] => if text.isEmpty then none else some (if inSpan then .span else .particular name)
  | _ :: rest => if isValue (rest.takeWhile fun c => c ≠ '=') then some .span else none

/-- The places of a scope in a text. -/
inductive Outline where
  /-- There is no scope. -/
  | absent
  /-- There is the name of a span alone. -/
  | span
  /-- There is a particular between two places, after the name of a span or without one. -/
  | particular (inSpan : Bool) (start stop : Nat)
  deriving DecidableEq, Repr

/-- Finds the places of a scope after its opening bracket, which stands before a place, and gives
what stands behind the closing one. -/
def outline? (start : Nat) (text : List Char) : Option (Outline × List Char) :=
  let spanName := text.takeWhile fun c => c ≠ ']' && c ≠ '\x7b'
  match text.dropWhile fun c => c ≠ ']' && c ≠ '\x7b' with
  | ']' :: rest => some (.span, rest)
  | '\x7b' :: inner =>
      let particular := inner.takeWhile fun c => c ≠ '\x7d'
      let start := start + Text.byteLength spanName + 1
      match inner.dropWhile fun c => c ≠ '\x7d' with
      | '\x7d' :: ']' :: rest =>
          some (.particular (!spanName.isEmpty) start (start + Text.byteLength particular), rest)
      | _ => none
  | _ => none

/-- The scope at its places in a text. -/
def ofOutline? (text : List Char) : Outline → Option Scope
  | .absent => some .anywhere
  | .span => some .span
  | .particular inSpan start stop => ofParticular? inSpan (Text.cut text start stop)

end Scope

end IntcodeMachine
