import IntcodeMachine.Pattern.Escape

/-!
# Bracketed sets

Reads a set of characters between brackets.  A hyphen at the start and a closing bracket before
anything else stand for themselves.  Sets may be nested, and `&&`, `--` and `~~` combine what
stands before them with what stands after, from left to right.
-/

namespace IntcodeMachine

namespace CharSet

/-- The names of the classes of ASCII characters. -/
def classNames : List String :=
  ["alnum", "alpha", "ascii", "blank", "cntrl", "digit", "graph", "lower", "print", "punct",
    "space", "upper", "word", "xdigit"]

/-- Reads a named class after its opening bracket. -/
def readNamed? : List Char → Option (CharSet × List Char)
  | ':' :: text =>
      let negated := text.head? = some '^'
      let text := if negated then text.drop 1 else text
      let name := text.takeWhile fun c => c ≠ ':'
      match text.dropWhile fun c => c ≠ ':' with
      | ':' :: ']' :: rest =>
          if classNames.contains (String.ofList name) then some (.named negated, rest) else none
      | _ => none
  | _ => none

/-- Reads one character of a set, or what an escape in it stands for. -/
def readAtom? (verbose : Bool) : List Char → Option (Pattern.Atom × List Char)
  | [] => none
  | c :: rest =>
      if c = '\\' then Pattern.readEscape? verbose rest
      else some (.literal { char := c }, rest)

/-- The set that an atom alone stands for. -/
def ofAtom? : Pattern.Atom → Option CharSet
  | .literal l => some (.literal l)
  | .shorthand negated => some (.shorthand negated)
  | _ => none

/-- The set of all characters from one atom to another. -/
def ofEnds? : Pattern.Atom → Pattern.Atom → Option CharSet
  | .literal first, .literal last =>
      if first.char ≤ last.char then some (.range first last) else none
  | _, _ => none

/-- The character that decides whether a hyphen before it is one of a range.  In a verbose pattern
it is the first that is no blank, where one `#` counts as a blank. -/
def peek? (verbose : Bool) (text : List Char) : Option Char :=
  if verbose then
    match text.dropWhile Text.isBlank with
    | '#' :: rest => (rest.dropWhile Text.isBlank).head?
    | rest => rest.head?
  else text.head?

/-- Reads a range, or an atom that none starts with. -/
def readRange? (verbose : Bool) (text : List Char) : Option (CharSet × List Char) :=
  match readAtom? verbose text with
  | none => none
  | some (first, rest) =>
      match Pattern.skip verbose rest with
      | '-' :: next =>
          if peek? verbose next = some ']' || peek? verbose next = some '-' then
            (ofAtom? first).map fun item => (item, '-' :: next)
          else
            match readAtom? verbose (Pattern.skip verbose next) with
            | none => none
            | some (last, rest) => (ofEnds? first last).map fun item => (item, rest)
      | rest => (ofAtom? first).map fun item => (item, rest)

/-- A set whose closing bracket has not been read. -/
structure Unclosed where
  negated : Bool
  /-- Whether nothing but hyphens has been read. -/
  fresh : Bool := true
  /-- What stands before the last operator, and that operator. -/
  left : Option (CharSet × SetOperator) := none
  /-- What has been read since, the last first. -/
  items : List CharSet := []
  deriving Repr

namespace Unclosed

/-- Opens a set after its opening bracket. -/
def start (verbose : Bool) (text : List Char) : Unclosed × List Char :=
  match Pattern.skip verbose text with
  | '^' :: rest => ({ negated := true }, rest)
  | rest => ({ negated := false }, rest)

/-- Adds an item. -/
def push (s : Unclosed) (item : CharSet) : Unclosed :=
  { s with fresh := false, items := item :: s.items }

/-- Adds a hyphen at the start. -/
def pushHyphen (s : Unclosed) : Unclosed :=
  { s with items := .literal { char := '-' } :: s.items }

/-- What has been read so far. -/
def contents (s : Unclosed) : CharSet :=
  match s.left with
  | none => ofItems s.items.reverse
  | some (left, operator) => .combined operator left (ofItems s.items.reverse)

/-- Adds an operator. -/
def operate (s : Unclosed) (operator : SetOperator) : Unclosed :=
  { s with fresh := false, left := some (s.contents, operator), items := [] }

/-- The set when it is closed. -/
def close (s : Unclosed) : CharSet := .bracketed s.negated s.contents

end Unclosed

/-- Reads on in a set within others, with at most so many steps. -/
def readFrom? (verbose : Bool) :
    Nat → Unclosed → List Unclosed → List Char → Option (CharSet × List Char)
  | 0, _, _, _ => none
  | fuel + 1, s, outer, text =>
      match Pattern.skip verbose text with
      | [] => none
      | c :: rest =>
          if s.fresh && c = '-' then readFrom? verbose fuel s.pushHyphen outer rest
          else if s.fresh && s.items.isEmpty && c = ']' then
            readFrom? verbose fuel (s.push (.literal { char := c })) outer rest
          else if c = '[' then
            match readNamed? rest with
            | some (item, rest) => readFrom? verbose fuel (s.push item) outer rest
            | none =>
                let (inner, rest) := Unclosed.start verbose rest
                readFrom? verbose fuel inner (s :: outer) rest
          else if c = ']' then
            match outer with
            | [] => some (s.close, rest)
            | parent :: outer => readFrom? verbose fuel (parent.push s.close) outer rest
          else if c = '&' && rest.head? = some '&' then
            readFrom? verbose fuel (s.operate .intersection) outer rest.tail
          else if c = '-' && rest.head? = some '-' then
            readFrom? verbose fuel (s.operate .difference) outer rest.tail
          else if c = '~' && rest.head? = some '~' then
            readFrom? verbose fuel (s.operate .symmetricDifference) outer rest.tail
          else
            match readRange? verbose (c :: rest) with
            | none => none
            | some (item, rest) => readFrom? verbose fuel (s.push item) outer rest

/-- Reads a set after its opening bracket.  Each step reads a character at least. -/
def read? (verbose : Bool) (text : List Char) : Option (CharSet × List Char) :=
  let (s, rest) := Unclosed.start verbose text
  readFrom? verbose (text.length + 1) s [] rest

end CharSet

end IntcodeMachine
