import IntcodeMachine.Pattern.Bracket
import IntcodeMachine.Text.Alphanumeric

/-!
# Reading patterns

A pattern is read from left to right, with the groups that are open kept in a list.  The switch
`x` makes a pattern verbose from where it is turned on to the end of the group: blanks and
comments may then stand between its parts.  A count in braces cannot be read, for the closing
brace ends the text of a pattern before it.
-/

namespace IntcodeMachine.Pattern

/-- What an opening bracket begins. -/
inductive Opening where
  /-- Switches for what follows. -/
  | switches (change : Switches)
  /-- A group, which may have a name. -/
  | group (change : Switches) (name : Option (List Char))
  deriving DecidableEq, Repr

/-- Whether a group may have a name. -/
def isName : List Char → Bool
  | [] => false
  | c :: cs =>
      (c = '_' || Text.isAlphabetic c) &&
        cs.all fun c => c = '_' || c = '.' || c = '[' || c = ']' || Text.isAlphanumeric c

/-- Whether letters turn switches on and off.  Each is a switch and stands there once, and the
hyphen that separates those to turn off has some after it. -/
def areSwitches (letters : List Char) : Bool :=
  letters.all (fun c => ['i', 'm', 's', 'U', 'u', 'R', 'x', '-'].contains c) &&
    letters.eraseDups.length = letters.length && letters.getLast? ≠ some '-'

/-- Reads the name of a group. -/
def readName? (text : List Char) : Option (Opening × List Char) :=
  let name := text.takeWhile fun c => c ≠ '>'
  match text.dropWhile fun c => c ≠ '>' with
  | [] => none
  | _ :: rest => if isName name then some (.group {} (some name), rest) else none

/-- Reads switches and the colon or the bracket that ends them. -/
def readSwitches? (text : List Char) : Option (Opening × List Char) :=
  let letters := text.takeWhile fun c => c ≠ ':' && c ≠ ')'
  let change : Switches :=
    { on := letters.takeWhile fun c => c ≠ '-', off := letters.dropWhile fun c => c ≠ '-' }
  match text.dropWhile fun c => c ≠ ':' && c ≠ ')' with
  | ':' :: rest => if areSwitches letters then some (.group change none, rest) else none
  | ')' :: rest =>
      if areSwitches letters && !letters.isEmpty then some (.switches change, rest) else none
  | _ => none

/-- Reads what follows an opening bracket. -/
def readOpening? (text : List Char) : Option (Opening × List Char) :=
  match text with
  | '?' :: 'P' :: '<' :: rest => readName? rest
  | '?' :: '<' :: rest => readName? rest
  | '?' :: rest => readSwitches? rest
  | rest => some (.group {} none, rest)

/-- A group whose closing bracket has not been read. -/
structure Unclosed where
  /-- Its own switches. -/
  change : Switches := {}
  /-- Whether the pattern is verbose outside the group. -/
  verboseOutside : Bool := false
  /-- The branches that have been read, the last first. -/
  branches : List Pattern := []
  /-- The parts of the branch that is being read, the last first. -/
  parts : List Pattern := []
  deriving Repr

namespace Unclosed

/-- Adds a part. -/
def push (g : Unclosed) (part : Pattern) : Unclosed := { g with parts := part :: g.parts }

/-- Begins a new branch. -/
def branch (g : Unclosed) : Unclosed :=
  { g with branches := ofParts g.parts.reverse :: g.branches, parts := [] }

/-- Repeats the last part, if there is one that can be repeated. -/
def repeatLast? (g : Unclosed) : Option Unclosed :=
  match g.parts with
  | [] | .switches _ :: _ => none
  | part :: parts => some { g with parts := .repeated part :: parts }

/-- What the group holds. -/
def contents (g : Unclosed) : Pattern :=
  ofBranches (g.branch.branches.reverse)

end Unclosed

/-- A pattern of which a part has been read. -/
structure Reading where
  verbose : Bool := false
  /-- The names of the groups so far. -/
  names : List (List Char) := []
  /-- The innermost group that is open, or the pattern itself. -/
  inner : Unclosed := {}
  /-- The groups around it, from the inside out. -/
  outer : List Unclosed := []
  deriving Repr

namespace Reading

/-- Adds a part. -/
def push (r : Reading) (part : Pattern) : Reading := { r with inner := r.inner.push part }

/-- Turns switches, or opens a group unless its name is taken. -/
def open? (r : Reading) : Opening → Option Reading
  | .switches change =>
      some { r.push (.switches change) with verbose := change.set 'x' r.verbose }
  | .group change name =>
      if name.any r.names.contains then none
      else
        some
          { verbose := change.set 'x' r.verbose
            names := name.toList ++ r.names
            inner := { change, verboseOutside := r.verbose }
            outer := r.inner :: r.outer }

/-- Closes a group. -/
def close? (r : Reading) : Option Reading :=
  match r.outer with
  | [] => none
  | parent :: outer =>
      some
        { r with
          verbose := r.inner.verboseOutside
          inner := parent.push (.group r.inner.change r.inner.contents)
          outer }

end Reading

/-- The pattern that an escape outside a set stands for. -/
def ofAtom : Atom → Pattern
  | .literal l => .literal l
  | .shorthand negated => .shorthand negated
  | .edge => .edge
  | .boundary => .boundary

/-- Reads one part of a pattern, which starts with a given character. -/
def readPart? (r : Reading) (c : Char) (rest : List Char) : Option (Reading × List Char) :=
  if c = '(' then
    (readOpening? (skip r.verbose rest)).bind fun (opening, rest) =>
      (r.open? opening).map fun r => (r, rest)
  else if c = ')' then r.close?.map fun r => (r, rest)
  else if c = '|' then some ({ r with inner := r.inner.branch }, rest)
  else if c = '[' then
    (CharSet.read? r.verbose rest).map fun (s, rest) => (r.push (.set s), rest)
  else if c = '?' ∨ c = '*' ∨ c = '+' then
    r.inner.repeatLast?.map fun inner =>
      ({ r with inner }, if rest.head? = some '?' then rest.tail else rest)
  else if c = '\x7b' then none
  else if c = '\\' then
    (readEscape? r.verbose rest).map fun (atom, rest) => (r.push (ofAtom atom), rest)
  else if c = '.' then some (r.push .dot, rest)
  else if c = '^' ∨ c = '$' then some (r.push .edge, rest)
  else some (r.push (.literal { char := c }), rest)

/-- Reads on in a pattern, with at most so many steps. -/
def readFrom? : Nat → Reading → List Char → Option Pattern
  | 0, _, _ => none
  | fuel + 1, r, text =>
      match skip r.verbose text with
      | [] => if r.outer.isEmpty then some r.inner.contents else none
      | c :: rest =>
          match readPart? r c rest with
          | none => none
          | some (r, rest) => readFrom? fuel r rest

/-- Reads a pattern.  Each step reads a character at least. -/
def read? (text : List Char) : Option Pattern := readFrom? (text.length + 1) {} text

end IntcodeMachine.Pattern
