/-!
# Patterns

A pattern is a regular expression as it is written.  Its parts are kept as far as they matter for
the question whether it can be used: how deeply they are nested, and what each of them demands.
-/

namespace IntcodeMachine

/-- Switches that are turned on and off, each by its letter. -/
structure Switches where
  on : List Char := []
  off : List Char := []
  deriving DecidableEq, Repr

/-- The new position of a switch, if it had an old one. -/
def Switches.set (s : Switches) (letter : Char) (old : Bool) : Bool :=
  if s.on.contains letter then true
  else if s.off.contains letter then false
  else old

/-- A character that stands for itself. -/
structure Literal where
  char : Char
  /-- Whether it is written as a number of two hexadecimal digits. -/
  byNumber : Bool := false
  deriving DecidableEq, Repr

/-- How two sets of characters are combined. -/
inductive SetOperator where
  | intersection
  | difference
  | symmetricDifference
  deriving DecidableEq, Repr

/-- A set of characters as it is written between brackets. -/
inductive CharSet where
  /-- The empty set, which nothing is written for. -/
  | nothing
  | literal (l : Literal)
  | range (first last : Literal)
  /-- A class of ASCII characters with a name, such as `[:alpha:]`, or its complement. -/
  | named (negated : Bool)
  /-- The digits, the blanks or the letters of words, or the complement of one of these. -/
  | shorthand (negated : Bool)
  | union (items : List CharSet)
  | combined (operator : SetOperator) (left right : CharSet)
  /-- A set in brackets, or its complement. -/
  | bracketed (negated : Bool) (inner : CharSet)
  deriving Repr

/-- A pattern. -/
inductive Pattern where
  /-- The empty text. -/
  | empty
  /-- Switches for what follows in the same group. -/
  | switches (change : Switches)
  | literal (l : Literal)
  /-- Any character. -/
  | dot
  /-- The start or the end of a line or of the text. -/
  | edge
  /-- A place where a word starts or ends, or one where none does. -/
  | boundary
  | shorthand (negated : Bool)
  | set (s : CharSet)
  /-- A group with its own switches. -/
  | group (change : Switches) (body : Pattern)
  | repeated (body : Pattern)
  | sequence (parts : List Pattern)
  | choice (branches : List Pattern)
  deriving Repr

namespace CharSet

mutual

/-- How deeply a set is nested. -/
def depth : CharSet → Nat
  | .union items => 1 + depths items
  | .combined _ left right => 1 + max left.depth right.depth
  | .bracketed _ inner => 1 + inner.depth
  | _ => 0

/-- How deeply the deepest of several sets is nested. -/
def depths : List CharSet → Nat
  | [] => 0
  | item :: rest => max item.depth (depths rest)

end

/-- The union of several sets, written one after the other. -/
def ofItems : List CharSet → CharSet
  | [] => .nothing
  | [item] => item
  | items => .union items

end CharSet

namespace Pattern

mutual

/-- How deeply a pattern is nested. -/
def depth : Pattern → Nat
  | .set s => s.depth
  | .group _ body => 1 + body.depth
  | .repeated body => 1 + body.depth
  | .sequence parts => 1 + depths parts
  | .choice branches => 1 + depths branches
  | _ => 0

/-- How deeply the deepest of several patterns is nested. -/
def depths : List Pattern → Nat
  | [] => 0
  | part :: rest => max part.depth (depths rest)

end

/-- Several patterns, one after the other. -/
def ofParts : List Pattern → Pattern
  | [] => .empty
  | [part] => part
  | parts => .sequence parts

/-- A choice among several patterns. -/
def ofBranches : List Pattern → Pattern
  | [branch] => branch
  | branches => .choice branches

end Pattern

end IntcodeMachine
