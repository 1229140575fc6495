import IntcodeMachine.Pattern.Reader

/-!
# Usable patterns

Not every pattern that can be read can be used.  It must not be nested too deeply, and two
switches bound what it may hold.  With `u` turned on, as it is from the start, a pattern is about
Unicode characters, of which no table is there: it can neither disregard case nor use the
shorthands nor ask for the boundary of a word.  With `u` turned off it is about bytes, and must not
match a part of a character.
-/

namespace IntcodeMachine

namespace Pattern

/-- The positions of the two switches. -/
structure Mode where
  ignoreCase : Bool := false
  unicode : Bool := true
  deriving DecidableEq, Repr

/-- The positions after a change. -/
def Mode.set (m : Mode) (change : Switches) : Mode :=
  { ignoreCase := change.set 'i' m.ignoreCase, unicode := change.set 'u' m.unicode }

end Pattern

namespace CharSet

mutual

/-- Whether a set can be used.  A set of bytes must not hold those above ASCII, so that neither it
nor a part of it may be a complement. -/
def isUsable (m : Pattern.Mode) : CharSet → Bool
  | .nothing => true
  | .literal l => if m.unicode then !m.ignoreCase else l.char.toNat < 128
  | .range first last =>
      if m.unicode then !m.ignoreCase else first.char.toNat < 128 && last.char.toNat < 128
  | .named negated => if m.unicode then !m.ignoreCase else !negated
  | .shorthand negated => !m.unicode && !negated
  | .union items => areUsable m items
  | .combined _ left right => left.isUsable m && right.isUsable m
  | .bracketed negated inner => (m.unicode || !negated) && inner.isUsable m

/-- Whether several sets can be used. -/
def areUsable (m : Pattern.Mode) : List CharSet → Bool
  | [] => true
  | item :: rest => item.isUsable m && areUsable m rest

end

end CharSet

namespace Pattern

mutual

/-- The positions of the switches after a pattern; none if it cannot be used. -/
def after? (m : Mode) : Pattern → Option Mode
  | .empty | .edge => some m
  | .switches change => some (m.set change)
  | .literal l =>
      if m.unicode then if m.ignoreCase then none else some m
      else if l.byNumber && 128 ≤ l.char.toNat then none
      else some m
  | .dot => if m.unicode then some m else none
  | .boundary => if m.unicode then none else some m
  | .shorthand negated => if m.unicode || negated then none else some m
  | .set s => if s.isUsable m then some m else none
  | .group change body => (after? (m.set change) body).map fun _ => m
  | .repeated body => after? m body
  | .sequence parts => afterAll? m parts
  | .choice branches => afterAll? m branches

/-- The positions of the switches after several patterns; none if one cannot be used. -/
def afterAll? (m : Mode) : List Pattern → Option Mode
  | [] => some m
  | part :: rest => (after? m part).bind fun m => afterAll? m rest

end

/-- How deeply a pattern may be nested. -/
def depthLimit : Nat := 250

/-- Whether a pattern can be used. -/
def isUsable (p : Pattern) : Bool := p.depth ≤ depthLimit && (p.after? {}).isSome

end Pattern

end IntcodeMachine
