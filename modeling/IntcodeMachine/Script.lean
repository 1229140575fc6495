import IntcodeMachine.Device

/-!
# Scripted devices

A script answers input from a list of values prepared in advance, to which more may be added
while the machine runs, and keeps all output.  Kept output can be taken away in triples.

* `Feed.deliver_push`: a value added at the end is felt only by a feed that has run dry.
* `Buffer.values_takeTriple`: a triple and what is left after it make up what was there.
-/

namespace IntcodeMachine

/-- The values that still wait to be delivered, first one first. -/
structure Feed where
  pending : List Word := []
  deriving DecidableEq, Repr

namespace Feed

/-- The number of values that wait. -/
def remaining (f : Feed) : Nat := f.pending.length

/-- The feed with one more value at its end. -/
def push (f : Feed) (value : Word) : Feed := { pending := f.pending ++ [value] }

/-- Delivers the value at the front. -/
def deliver (f : Feed) : Except DeviceError Word × Feed :=
  match f.pending with
  | [] => (.error .exhausted, f)
  | value :: rest => (.ok value, { pending := rest })

@[simp]
theorem remaining_push (f : Feed) (value : Word) : (f.push value).remaining = f.remaining + 1 := by
  simp [remaining, push]

/-- A value added at the end is felt only by a feed that has run dry. -/
theorem deliver_push {f g : Feed} {value : Word} (added : Word)
    (h : f.deliver = (.ok value, g)) : (f.push added).deliver = (.ok value, g.push added) := by
  rcases f with ⟨pending⟩
  cases pending with
  | nil => cases h
  | cons first rest =>
      cases h
      rfl

end Feed

/-- The values received so far, first one first. -/
structure Buffer where
  values : Array Word := #[]
  deriving DecidableEq, Repr

namespace Buffer

/-- Keeps a value after all others. -/
def receive (b : Buffer) (value : Word) : Buffer := { values := b.values.push value }

/-- Takes the oldest three values away; with fewer than three nothing happens. -/
def takeTriple (b : Buffer) : Option (Word × Word × Word) × Buffer :=
  match b.values.toList with
  | x :: y :: z :: rest => (some (x, y, z), { values := rest.toArray })
  | _ => (none, b)

/-- The values of a triple, or of none, in order. -/
def tripleValues : Option (Word × Word × Word) → List Word
  | some (x, y, z) => [x, y, z]
  | none => []

@[simp]
theorem toList_receive (b : Buffer) (value : Word) :
    (b.receive value).values.toList = b.values.toList ++ [value] := by
  simp [receive]

/-- A triple and what is left after it make up what was there. -/
theorem values_takeTriple (b : Buffer) :
    tripleValues b.takeTriple.1 ++ b.takeTriple.2.values.toList = b.values.toList := by
  unfold takeTriple
  split
  · next h => simp [tripleValues, h]
  · rfl

end Buffer

/-- A device with prepared input and kept output. -/
structure Script where
  feed : Feed := {}
  buffer : Buffer := {}
  deriving DecidableEq, Repr

namespace Script

/-- The script with the given input and no output yet. -/
def ofInput (values : List Word) : Script := { feed := { pending := values } }

/-- The script with one more input value. -/
def push (s : Script) (value : Word) : Script := { s with feed := s.feed.push value }

/-- Takes the oldest three output values away. -/
def takeTriple (s : Script) : Option (Word × Word × Word) × Script :=
  let (triple, buffer) := s.buffer.takeTriple
  (triple, { s with buffer })

instance : Device Script where
  deliver s :=
    let (outcome, feed) := s.feed.deliver
    (outcome, { s with feed })
  receive s value :=
    let { feed, buffer } := s
    (.ok (), { feed, buffer := buffer.receive value })

end Script

end IntcodeMachine
