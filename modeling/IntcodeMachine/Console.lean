import IntcodeMachine.Device
import IntcodeMachine.Text.Blank

/-!
# Consoles

A console asks for each input value with a prompt and reads it from a line of its source; it
prints each output value on a line of its own.  Prompts and values go to the same sink.  The
source may break at its end instead of ending, and the sink may have room for a limited
number of characters only.

* `Source.readLine_of_line`: a line that ends with a newline is taken whole, and nothing else.
* `Sink.toList_write`: what fits is kept, and what does not fit is lost.
-/

namespace IntcodeMachine

/-- The byte that ends a line. -/
def newline : UInt8 := 10

/-- The bytes that a console has still to read. -/
structure Source where
  unread : List UInt8 := []
  /-- Whether reading on at the end is a failure rather than the end of input. -/
  broken : Bool := false
  deriving DecidableEq, Repr

/-- Takes the bytes of the next line, its newline included.  A last line may lack the
newline; no bytes at all are the end of input.  At the end of a broken source there is only
failure, and what was read of an unfinished line is lost to it. -/
def Source.readLine (s : Source) : Except StreamError (List UInt8) × Source :=
  let line := s.unread.takeWhile (· != newline)
  match s.unread.dropWhile (· != newline) with
  | ending :: rest => (.ok (line ++ [ending]), { s with unread := rest })
  | [] => (if s.broken then .error .readFailure else .ok line, { s with unread := [] })

/-- A line that ends with a newline is taken whole, and nothing else. -/
theorem Source.readLine_of_line {line rest : List UInt8} {broken : Bool}
    (h : newline ∉ line) :
    Source.readLine { unread := line ++ newline :: rest, broken } =
      (.ok (line ++ [newline]), { unread := rest, broken }) := by
  have hall : ∀ b ∈ line, (b != newline) = true := by
    intro b hb
    rw [bne_iff_ne]
    rintro rfl
    exact h hb
  simp only [readLine, List.takeWhile_append_of_pos hall, List.dropWhile_append_of_pos hall]
  simp

/-- At the end of a source that is not broken there are no bytes. -/
theorem Source.readLine_at_end :
    Source.readLine { unread := [], broken := false } =
      (.ok [], { unread := [], broken := false }) := rfl

/-- Where a console writes to.  All that it writes is ASCII, one byte a character. -/
structure Sink where
  written : Array Char := #[]
  /-- How many characters there is room for in all; none if there is no limit. -/
  capacity : Option Nat := none
  /-- Whether flushing fails. -/
  brokenFlush : Bool := false
  deriving DecidableEq, Repr

namespace Sink

/-- All that was written, as a string. -/
def transcript (s : Sink) : String := String.ofList s.written.toList

/-- How many of the next characters there is room for. -/
def room (s : Sink) (wanted : Nat) : Nat :=
  match s.capacity with
  | none => wanted
  | some capacity => min wanted (capacity - s.written.size)

/-- Writes a text, or as much of it as there is room for. -/
def write (s : Sink) (text : List Char) : Except StreamError Unit × Sink :=
  let fitting := s.room text.length
  let { written, capacity, brokenFlush } := s
  (if fitting < text.length then .error .full else .ok (),
    { written := written ++ text.take fitting, capacity, brokenFlush })

theorem room_le (s : Sink) (wanted : Nat) : s.room wanted ≤ wanted := by
  unfold room
  split
  · exact Nat.le_refl wanted
  · exact Nat.min_le_left _ _

/-- What fits is kept, and what does not fit is lost. -/
theorem toList_write (s : Sink) (text : List Char) :
    (s.write text).2.written.toList = s.written.toList ++ text.take (s.room text.length) := by
  simp [write]

/-- A write succeeds exactly when there is room for the whole text. -/
theorem write_eq_ok_iff {s : Sink} {text : List Char} :
    (s.write text).1 = .ok () ↔ s.room text.length = text.length := by
  have hle := s.room_le text.length
  simp only [write]
  split
  · simp only [reduceCtorEq, false_iff]
    omega
  · simp only [true_iff]
    omega

/-- Makes sure that all written text has arrived. -/
def flush (s : Sink) : Except StreamError Unit :=
  if s.brokenFlush then .error .flushFailure else .ok ()

end Sink

/-- A source and a sink that take turns. -/
structure Console where
  source : Source := {}
  sink : Sink := {}
  deriving DecidableEq, Repr

namespace Console

/-- What the console shows when it waits for a value. -/
def prompt : List Char := ['<', '<', ' ']

/-- The line that the console prints for an output value. -/
def shown (value : Word) : List Char := ['>', '>', ' '] ++ Numeral.write value ++ ['\n']

/-- Shows the prompt and makes sure that it can be seen. -/
def ask (sink : Sink) : Except StreamError Unit × Sink :=
  match sink.write prompt with
  | (.ok (), sink) => (sink.flush, sink)
  | (.error e, sink) => (.error e, sink)

/-- The value on a line of input; blanks around its numeral are free. -/
def readValue (line : List UInt8) : Except DeviceError Word :=
  if line.isEmpty then .error .closed
  else
    match String.fromUTF8? (ByteArray.mk line.toArray) with
    | none => .error (.stream .invalidText)
    | some text =>
        let trimmed := Text.trim text.toList
        match Numeral.read trimmed with
        | .ok value => .ok value
        | .error cause => .error (.unreadable (String.ofList trimmed) cause)

/-- Prompts for a value and reads it from the next line.  The line is taken even if there is
no value on it, but not if the prompt fails. -/
def deliver (c : Console) : Except DeviceError Word × Console :=
  let { source, sink } := c
  match ask sink with
  | (.error e, sink) => (.error (.stream e), { source, sink })
  | (.ok (), sink) =>
      match source.readLine with
      | (.error e, source) => (.error (.stream e), { source, sink })
      | (.ok line, source) => (readValue line, { source, sink })

/-- Prints a value. -/
def receive (c : Console) (value : Word) : Except DeviceError Unit × Console :=
  let { source, sink } := c
  match sink.write (shown value) with
  | (.ok (), sink) => (.ok (), { source, sink })
  | (.error e, sink) => (.error (.stream e), { source, sink })

instance : Device Console where
  deliver := deliver
  receive := receive

end Console

end IntcodeMachine
