import IntcodeMachine.Text.Concealed

/-!
# Quoted text

A piece of the input is shown inside a message between double quotes.  A quote and a
backslash are marked with a backslash; NUL, tab, newline and carriage return have a letter
each; every other concealed character is written as its code point in braces.  All other
characters stand for themselves, the apostrophe among them.

* `quote_of_plain`: text without marked or concealed characters only gains the two quotes.
-/

namespace IntcodeMachine.Text

/-- How one character is written between quotes. -/
def quoteChar (c : Char) : List Char :=
  match c with
  | '\x00' => ['\\', '0']
  | '\t' => ['\\', 't']
  | '\n' => ['\\', 'n']
  | '\r' => ['\\', 'r']
  | '"' => ['\\', '"']
  | '\\' => ['\\', '\\']
  | c => if isConcealed c then ['\\', 'u', '\x7b'] ++ Nat.toDigits 16 c.toNat ++ ['\x7d'] else [c]

/-- The text between double quotes. -/
def quote (text : List Char) : List Char :=
  '"' :: text.flatMap quoteChar ++ ['"']

/-- The text between double quotes, as a string. -/
def quoted (text : String) : String := String.ofList (quote text.toList)

theorem quoteChar_of_plain {c : Char} (hquote : c ≠ '"') (hslash : c ≠ '\\')
    (h : isConcealed c = false) : quoteChar c = [c] := by
  have hnot : ∀ d : Char, isConcealed d = true → c ≠ d := by
    intro d hd hcd
    rw [hcd, hd] at h
    cases h
  have h0 := hnot '\x00' (isConcealed_of_control (by decide))
  have ht := hnot '\t' (isConcealed_of_control (by decide))
  have hn := hnot '\n' (isConcealed_of_control (by decide))
  have hr := hnot '\r' (isConcealed_of_control (by decide))
  simp [quoteChar, h]

/-- Text without marked or concealed characters only gains the two quotes. -/
theorem quote_of_plain {text : List Char}
    (h : ∀ c ∈ text, c ≠ '"' ∧ c ≠ '\\' ∧ isConcealed c = false) :
    quote text = '"' :: text ++ ['"'] := by
  have hmap : text.flatMap quoteChar = text := by
    induction text with
    | nil => rfl
    | cons c cs ih =>
        obtain ⟨hquote, hslash, hc⟩ := h c List.mem_cons_self
        rw [List.flatMap_cons, quoteChar_of_plain hquote hslash hc,
          ih fun d hd => h d (List.mem_cons_of_mem _ hd)]
        rfl
  rw [quote, hmap]

end IntcodeMachine.Text
