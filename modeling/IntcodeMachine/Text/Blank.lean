/-!
# Blank characters

A character is blank when Unicode gives it the White_Space property.  The property has
twenty-five members; the zero-width space U+200B, the word joiner U+2060 and the byte order
mark U+FEFF are not among them.  Values in a program and on an input line may be surrounded
by blanks, and `trim` takes those away.

* `isBlank_of_isWhitespace`: every character that is white space in ASCII is blank.
* `trim_of_ends`: text that neither starts nor ends with a blank is left alone.
-/

namespace IntcodeMachine.Text

/-- The code points with the White_Space property, as closed ranges in ascending order. -/
def blankRanges : List (Nat × Nat) :=
  [(0x0009, 0x000D), (0x0020, 0x0020), (0x0085, 0x0085), (0x00A0, 0x00A0), (0x1680, 0x1680),
    (0x2000, 0x200A), (0x2028, 0x2029), (0x202F, 0x202F), (0x205F, 0x205F), (0x3000, 0x3000)]

/-- Whether a character is blank. -/
def isBlank (c : Char) : Bool :=
  blankRanges.any fun r => r.1 ≤ c.toNat && c.toNat ≤ r.2

/-- The text without the blanks at its start. -/
def trimStart (text : List Char) : List Char := text.dropWhile isBlank

/-- The text without the blanks at its end. -/
def trimEnd (text : List Char) : List Char := (text.reverse.dropWhile isBlank).reverse

/-- The text without the blanks at its start and at its end. -/
def trim (text : List Char) : List Char := trimEnd (trimStart text)

/-- There are twenty-five blank code points. -/
example : (blankRanges.map fun r => r.2 - r.1 + 1).sum = 25 := by decide

theorem isBlank_of_isWhitespace {c : Char} (h : c.isWhitespace = true) : isBlank c = true := by
  simp only [Char.isWhitespace, Bool.or_eq_true, decide_eq_true_eq] at h
  rcases h with ((h | h) | h) | h <;> subst h <;> decide

@[simp]
theorem trim_nil : trim [] = [] := rfl

/-- A text that starts with a character that is not blank keeps its start. -/
theorem trimStart_cons_of_not_blank {c : Char} (cs : List Char) (h : isBlank c = false) :
    trimStart (c :: cs) = c :: cs := by
  simp [trimStart, h]

/-- A text that ends with a character that is not blank keeps its end. -/
theorem trimEnd_append_of_not_blank {c : Char} (cs : List Char) (h : isBlank c = false) :
    trimEnd (cs ++ [c]) = cs ++ [c] := by
  simp [trimEnd, h]

/-- Blanks at the start are taken away. -/
theorem trimStart_append_of_blank {bs : List Char} (cs : List Char)
    (h : ∀ b ∈ bs, isBlank b = true) : trimStart (bs ++ cs) = trimStart cs := by
  induction bs with
  | nil => rfl
  | cons b bs ih =>
      have hb : isBlank b = true := h b List.mem_cons_self
      have hbs := ih fun x hx => h x (List.mem_cons_of_mem _ hx)
      simpa [trimStart, hb] using hbs

/-- Blanks at the end are taken away. -/
theorem trimEnd_append_of_blank {bs : List Char} (cs : List Char)
    (h : ∀ b ∈ bs, isBlank b = true) : trimEnd (cs ++ bs) = trimEnd cs := by
  have hbs : ∀ b ∈ bs.reverse, isBlank b = true := fun b hb => h b (List.mem_reverse.mp hb)
  have hr := trimStart_append_of_blank cs.reverse hbs
  simpa [trimEnd, trimStart] using congrArg List.reverse hr

/-- A text that neither starts nor ends with a blank is left alone. -/
theorem trim_of_ends {cs : List Char} (hhead : ∀ c, cs.head? = some c → isBlank c = false)
    (hlast : ∀ c, cs.getLast? = some c → isBlank c = false) : trim cs = cs := by
  have hstart : trimStart cs = cs := by
    cases cs with
    | nil => rfl
    | cons c cs => exact trimStart_cons_of_not_blank cs (hhead c rfl)
  rw [trim, hstart]
  rcases List.eq_nil_or_concat cs with rfl | ⟨init, c, rfl⟩
  · rfl
  · rw [List.concat_eq_append] at hlast ⊢
    exact trimEnd_append_of_not_blank init (hlast c (by simp))

end IntcodeMachine.Text
