import IntcodeMachine.Proofs.Numerals

/-!
# Numerals between blanks

A value stands in a program text, and on a line of input, as a numeral with blanks around it.
Trimming takes the blanks away and nothing else, because a numeral neither starts nor ends with
a blank.

* `Text.exists_trim`: a text is what trimming leaves of it, between blanks.
* `Text.Tight.trim_between`: a text without blanks at its ends is what trimming leaves of it.
* `entry_iff`: a text is an entry exactly when a numeral is left by trimming.
-/

namespace IntcodeMachine

namespace Text

/-- Nothing but blanks, or nothing at all. -/
def Blank (text : List Char) : Prop := ∀ c ∈ text, isBlank c = true

theorem Blank.nil : Blank [] := fun _ hc => absurd hc List.not_mem_nil

theorem Blank.append {first second : List Char} (hfirst : Blank first) (hsecond : Blank second) :
    Blank (first ++ second) :=
  List.forall_mem_append.mpr ⟨hfirst, hsecond⟩

theorem Blank.trimStart_eq_nil {text : List Char} (h : Blank text) : trimStart text = [] := by
  have hall := trimStart_append_of_blank [] h
  rwa [List.append_nil] at hall

theorem Blank.trim_eq_nil {text : List Char} (h : Blank text) : trim text = [] := by
  rw [trim, h.trimStart_eq_nil]
  rfl

theorem Blank.not_comma {text : List Char} (h : Blank text) : ',' ∉ text := by
  intro hcomma
  have hblank := h ',' hcomma
  revert hblank
  decide

theorem blank_takeWhile (text : List Char) : Blank (text.takeWhile isBlank) :=
  List.all_eq_true.mp List.all_takeWhile

/-- A text that neither starts nor ends with a blank, and is not empty. -/
structure Tight (text : List Char) : Prop where
  head : ∃ c cs, text = c :: cs ∧ isBlank c = false
  last : ∃ cs c, text = cs ++ [c] ∧ isBlank c = false

/-- A text without blanks at its ends is what trimming leaves of it. -/
theorem Tight.trim_between {before text after : List Char} (h : Tight text)
    (hbefore : Blank before) (hafter : Blank after) : trim (before ++ text ++ after) = text := by
  have hstart : trimStart (before ++ text ++ after) = text ++ after := by
    obtain ⟨c, cs, rfl, hc⟩ := h.head
    rw [List.append_assoc, trimStart_append_of_blank _ hbefore]
    exact trimStart_cons_of_not_blank (cs ++ after) hc
  obtain ⟨cs, c, rfl, hc⟩ := h.last
  rw [trim, hstart, trimEnd_append_of_blank _ hafter]
  exact trimEnd_append_of_not_blank cs hc

/-- **A text is what trimming leaves of it, between blanks.** -/
theorem exists_trim (text : List Char) :
    ∃ before after, Blank before ∧ Blank after ∧ text = before ++ trim text ++ after := by
  have hend : trimStart text =
      trim text ++ ((trimStart text).reverse.takeWhile isBlank).reverse := by
    rw [trim, trimEnd, ← List.reverse_append, List.takeWhile_append_dropWhile,
      List.reverse_reverse]
  refine ⟨text.takeWhile isBlank, ((trimStart text).reverse.takeWhile isBlank).reverse,
    blank_takeWhile text, ?_, ?_⟩
  · intro c hc
    exact blank_takeWhile _ c (List.mem_reverse.mp hc)
  · rw [List.append_assoc, ← hend]
    exact List.takeWhile_append_dropWhile.symm

end Text

/-- The texts of one word: a numeral between blanks. -/
inductive Entry : List Char → Word → Prop where
  | between {before numeral after : List Char} {w : Word} (hbefore : Text.Blank before)
      (hnumeral : Numeral.Denotes numeral w) (hafter : Text.Blank after) :
      Entry (before ++ numeral ++ after) w

theorem Numeral.Denotes.tight {numeral : List Char} {w : Word} (h : Denotes numeral w) :
    Text.Tight numeral where
  head := by
    obtain ⟨c, cs, rfl⟩ := List.exists_cons_of_ne_nil h.ne_nil
    exact ⟨c, cs, rfl, (h.isMark c List.mem_cons_self).not_blank⟩
  last := by
    obtain ⟨cs, c, rfl⟩ := List.eq_nil_or_concat numeral |>.resolve_left h.ne_nil
    rw [List.concat_eq_append] at h ⊢
    exact ⟨cs, c, rfl, (h.isMark c (by simp)).not_blank⟩

namespace Entry

variable {text : List Char} {w : Word}

theorem ne_nil (h : Entry text w) : text ≠ [] := by
  obtain ⟨_, hnumeral, _⟩ := h
  simp [hnumeral.ne_nil]

theorem denotes_trim (h : Entry text w) : Numeral.Denotes (Text.trim text) w := by
  obtain ⟨hbefore, hnumeral, hafter⟩ := h
  rw [hnumeral.tight.trim_between hbefore hafter]
  exact hnumeral

/-- Blanks in front of an entry belong to it. -/
theorem blank_append {before : List Char} (hblank : Text.Blank before) (h : Entry text w) :
    Entry (before ++ text) w := by
  obtain ⟨hbefore, hnumeral, hafter⟩ := h
  have hlonger := Entry.between (hblank.append hbefore) hnumeral hafter
  simpa only [List.append_assoc] using hlonger

/-- Blanks behind an entry belong to it. -/
theorem append_blank {after : List Char} (h : Entry text w) (hblank : Text.Blank after) :
    Entry (text ++ after) w := by
  obtain ⟨hbefore, hnumeral, hafter⟩ := h
  have hlonger := Entry.between hbefore hnumeral (hafter.append hblank)
  simpa only [List.append_assoc] using hlonger

theorem not_comma (h : Entry text w) : ',' ∉ text := by
  obtain ⟨hbefore, hnumeral, hafter⟩ := h
  intro hcomma
  rcases List.mem_append.mp hcomma with hcomma | hcomma
  · rcases List.mem_append.mp hcomma with hcomma | hcomma
    · exact hbefore.not_comma hcomma
    · exact (hnumeral.isMark ',' hcomma).ne_comma rfl
  · exact hafter.not_comma hcomma

/-- The shortest numeral of a word between blanks. -/
theorem write {before after : List Char} (hbefore : Text.Blank before) (w : Word)
    (hafter : Text.Blank after) : Entry (before ++ Numeral.write w ++ after) w :=
  .between hbefore (Numeral.denotes_write w) hafter

end Entry

/-- **A text is an entry exactly when a numeral is left by trimming.** -/
theorem entry_iff {text : List Char} {w : Word} :
    Entry text w ↔ Numeral.read (Text.trim text) = .ok w := by
  rw [Numeral.read_eq_ok_iff]
  constructor
  · exact Entry.denotes_trim
  · intro h
    obtain ⟨before, after, hbefore, hafter, htext⟩ := Text.exists_trim text
    rw [htext]
    exact .between hbefore h hafter

end IntcodeMachine
