import IntcodeMachine.Proofs.Lines
import IntcodeMachine.Proofs.Listings

/-!
# Texts that are rejected

A numeral is read digit by digit, and the first thing that makes it impossible to go on is the
error.  Which one it is can be told from the text as a whole: from its sign, from the longest run of
digits after the sign, and from whether anything follows them.  For once the digits have left the
range of words further ones do not bring them back; so it does not matter which digit it was, nor
what stands behind them.

A program text is rejected for the first of its pieces that is no numeral, and a line of input for
the text on it, both with this error.

* `Numeral.read_eq_error_iff`: the error is told by the text as a whole.
* `Program.readTokens_eq_error_iff`: the first piece that is no numeral is reported.
* `rejected_for_first_flaw`: what is reported of a program text, and of a line of input.
-/

namespace IntcodeMachine

namespace Numeral

/-- The sign at the start of a text and what follows it.  Without a sign it is plus. -/
def unsign : List Char → Sign × List Char
  | '+' :: cs => (.plus, cs)
  | '-' :: cs => (.minus, cs)
  | cs => (.plus, cs)

/-- After a sign there must be a digit. -/
theorem readUnsigned_of_no_digit (sign : Sign) {text : List Char} (h : leadingDigits text = []) :
    readUnsigned sign text = .error .invalidDigit := by
  cases text with
  | nil => rfl
  | cons c cs =>
      have hdigit : ¬ c.isDigit = true := by
        intro hdigit
        rw [leadingDigits_cons_of_isDigit cs hdigit] at h
        cases h
      rw [readUnsigned, readDigits, if_neg hdigit]

theorem readUnsigned_of_digit (sign : Sign) {text : List Char} (h : leadingDigits text ≠ []) :
    readUnsigned sign text =
      match Word.ofInt? (sign.apply (Nat.ofDigitChars 10 (leadingDigits text) 0)) with
      | none => .error sign.overflow
      | some w => if leadingDigits text = text then .ok w else .error .invalidDigit := by
  have hzero : Int64.toInt 0 = sign.apply (0 : Nat) := by cases sign <;> decide
  cases text with
  | nil => exact absurd rfl h
  | cons c cs => exact readDigits_eq hzero (c :: cs)

theorem read_of_ne_nil {text : List Char} (h : text ≠ []) :
    read text = readUnsigned (unsign text).1 (unsign text).2 := by
  obtain ⟨c, cs, rfl⟩ := List.exists_cons_of_ne_nil h
  by_cases hplus : c = '+'
  · subst hplus
    rfl
  · by_cases hminus : c = '-'
    · subst hminus
      rfl
    · simp [read, unsign, hplus, hminus]

/-- What is wrong after the sign of a text that is no numeral, told by the longest run of digits:
there is none, or its value with the sign is no word, whatever follows, or something does follow. -/
inductive FlawAfter (sign : Sign) (text : List Char) : NumeralError → Prop where
  | noDigit (hrun : leadingDigits text = []) : FlawAfter sign text .invalidDigit
  | outOfRange (hrun : leadingDigits text ≠ [])
      (hvalue : ¬ Word.InRange (sign.apply (Nat.ofDigitChars 10 (leadingDigits text) 0))) :
      FlawAfter sign text sign.overflow
  | followed (hrun : leadingDigits text ≠ [])
      (hvalue : Word.InRange (sign.apply (Nat.ofDigitChars 10 (leadingDigits text) 0)))
      (hmore : leadingDigits text ≠ text) : FlawAfter sign text .invalidDigit

/-- What is wrong with a text that is no numeral. -/
inductive Flaw : List Char → NumeralError → Prop where
  | empty : Flaw [] .empty
  | afterSign {text : List Char} {e : NumeralError} (hne : text ≠ [])
      (h : FlawAfter (unsign text).1 (unsign text).2 e) : Flaw text e

/-- What is wrong is reported. -/
theorem FlawAfter.readUnsigned_eq {sign : Sign} {text : List Char} {e : NumeralError}
    (h : FlawAfter sign text e) : readUnsigned sign text = .error e := by
  cases h with
  | noDigit hrun => exact readUnsigned_of_no_digit sign hrun
  | outOfRange hrun hvalue =>
      rw [readUnsigned_of_digit sign hrun, Word.ofInt?_eq_none_iff.mpr hvalue]
  | followed hrun hvalue hmore =>
      rw [readUnsigned_of_digit sign hrun, Word.ofInt?, if_pos hvalue]
      exact if_neg hmore

theorem readUnsigned_eq_error_iff {sign : Sign} {text : List Char} {e : NumeralError} :
    readUnsigned sign text = .error e ↔ FlawAfter sign text e := by
  refine ⟨?_, FlawAfter.readUnsigned_eq⟩
  intro h
  -- only one error is reported, so it is the one of the flaw that is there
  have hsame : ∀ {other}, FlawAfter sign text other → FlawAfter sign text e := by
    intro other hflaw
    rw [hflaw.readUnsigned_eq] at h
    cases h
    exact hflaw
  by_cases hrun : leadingDigits text = []
  · exact hsame (.noDigit hrun)
  · by_cases hvalue : Word.InRange (sign.apply (Nat.ofDigitChars 10 (leadingDigits text) 0))
    · by_cases hall : leadingDigits text = text
      · rw [readUnsigned_of_digit sign hrun, Word.ofInt?, if_pos hvalue] at h
        simp only [if_pos hall, reduceCtorEq] at h
      · exact hsame (.followed hrun hvalue hall)
    · exact hsame (.outOfRange hrun hvalue)

/-- **The error is told by the text as a whole.** -/
theorem read_eq_error_iff {text : List Char} {e : NumeralError} :
    read text = .error e ↔ Flaw text e := by
  by_cases hne : text = []
  · subst hne
    constructor
    · intro h
      cases h
      exact .empty
    · intro h
      cases h with
      | empty => rfl
      | afterSign hne _ => exact absurd rfl hne
  · rw [read_of_ne_nil hne, readUnsigned_eq_error_iff]
    constructor
    · exact .afterSign hne
    · intro h
      cases h with
      | empty => exact absurd rfl hne
      | afterSign _ h => exact h

/-- A text with something wrong denotes no word. -/
theorem Flaw.not_denotes {text : List Char} {e : NumeralError} (h : Flaw text e) (w : Word) :
    ¬ Denotes text w := by
  intro hdenotes
  have hok := read_eq_ok_iff.mpr hdenotes
  rw [read_eq_error_iff.mpr h] at hok
  cases hok

end Numeral

namespace Program

/-- The first of several pieces that is no numeral, its index, and what is wrong with it. -/
structure FirstFlaw (parts : List (List Char)) (e : ProgramError) : Prop where
  earlier : ∀ part ∈ parts.take e.index, ∃ w, Numeral.Denotes part w
  piece : parts[e.index]? = some e.token.toList
  not_denotes : ∀ w, ¬ Numeral.Denotes e.token.toList w
  flaw : Numeral.Flaw e.token.toList e.cause

variable {part : List Char} {parts : List (List Char)} {token : String} {cause : NumeralError}

theorem firstFlaw_zero_iff :
    FirstFlaw (part :: parts) ⟨0, token, cause⟩ ↔
      part = token.toList ∧ Numeral.read part = .error cause := by
  constructor
  · intro h
    have hpiece := Option.some.inj h.piece
    exact ⟨hpiece, Numeral.read_eq_error_iff.mpr (hpiece ▸ h.flaw)⟩
  · intro h
    obtain ⟨rfl, hread⟩ := h
    have hflaw := Numeral.read_eq_error_iff.mp hread
    exact ⟨fun _ hpart => absurd hpart List.not_mem_nil, rfl, hflaw.not_denotes, hflaw⟩

theorem firstFlaw_succ_iff {index : Nat} :
    FirstFlaw (part :: parts) ⟨index + 1, token, cause⟩ ↔
      (∃ w, Numeral.read part = .ok w) ∧ FirstFlaw parts ⟨index, token, cause⟩ := by
  constructor
  · intro h
    obtain ⟨hfirst, hearlier⟩ := List.forall_mem_cons.mp h.earlier
    obtain ⟨w, hw⟩ := hfirst
    exact ⟨⟨w, Numeral.read_eq_ok_iff.mpr hw⟩, hearlier, h.piece, h.not_denotes, h.flaw⟩
  · intro h
    obtain ⟨⟨w, hw⟩, hrest⟩ := h
    have hfirst : ∃ w, Numeral.Denotes part w := ⟨w, Numeral.read_eq_ok_iff.mp hw⟩
    exact ⟨List.forall_mem_cons.mpr ⟨hfirst, hrest.earlier⟩, hrest.piece, hrest.not_denotes,
      hrest.flaw⟩

/-- **The first piece that is no numeral is reported**, with its index among all of them. -/
theorem readTokens_eq_error_iff {start : Nat} {e : ProgramError} :
    readTokens start parts = .error e ↔
      ∃ index, e.index = start + index ∧ FirstFlaw parts ⟨index, e.token, e.cause⟩ := by
  induction parts generalizing start with
  | nil =>
      simp only [readTokens, reduceCtorEq, false_iff, not_exists, not_and]
      intro index _ h
      cases h.piece
  | cons part rest ih =>
      rw [readTokens]
      cases hread : Numeral.read part with
      | error cause =>
          -- nothing is read behind this piece, and it is no earlier piece of a later one
          constructor
          · intro h
            cases h
            exact ⟨0, rfl, firstFlaw_zero_iff.mpr ⟨by simp, hread⟩⟩
          · intro h
            obtain ⟨index, hindex, h⟩ := h
            cases index with
            | zero =>
                obtain ⟨htoken, hcause⟩ := firstFlaw_zero_iff.mp h
                obtain ⟨place, token, _⟩ := e
                obtain rfl : place = start := hindex
                obtain rfl := Except.error.inj (hread.symm.trans hcause)
                simp only [htoken, String.ofList_toList]
            | succ index =>
                obtain ⟨⟨w, hw⟩, _⟩ := firstFlaw_succ_iff.mp h
                rw [hread] at hw
                cases hw
      | ok w =>
          have hmap : (readTokens (start + 1) rest).map (w :: ·) = .error e ↔
              readTokens (start + 1) rest = .error e := by
            cases readTokens (start + 1) rest <;> simp [Except.map]
          rw [hmap, ih]
          constructor
          · intro h
            obtain ⟨index, hindex, h⟩ := h
            exact ⟨index + 1, by omega, firstFlaw_succ_iff.mpr ⟨⟨w, hread⟩, h⟩⟩
          · intro h
            obtain ⟨index, hindex, h⟩ := h
            cases index with
            | zero =>
                have hcause := (firstFlaw_zero_iff.mp h).2
                rw [hread] at hcause
                cases hcause
            | succ index => exact ⟨index, by omega, (firstFlaw_succ_iff.mp h).2⟩

/-- The text of a program without what is free around it: blanks, and one comma at the end. -/
def body (text : String) : List Char := dropFinalComma (Text.trim text.toList)

theorem parse_eq_error_iff {text : String} {e : ProgramError} :
    parse text = .error e ↔ body text ≠ [] ∧ FirstFlaw (pieces (body text)) e := by
  unfold parse
  by_cases hempty : body text = []
  · rw [tokens_of_nil hempty]
    simp [readTokens, hempty]
  · rw [tokens_of_ne_nil rfl hempty, readTokens_eq_error_iff]
    constructor
    · intro h
      obtain ⟨index, hindex, h⟩ := h
      rw [Nat.zero_add] at hindex
      subst hindex
      exact ⟨hempty, h⟩
    · intro h
      exact ⟨e.index, (Nat.zero_add _).symm, h.2⟩

end Program

/-- Bytes that are read as a text are the bytes of this text. -/
theorem Text.eq_bytes_of_fromUTF8? {line : List UInt8} {text : String}
    (h : String.fromUTF8? (ByteArray.mk line.toArray) = some text) : line = bytes text.toList := by
  rw [bytes_toList]
  unfold String.fromUTF8? at h
  split at h
  · cases h
    rfl
  · cases h

namespace Console

/-- A line is rejected for what is wrong with its text, without the blanks around it. -/
theorem readValue_eq_unreadable_iff {line : List UInt8} {shown : String} {cause : NumeralError} :
    readValue line = .error (.unreadable shown cause) ↔
      ∃ text, text ≠ [] ∧ line = Text.bytes text ∧ shown = String.ofList (Text.trim text) ∧
        Numeral.Flaw (Text.trim text) cause := by
  constructor
  · intro h
    unfold readValue at h
    split at h
    · cases h
    · next hline =>
      split at h
      · cases h
      · next text htext =>
        have hbytes := Text.eq_bytes_of_fromUTF8? htext
        have hne : text.toList ≠ [] := by
          intro hnil
          rw [hbytes, hnil] at hline
          exact hline rfl
        refine ⟨text.toList, hne, hbytes, ?_⟩
        cases hread : Numeral.read (Text.trim text.toList) with
        | ok value =>
            simp only [hread] at h
            cases h
        | error e =>
            simp only [hread] at h
            cases h
            exact ⟨rfl, Numeral.read_eq_error_iff.mp hread⟩
  · intro h
    obtain ⟨text, hne, rfl, rfl, hflaw⟩ := h
    rw [readValue_bytes hne, Numeral.read_eq_error_iff.mpr hflaw]

/-- A console reports a line if it can prompt and the line is rejected. -/
theorem deliver_eq_unreadable_iff {c : Console} {shown : String} {cause : NumeralError} :
    (c.deliver).1 = .error (.unreadable shown cause) ↔
      (ask c.sink).1 = .ok () ∧ ∃ line, c.source.readLine.1 = .ok line ∧
        readValue line = .error (.unreadable shown cause) := by
  obtain ⟨source, sink⟩ := c
  unfold deliver
  rcases hask : ask sink with ⟨e | _, sink'⟩
  · simp [hask]
  · rcases hline : source.readLine with ⟨e | line, source'⟩
    · simp [hask, hline]
    · simp [hask, hline]

end Console

/-- **What is rejected, and why.**  A program text is rejected just if something is left of it
without the blanks around it and a comma at the end, and one of the pieces between the commas
denotes no word; then the first such piece is reported, with its index.  A line of input is rejected
just if its text without the blanks around it denotes no word.  In both cases the error is told by
the piece or the line as a whole: there is nothing, or there are no digits after the sign, or the
digits exceed the words whatever follows them, or they do not and something follows. -/
theorem rejected_for_first_flaw :
    (∀ (text : String) (e : ProgramError), Program.parse text = .error e ↔
      Program.body text ≠ [] ∧ Program.FirstFlaw (Program.pieces (Program.body text)) e) ∧
    ∀ (c : Console) (shown : String) (cause : NumeralError),
      (Device.deliver c).1 = .error (.unreadable shown cause) ↔
        (Console.ask c.sink).1 = .ok () ∧
          ∃ text, text ≠ [] ∧ c.source.readLine.1 = .ok (Text.bytes text) ∧
            shown = String.ofList (Text.trim text) ∧
            (∀ w, ¬ Numeral.Denotes (Text.trim text) w) ∧
            Numeral.Flaw (Text.trim text) cause := by
  refine ⟨fun text e => Program.parse_eq_error_iff, ?_⟩
  intro c shown cause
  change c.deliver.1 = _ ↔ _
  rw [Console.deliver_eq_unreadable_iff]
  constructor
  · intro h
    obtain ⟨hask, line, hline, hread⟩ := h
    obtain ⟨text, hne, rfl, hshown, hflaw⟩ := Console.readValue_eq_unreadable_iff.mp hread
    exact ⟨hask, text, hne, hline, hshown, hflaw.not_denotes, hflaw⟩
  · intro h
    obtain ⟨hask, text, hne, hline, hshown, _, hflaw⟩ := h
    have hread := Console.readValue_eq_unreadable_iff.mpr ⟨text, hne, rfl, hshown, hflaw⟩
    exact ⟨hask, _, hline, hread⟩

example : Program.parse "7, -9223372036854775809x ,,1" =
    .error { index := 1, token := "-9223372036854775809x", cause := .tooSmall } := by cbv

end IntcodeMachine
