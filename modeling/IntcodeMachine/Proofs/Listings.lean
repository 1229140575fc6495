import IntcodeMachine.Program
import IntcodeMachine.Proofs.Entries

/-!
# The grammar of program texts

A program text is a row of entries with commas between them, and one more comma may end it.
Reading trims the text, drops the comma, cuts at the other commas and trims the pieces.  The
grammar knows none of this; it says where blanks may stand.

* `Program.readTokens_pieces_iff`: cutting and reading is the grammar of a row of entries.
* `Program.Row.exists_core`: a row is one that starts and ends with a numeral, between blanks.
* `Program.parse_eq_ok_iff`: a text is read as a program exactly when it spells it.
-/

namespace IntcodeMachine.Program

/-- The texts of one or more words: entries with commas between them. -/
inductive Row : List Char → Program → Prop where
  | single {text : List Char} {w : Word} (h : Entry text w) : Row text [w]
  | cons {text rest : List Char} {w : Word} {ws : Program} (h : Entry text w)
      (hrest : Row rest ws) : Row (text ++ ',' :: rest) (w :: ws)

/-- The texts of a program. -/
inductive Spells : List Char → Program → Prop where
  | blank {text : List Char} (htext : Text.Blank text) : Spells text []
  | comma {before after : List Char} (hbefore : Text.Blank before) (hafter : Text.Blank after) :
      Spells (before ++ ',' :: after) []
  | row {text : List Char} {p : Program} (hrow : Row text p) : Spells text p
  | rowComma {text after : List Char} {p : Program} (hrow : Row text p)
      (hafter : Text.Blank after) : Spells (text ++ ',' :: after) p

theorem readTokens_cons_eq_ok_iff {index : Nat} {token : List Char} {rest : List (List Char)}
    {p : Program} :
    readTokens index (token :: rest) = .ok p ↔
      ∃ w ws, Numeral.read token = .ok w ∧ readTokens (index + 1) rest = .ok ws ∧ p = w :: ws := by
  rw [readTokens]
  cases hread : Numeral.read token with
  | error e => simp
  | ok w =>
      cases hrest : readTokens (index + 1) rest with
      | error e => simp [Except.map]
      | ok ws => simp [Except.map, eq_comm]

/-- What is read piece by piece is a row of entries. -/
theorem row_of_readTokens {index : Nat} {parts : List (List Char)} {p : Program}
    (hparts : parts ≠ []) (h : readTokens index (parts.map Text.trim) = .ok p) :
    Row ([','].intercalate parts) p := by
  induction parts generalizing index p with
  | nil => exact absurd rfl hparts
  | cons part rest ih =>
      rw [List.map_cons] at h
      obtain ⟨w, ws, hread, hrest, rfl⟩ := readTokens_cons_eq_ok_iff.mp h
      have hentry : Entry part w := entry_iff.mpr hread
      cases rest with
      | nil =>
          cases hrest
          rw [List.intercalate_singleton]
          exact .single hentry
      | cons next others =>
          have hrow := ih (List.cons_ne_nil next others) hrest
          rw [List.intercalate_cons_cons]
          simpa using Row.cons hentry hrow

/-- **Cutting and reading is the grammar of a row of entries.** -/
theorem readTokens_pieces_iff {index : Nat} {text : List Char} {p : Program} :
    readTokens index (pieces text) = .ok p ↔ Row text p := by
  constructor
  · intro h
    have hrow := row_of_readTokens (List.splitOn_ne_nil ',' text) h
    rwa [List.intercalate_splitOn] at hrow
  · intro h
    induction h generalizing index with
    | single hentry =>
        rw [pieces, List.splitOn_eq_singleton hentry.not_comma]
        exact readTokens_cons_eq_ok_iff.mpr ⟨_, [], entry_iff.mp hentry, rfl, rfl⟩
    | cons hentry _ ih =>
        rw [pieces, List.splitOn_append_cons_self_of_not_mem hentry.not_comma, List.map_cons]
        exact readTokens_cons_eq_ok_iff.mpr ⟨_, _, entry_iff.mp hentry, ih, rfl⟩

namespace Row

variable {text : List Char} {p : Program}

/-- Blanks in front of a row belong to its first entry. -/
theorem blank_append {before : List Char} (hblank : Text.Blank before) (h : Row text p) :
    Row (before ++ text) p := by
  cases h with
  | single hentry => exact .single (hentry.blank_append hblank)
  | cons hentry hrest =>
      rw [← List.append_assoc]
      exact .cons (hentry.blank_append hblank) hrest

/-- Blanks behind a row belong to its last entry. -/
theorem append_blank {after : List Char} (h : Row text p) (hblank : Text.Blank after) :
    Row (text ++ after) p := by
  induction h with
  | single hentry => exact .single (hentry.append_blank hblank)
  | cons hentry _ ih =>
      rw [List.append_assoc, List.cons_append]
      exact .cons hentry ih

/-- The row without the blanks in front of its first numeral. -/
theorem exists_head (h : Row text p) :
    ∃ before c cs, Text.Blank before ∧ text = before ++ c :: cs ∧ Numeral.IsMark c ∧
      Row (c :: cs) p := by
  cases h with
  | single hentry =>
      obtain @⟨before, numeral, after, w, hbefore, hnumeral, hafter⟩ := hentry
      obtain ⟨c, cs, rfl⟩ := List.exists_cons_of_ne_nil hnumeral.ne_nil
      refine ⟨before, c, cs ++ after, hbefore, by simp, ?_, ?_⟩
      · exact hnumeral.isMark c List.mem_cons_self
      · exact .single (.between Text.Blank.nil hnumeral hafter)
  | @cons _ rest _ _ hentry hrest =>
      obtain @⟨before, numeral, after, w, hbefore, hnumeral, hafter⟩ := hentry
      obtain ⟨c, cs, rfl⟩ := List.exists_cons_of_ne_nil hnumeral.ne_nil
      refine ⟨before, c, cs ++ after ++ ',' :: rest, hbefore, by simp, ?_, ?_⟩
      · exact hnumeral.isMark c List.mem_cons_self
      · exact .cons (.between Text.Blank.nil hnumeral hafter) hrest

/-- The row without the blanks behind its last numeral. -/
theorem exists_last (h : Row text p) :
    ∃ cs c after, Text.Blank after ∧ text = cs ++ [c] ++ after ∧ Numeral.IsMark c ∧
      Row (cs ++ [c]) p := by
  induction h with
  | single hentry =>
      obtain @⟨before, numeral, after, w, hbefore, hnumeral, hafter⟩ := hentry
      obtain ⟨cs, c, hlast, _⟩ := hnumeral.tight.last
      subst hlast
      refine ⟨before ++ cs, c, after, hafter, by simp, ?_, ?_⟩
      · exact hnumeral.isMark c (by simp)
      · have hrow := Row.single (Entry.between hbefore hnumeral Text.Blank.nil)
        simpa using hrow
  | @cons first _ _ _ hentry _ ih =>
      obtain ⟨cs, c, after, hafter, rfl, hmark, hrow⟩ := ih
      refine ⟨first ++ ',' :: cs, c, after, hafter, by simp, hmark, ?_⟩
      have hlonger := Row.cons hentry hrow
      simpa using hlonger

/-- **A row is one that starts and ends with a numeral, between blanks.** -/
theorem exists_core (h : Row text p) :
    ∃ before core after, Text.Blank before ∧ Text.Blank after ∧ text = before ++ core ++ after ∧
      Text.Tight core ∧ core.getLast? ≠ some ',' ∧ Row core p := by
  obtain ⟨before, c, cs, hbefore, rfl, hmark, hrow⟩ := h.exists_head
  -- The mark at the start may be the one at the end, so the cases are those of what is before it.
  obtain ⟨ds, d, after, hafter, htext, hmark', hrow'⟩ := hrow.exists_last
  refine ⟨before, ds ++ [d], after, hbefore, hafter, ?_, ⟨?_, ?_⟩, ?_, hrow'⟩
  · rw [htext, List.append_assoc before]
  · cases ds with
    | nil => exact ⟨d, [], rfl, hmark'.not_blank⟩
    | cons e es =>
        obtain rfl : c = e := (List.cons.inj htext).1
        exact ⟨c, es ++ [d], rfl, hmark.not_blank⟩
  · exact ⟨ds, d, rfl, hmark'.not_blank⟩
  · intro hcomma
    rw [List.getLast?_concat, Option.some.injEq] at hcomma
    exact hmark'.ne_comma hcomma

end Row

@[simp]
theorem dropFinalComma_concat (body : List Char) : dropFinalComma (body ++ [',']) = body := by
  simp [dropFinalComma]

theorem dropFinalComma_of_ne {body : List Char} (h : body.getLast? ≠ some ',') :
    dropFinalComma body = body := if_neg h

/-- A text with nothing in it but a comma at most has no tokens. -/
theorem tokens_of_nil {text : List Char} (h : dropFinalComma (Text.trim text) = []) :
    tokens text = [] := by
  rw [tokens, h]
  rfl

theorem tokens_of_ne_nil {text body : List Char} (h : dropFinalComma (Text.trim text) = body)
    (hbody : body ≠ []) : tokens text = pieces body := by
  rw [tokens, h, List.isEmpty_eq_false_iff.mpr hbody]
  rfl

/-- What is read from a text spells the program. -/
theorem spells_of_readTokens {index : Nat} {text : List Char} {p : Program}
    (h : readTokens index (tokens text) = .ok p) : Spells text p := by
  obtain ⟨before, after, hbefore, hafter, htext⟩ := Text.exists_trim text
  -- an empty text has no tokens, so it must not be cut into pieces
  by_cases hcomma : (Text.trim text).getLast? = some ','
  · obtain ⟨body, hbody⟩ := List.getLast?_eq_some_iff.mp hcomma
    have hdrop : dropFinalComma (Text.trim text) = body := by
      rw [hbody, dropFinalComma_concat]
    rw [htext, hbody, List.append_assoc, List.append_assoc, List.singleton_append]
    by_cases hempty : body = []
    · rw [tokens_of_nil (hdrop.trans hempty)] at h
      cases h
      rw [hempty]
      exact .comma hbefore hafter
    · rw [tokens_of_ne_nil hdrop hempty] at h
      have hrow := (readTokens_pieces_iff.mp h).blank_append hbefore
      rw [← List.append_assoc]
      exact .rowComma hrow hafter
  · have hdrop : dropFinalComma (Text.trim text) = Text.trim text := dropFinalComma_of_ne hcomma
    by_cases hempty : Text.trim text = []
    · rw [tokens_of_nil (hdrop.trans hempty)] at h
      cases h
      rw [htext, hempty, List.append_nil]
      exact .blank (hbefore.append hafter)
    · rw [tokens_of_ne_nil hdrop hempty] at h
      have hrow := (readTokens_pieces_iff.mp h).blank_append hbefore
      rw [htext]
      exact .row (hrow.append_blank hafter)

/-- A text that spells a program is read as this program. -/
theorem readTokens_of_spells {index : Nat} {text : List Char} {p : Program} (h : Spells text p) :
    readTokens index (tokens text) = .ok p := by
  cases h with
  | blank htext =>
      have hdrop : dropFinalComma (Text.trim text) = [] := by
        rw [htext.trim_eq_nil]
        rfl
      rw [tokens_of_nil hdrop]
      rfl
  | comma hbefore hafter =>
      have htight : Text.Tight [','] :=
        ⟨⟨',', [], rfl, by decide⟩, ⟨[], ',', rfl, by decide⟩⟩
      have htrim := htight.trim_between hbefore hafter
      rw [List.append_assoc, List.singleton_append] at htrim
      rw [tokens_of_nil (by rw [htrim]; rfl)]
      rfl
  | row hrow =>
      obtain ⟨before, core, after, hbefore, hafter, rfl, htight, hcomma, hcore⟩ :=
        hrow.exists_core
      have hne : core ≠ [] := by
        obtain ⟨c, cs, rfl, _⟩ := htight.head
        exact List.cons_ne_nil c cs
      have hdrop := dropFinalComma_of_ne hcomma
      rw [← htight.trim_between hbefore hafter] at hdrop
      rw [tokens_of_ne_nil (hdrop.trans (htight.trim_between hbefore hafter)) hne]
      exact readTokens_pieces_iff.mpr hcore
  | @rowComma rowText after _ hrow hafter =>
      obtain ⟨before, c, cs, hbefore, rfl, hmark, hcore⟩ := hrow.exists_head
      have htight : Text.Tight (c :: cs ++ [',']) :=
        ⟨⟨c, cs ++ [','], rfl, hmark.not_blank⟩, ⟨c :: cs, ',', rfl, by decide⟩⟩
      have htrim := htight.trim_between hbefore hafter
      have htext : before ++ (c :: cs ++ [',']) ++ after = before ++ c :: cs ++ ',' :: after := by
        simp
      rw [htext] at htrim
      have hdrop : dropFinalComma (Text.trim (before ++ c :: cs ++ ',' :: after)) = c :: cs := by
        rw [htrim, dropFinalComma_concat]
      rw [tokens_of_ne_nil hdrop (List.cons_ne_nil c cs)]
      exact readTokens_pieces_iff.mpr hcore

theorem parse_eq_ok_iff {text : String} {p : Program} :
    parse text = .ok p ↔ Spells text.toList p := by
  constructor
  · exact spells_of_readTokens
  · exact readTokens_of_spells

/-- Blanks. -/
abbrev Blanks := { text : List Char // Text.Blank text }

/-- A value that is to be written with blanks around it. -/
structure Padded where
  before : Blanks
  value : Word
  after : Blanks

/-- The shortest numeral of a value between its blanks. -/
def Padded.text (v : Padded) : List Char := v.before ++ Numeral.write v.value ++ v.after

/-- Padded values with commas between them, and maybe a comma and blanks at the end. -/
def listing (values : List Padded) (ending : Option Blanks) : List Char :=
  [','].intercalate (values.map Padded.text) ++
    match ending with
    | none => []
    | some after => ',' :: after

theorem row_listing (values : List Padded) (hvalues : values ≠ []) :
    Row ([','].intercalate (values.map Padded.text)) (values.map Padded.value) := by
  induction values with
  | nil => exact absurd rfl hvalues
  | cons v rest ih =>
      have hentry : Entry v.text v.value := Entry.write v.before.2 v.value v.after.2
      cases rest with
      | nil =>
          rw [List.map_singleton, List.map_singleton, List.intercalate_singleton]
          exact .single hentry
      | cons next others =>
          have hrow := ih (List.cons_ne_nil next others)
          rw [List.map_cons, List.map_cons, List.map_cons, List.intercalate_cons_cons]
          simpa using Row.cons hentry hrow

theorem spells_listing (values : List Padded) (ending : Option Blanks) :
    Spells (listing values ending) (values.map Padded.value) := by
  by_cases hvalues : values = []
  · subst hvalues
    cases ending with
    | none => exact .blank Text.Blank.nil
    | some after => exact .comma Text.Blank.nil after.2
  · have hrow := row_listing values hvalues
    cases ending with
    | none =>
        rw [listing, List.append_nil]
        exact .row hrow
    | some after => exact .rowComma hrow after.2

/-- A value with no blanks around it. -/
def Padded.plain (w : Word) : Padded where
  before := ⟨[], Text.Blank.nil⟩
  value := w
  after := ⟨[], Text.Blank.nil⟩

theorem Padded.text_plain (w : Word) : (plain w).text = Numeral.write w :=
  List.append_nil (Numeral.write w)

/-- The plain text of a program spells it. -/
theorem spells_render (p : Program) : Spells (render p).toList p := by
  have hspells := spells_listing (p.map Padded.plain) none
  have htexts : Padded.text ∘ Padded.plain = Numeral.write := funext Padded.text_plain
  have hvalues : Padded.value ∘ Padded.plain = id := rfl
  rw [List.map_map, hvalues, List.map_id, listing, List.map_map, htexts, List.append_nil] at hspells
  rwa [render, String.toList_ofList]

/-- **A text is read as a program exactly when the grammar says that it spells it.**  In
particular every program is read back from its plain text, and from its numerals with any blanks
around them, with a comma at the end or without. -/
theorem parse_iff_spells :
    (∀ (text : String) (p : Program), parse text = .ok p ↔ Spells text.toList p) ∧
      (∀ p : Program, parse (render p) = .ok p) ∧
      ∀ (values : List Padded) (ending : Option Blanks),
        parse (String.ofList (listing values ending)) = .ok (values.map Padded.value) := by
  refine ⟨fun text p => parse_eq_ok_iff, ?_, ?_⟩
  · intro p
    exact parse_eq_ok_iff.mpr (spells_render p)
  · intro values ending
    rw [parse_eq_ok_iff, String.toList_ofList]
    exact spells_listing values ending

example : parse " -9223372036854775808 ,+007,\n" = .ok [-0x8000000000000000, 7] := by cbv
example : parse ",," = .error { index := 0, token := "", cause := .empty } := by cbv

end IntcodeMachine.Program
