import IntcodeMachine.Console
import IntcodeMachine.Proofs.Entries
import Mathlib.Data.List.TakeWhile

/-!
# Lines of input

A console reads bytes, and the values on its lines are texts.  In UTF-8 the byte that ends a line
stands for the character that ends a line and occurs in no other one, so the bytes of a text fall
apart into lines where the text does.

* `Text.newline_mem_bytes_iff`: the byte that ends a line stands for the character.
* `Console.readValue_bytes`: a line is read by trimming its text.
* `Lines.readLine`: of a text with a value on each line, the first line is taken, and the value
  is on it.
-/

namespace IntcodeMachine

namespace Text

/-- The bytes of a text. -/
def bytes (text : List Char) : List UInt8 := text.flatMap String.utf8EncodeChar

theorem bytes_append (first second : List Char) :
    bytes (first ++ second) = bytes first ++ bytes second := List.flatMap_append

theorem bytes_ne_nil {text : List Char} (h : text ≠ []) : bytes text ≠ [] := by
  obtain ⟨c, cs, rfl⟩ := List.exists_cons_of_ne_nil h
  intro hbytes
  rw [bytes, List.flatMap_cons, List.append_eq_nil_iff] at hbytes
  exact String.utf8EncodeChar_ne_nil hbytes.1

theorem bytes_newline : bytes ['\n'] = [newline] := by decide

/-- In a character of several bytes every byte is above those of the characters of one byte. -/
theorem newline_mem_utf8EncodeChar_iff {c : Char} :
    newline ∈ String.utf8EncodeChar c ↔ c = '\n' := by
  have hbyte : ∀ n : Nat, newline = UInt8.ofNat n ↔ n % 256 = 10 := by
    intro n
    rw [← UInt8.toNat_inj, UInt8.toNat_ofNat', newline]
    exact eq_comm
  constructor
  · intro h
    simp only [String.utf8EncodeChar] at h
    split at h
    · next hone =>
      rw [List.mem_singleton, hbyte] at h
      have hvalue : c.val.toNat = 10 := by omega
      exact Char.ext (UInt32.toNat_inj.mp hvalue)
    · split at h
      · simp only [List.mem_cons, List.not_mem_nil, or_false, hbyte] at h
        omega
      · split at h
        · simp only [List.mem_cons, List.not_mem_nil, or_false, hbyte] at h
          omega
        · simp only [List.mem_cons, List.not_mem_nil, or_false, hbyte] at h
          omega
  · rintro rfl
    decide

/-- **The byte that ends a line stands for the character that does.** -/
theorem newline_mem_bytes_iff {text : List Char} : newline ∈ bytes text ↔ '\n' ∈ text := by
  rw [bytes, List.mem_flatMap]
  constructor
  · intro h
    obtain ⟨c, hc, hnewline⟩ := h
    rwa [← newline_mem_utf8EncodeChar_iff.mp hnewline]
  · intro h
    exact ⟨'\n', h, newline_mem_utf8EncodeChar_iff.mpr rfl⟩

/-- The bytes of a text are those that the text is stored in. -/
theorem bytes_toList (text : String) : bytes text.toList = text.toUTF8.data.toList := by
  have htext : text.toUTF8 = text.toList.utf8Encode := by
    rw [String.toUTF8_eq_toByteArray, ← String.toByteArray_ofList, String.ofList_toList]
  rw [htext]
  exact List.toList_data_toByteArray.symm

/-- The bytes of a text are read as this text. -/
theorem fromUTF8?_bytes (text : List Char) :
    String.fromUTF8? (ByteArray.mk (bytes text).toArray) = some (String.ofList text) := by
  have hbytes : ByteArray.mk (bytes text).toArray = text.utf8Encode :=
    ByteArray.ext List.data_toByteArray.symm
  rw [hbytes, String.fromUTF8?, dif_pos ByteArray.isValidUTF8_utf8Encode]
  rfl

end Text

/-- Bytes without a newline are a last line, or they are lost to the failure of a broken source. -/
theorem Source.readLine_of_no_newline {s : Source} (h : newline ∉ s.unread) :
    s.readLine =
      (if s.broken then .error .readFailure else .ok s.unread, { s with unread := [] }) := by
  have hall : ∀ b ∈ s.unread, (b != newline) = true := by
    intro b hb
    rw [bne_iff_ne]
    rintro rfl
    exact h hb
  have htake : s.unread.takeWhile (· != newline) = s.unread :=
    List.takeWhile_eq_self_iff.mpr hall
  have hdrop : s.unread.dropWhile (· != newline) = [] :=
    List.dropWhile_eq_nil_iff.mpr hall
  simp only [readLine, htake, hdrop]

/-- A last line that lacks its newline is taken whole. -/
theorem Source.readLine_of_last {line : List UInt8} (h : newline ∉ line) :
    Source.readLine { unread := line } = (.ok line, {}) :=
  readLine_of_no_newline h

/-- A line is read by trimming its text. -/
theorem Console.readValue_bytes {text : List Char} (h : text ≠ []) :
    readValue (Text.bytes text) =
      match Numeral.read (Text.trim text) with
      | .ok value => .ok value
      | .error cause => .error (.unreadable (String.ofList (Text.trim text)) cause) := by
  have hbytes : (Text.bytes text).isEmpty = false :=
    List.isEmpty_eq_false_iff.mpr (Text.bytes_ne_nil h)
  rw [readValue, hbytes, Text.fromUTF8?_bytes]
  simp only [String.toList_ofList]
  rfl

/-- The value of an entry is read from its bytes. -/
theorem Console.readValue_of_entry {text : List Char} {w : Word} (h : Entry text w) :
    readValue (Text.bytes text) = .ok w := by
  rw [readValue_bytes h.ne_nil, entry_iff.mp h]

/-- The texts with one value on each line.  Every line ends with a newline, but the last one may
lack it. -/
inductive Lines : List Char → List Word → Prop where
  | none : Lines [] []
  | last {line : List Char} {w : Word} (hentry : Entry line w) (hline : '\n' ∉ line) :
      Lines line [w]
  | next {line rest : List Char} {w : Word} {ws : List Word} (hentry : Entry line w)
      (hline : '\n' ∉ line) (hrest : Lines rest ws) : Lines (line ++ '\n' :: rest) (w :: ws)

namespace Lines

theorem eq_nil {text : List Char} (h : Lines text []) : text = [] := by
  cases h
  rfl

/-- **The first line is taken, with its value on it**, and the others are left. -/
theorem readLine {text : List Char} {w : Word} {ws : List Word} (h : Lines text (w :: ws)) :
    ∃ line rest,
      Source.readLine { unread := Text.bytes text } =
          (.ok line, { unread := Text.bytes rest }) ∧
        Console.readValue line = .ok w ∧ Lines rest ws := by
  cases h with
  | last hentry hline =>
      have hnewline := mt Text.newline_mem_bytes_iff.mp hline
      refine ⟨Text.bytes text, [], Source.readLine_of_last hnewline, ?_, .none⟩
      exact Console.readValue_of_entry hentry
  | @next line rest _ _ hentry hline hrest =>
      have hnewline := mt Text.newline_mem_bytes_iff.mp hline
      have hsplit : Text.bytes (line ++ '\n' :: rest) =
          Text.bytes line ++ newline :: Text.bytes rest := by
        rw [← List.singleton_append, Text.bytes_append, Text.bytes_append, Text.bytes_newline]
        rfl
      -- The newline goes with the line, and is one more blank around its value.
      have hending : Text.Blank ['\n'] := by
        intro c hc
        rw [List.mem_singleton.mp hc]
        decide
      refine ⟨Text.bytes (line ++ ['\n']), rest, ?_, ?_, hrest⟩
      · rw [hsplit, Source.readLine_of_line hnewline, Text.bytes_append, Text.bytes_newline]
      · exact Console.readValue_of_entry (hentry.append_blank hending)

end Lines

end IntcodeMachine
