import IntcodeMachine.Proofs.ConsoleRuns
import IntcodeMachine.Proofs.Rejections
import Mathlib.Data.Nat.Count

/-!
# Calls for values, line by line

A console takes one line for each call for a value, whatever is on it: a value, something else,
bytes that are no text, or nothing.  Only a prompt that fails keeps the line for the next call.  So
the lines of a source go with the calls that could prompt, one by one and in order, and what
happened to the sink in between makes no difference.

* `flatten_linesOf`: nothing is lost between the lines of a row of bytes.
* `Source.readLine_of_lines_cons`, `Source.readLine_of_lines_nil`: reading takes the first line of a
  source, or finds its end.
* `Console.tells_iff`: what a call makes of a line, told by the line alone.
* `Console.lines_found`: the lines that a call finds are those left by the calls that could prompt.
* `Console.delivers_line_by_line`: what every call comes to.
-/

namespace IntcodeMachine

/-- The lines of a row of bytes.  Every line has its newline at its end, but the last one may lack
it. -/
def linesOf : List UInt8 → List (List UInt8)
  | [] => []
  | b :: rest =>
      if b = newline then [b] :: linesOf rest
      else
        match linesOf rest with
        | [] => [[b]]
        | line :: others => (b :: line) :: others

/-- Nothing is lost between the lines. -/
theorem flatten_linesOf (bytes : List UInt8) : (linesOf bytes).flatten = bytes := by
  induction bytes with
  | nil => rfl
  | cons b rest ih =>
      rw [linesOf]
      by_cases hb : b = newline
      · rw [if_pos hb, List.flatten_cons, ih]
        rfl
      · rw [if_neg hb]
        cases hrest : linesOf rest with
        | nil =>
            rw [hrest] at ih
            rw [← ih]
            rfl
        | cons line others =>
            rw [hrest] at ih
            rw [← ih]
            rfl

theorem linesOf_line {line : List UInt8} (rest : List UInt8) (h : newline ∉ line) :
    linesOf (line ++ newline :: rest) = (line ++ [newline]) :: linesOf rest := by
  induction line with
  | nil => rfl
  | cons b line ih =>
      obtain ⟨hb, hline⟩ := not_or.mp (mt List.mem_cons.mpr h)
      rw [List.cons_append, linesOf, if_neg (Ne.symm hb), ih hline]
      rfl

theorem linesOf_last {line : List UInt8} (hne : line ≠ []) (h : newline ∉ line) :
    linesOf line = [line] := by
  induction line with
  | nil => exact absurd rfl hne
  | cons b line ih =>
      obtain ⟨hb, hline⟩ := not_or.mp (mt List.mem_cons.mpr h)
      rw [linesOf, if_neg (Ne.symm hb)]
      by_cases hlast : line = []
      · rw [hlast]
        rfl
      · rw [ih hlast hline]

namespace Source

/-- The lines that can be read from a source.  An unfinished line is lost to the failure of a broken
one. -/
def lines (s : Source) : List (List UInt8) :=
  (linesOf s.unread).filter fun line => !s.broken || line.contains newline

/-- What is reported when there are no lines left. -/
def atEnd (s : Source) : DeviceError :=
  if s.broken then .stream .readFailure else .closed

variable {s : Source}

theorem lines_of_line {line rest : List UInt8} (h : newline ∉ line)
    (hunread : s.unread = line ++ newline :: rest) :
    s.lines = (line ++ [newline]) :: lines { s with unread := rest } := by
  rw [lines, hunread, linesOf_line rest h, List.filter_cons_of_pos (by simp)]
  rfl

theorem lines_of_no_newline (h : newline ∉ s.unread) :
    s.lines = if s.broken ∨ s.unread = [] then [] else [s.unread] := by
  by_cases hne : s.unread = []
  · simp [lines, hne, linesOf]
  · rw [lines, linesOf_last hne h]
    cases hbroken : s.broken <;> simp [h, hne]

/-- **Reading takes the first line**, and nothing else. -/
theorem readLine_of_lines_cons {line : List UInt8} {others : List (List UInt8)}
    (h : s.lines = line :: others) :
    line ≠ [] ∧ ∃ rest, s.unread = line ++ rest ∧
      s.readLine = (.ok line, { s with unread := rest }) ∧
      lines { s with unread := rest } = others := by
  by_cases hnewline : newline ∈ s.unread
  · obtain ⟨before, rest, hunread, hbefore⟩ := List.eq_append_cons_of_mem hnewline
    rw [lines_of_line hbefore hunread] at h
    obtain ⟨rfl, rfl⟩ := List.cons.inj h
    refine ⟨by simp, rest, by simp [hunread], ?_, rfl⟩
    obtain ⟨unread, broken⟩ := s
    subst hunread
    exact readLine_of_line hbefore
  · rw [lines_of_no_newline hnewline] at h
    split at h
    · cases h
    · next hlast =>
      obtain ⟨rfl, rfl⟩ := List.cons.inj h
      obtain ⟨hbroken, hne⟩ := not_or.mp hlast
      refine ⟨hne, [], (List.append_nil _).symm, ?_, by simp [lines, linesOf]⟩
      rw [readLine_of_no_newline hnewline, if_neg hbroken]

/-- **Reading finds the end** when there are no lines left. -/
theorem readLine_of_lines_nil (h : s.lines = []) :
    s.readLine =
      (if s.broken then .error .readFailure else .ok [], { s with unread := [] }) := by
  have hnewline : newline ∉ s.unread := by
    intro hmem
    obtain ⟨before, rest, hunread, hbefore⟩ := List.eq_append_cons_of_mem hmem
    rw [lines_of_line hbefore hunread] at h
    cases h
  rw [readLine_of_no_newline hnewline]
  rw [lines_of_no_newline hnewline] at h
  cases hbroken : s.broken with
  | true => rfl
  | false =>
      have hnil : s.unread = [] := by simpa [hbroken] using h
      rw [hnil]

/-- Reading takes away the first line, if there is one. -/
theorem lines_readLine (s : Source) :
    s.readLine.2.lines = s.lines.drop 1 ∧ s.readLine.2.broken = s.broken := by
  cases hlines : s.lines with
  | nil =>
      rw [readLine_of_lines_nil hlines]
      exact ⟨by simp [lines, linesOf], rfl⟩
  | cons line others =>
      obtain ⟨_, rest, _, hread, hothers⟩ := readLine_of_lines_cons hlines
      rw [hread]
      exact ⟨hothers, rfl⟩

end Source

namespace Console

/-- What there is to say about a line: its bytes are no text, or its text without the blanks around
it denotes a word, or it does not, and this is what is wrong with it. -/
inductive Tells (line : List UInt8) : Except DeviceError Word → Prop where
  | notText (h : ∀ text, line ≠ Text.bytes text) : Tells line (.error (.stream .invalidText))
  | value {text : List Char} {w : Word} (htext : line = Text.bytes text)
      (hvalue : Numeral.Denotes (Text.trim text) w) : Tells line (.ok w)
  | unreadable {text : List Char} {cause : NumeralError} (htext : line = Text.bytes text)
      (hvalue : ∀ w, ¬ Numeral.Denotes (Text.trim text) w)
      (hflaw : Numeral.Flaw (Text.trim text) cause) :
      Tells line (.error (.unreadable (String.ofList (Text.trim text)) cause))

variable {line : List UInt8} {outcome : Except DeviceError Word}

theorem Tells.readValue_eq (h : Tells line outcome) (hne : line ≠ []) :
    readValue line = outcome := by
  have htext_ne : ∀ {text}, line = Text.bytes text → text ≠ [] := by
    rintro text rfl rfl
    exact hne rfl
  cases h with
  | notText h =>
      cases hread : String.fromUTF8? (ByteArray.mk line.toArray) with
      | none => rw [readValue, List.isEmpty_eq_false_iff.mpr hne, hread, if_neg Bool.false_ne_true]
      | some text => exact absurd (Text.eq_bytes_of_fromUTF8? hread) (h _)
  | value htext hvalue =>
      rw [htext, readValue_bytes (htext_ne htext), Numeral.read_eq_ok_iff.mpr hvalue]
  | unreadable htext _ hflaw =>
      rw [htext, readValue_bytes (htext_ne htext), Numeral.read_eq_error_iff.mpr hflaw]

/-- There is something to say about every line. -/
theorem exists_tells (line : List UInt8) : ∃ outcome, Tells line outcome := by
  by_cases htext : ∃ text, line = Text.bytes text
  · obtain ⟨text, htext⟩ := htext
    cases hread : Numeral.read (Text.trim text) with
    | ok w => exact ⟨_, .value htext (Numeral.read_eq_ok_iff.mp hread)⟩
    | error cause =>
        have hflaw := Numeral.read_eq_error_iff.mp hread
        exact ⟨_, .unreadable htext hflaw.not_denotes hflaw⟩
  · exact ⟨_, .notText (not_exists.mp htext)⟩

/-- **What a call makes of a line** is told by the line. -/
theorem tells_iff (hne : line ≠ []) : readValue line = outcome ↔ Tells line outcome := by
  constructor
  · rintro rfl
    obtain ⟨told, htells⟩ := exists_tells line
    rw [htells.readValue_eq hne]
    exact htells
  · exact fun h => h.readValue_eq hne

/-- A blank line is empty without its blanks, and that is what is wrong with it. -/
theorem tells_blank {text : List Char} (h : Text.Blank text) :
    Tells (Text.bytes text) (.error (.unreadable "" .empty)) := by
  have hflaw : Numeral.Flaw (Text.trim text) .empty := by
    rw [h.trim_eq_nil]
    exact .empty
  have htells := Tells.unreadable rfl hflaw.not_denotes hflaw
  rw [h.trim_eq_nil] at htells
  exact htells

/-- Whether a console is able to show the prompt. -/
def CanAsk (c : Console) : Prop := (ask c.sink).1 = .ok ()

instance (c : Console) : Decidable c.CanAsk := inferInstanceAs (Decidable (_ = _))

variable {c : Console}

theorem canAsk_of_open (h : c.sink.Open) : c.CanAsk := by
  rw [CanAsk, ask_of_open h]

/-- A prompt that does not fail is shown, and that is all. -/
theorem ask_of_canAsk (h : c.CanAsk) :
    ask c.sink = (.ok (), { c.sink with written := c.sink.written ++ prompt }) := by
  have hok : (ask c.sink).1 = .ok () := h
  have hroom : c.sink.room prompt.length = prompt.length := by
    rw [← Sink.write_eq_ok_iff]
    unfold ask at hok
    split at hok
    · next hwrite => rw [hwrite]
    · cases hok
  rw [ask_of_room hroom] at hok ⊢
  exact Prod.ext hok rfl

/-- **A prompt that fails** keeps the line for the next call. -/
theorem deliver_of_ask_error {e : StreamError} (h : (ask c.sink).1 = .error e) :
    c.deliver.1 = .error (.stream e) ∧ c.deliver.2.source = c.source := by
  obtain ⟨source, sink⟩ := c
  rcases hask : ask sink with ⟨cause | _, sink'⟩
  · obtain rfl := Except.error.inj (hask ▸ h)
    simp only [deliver, hask, and_self]
  · rw [hask] at h
    cases h

theorem deliver_of_canAsk (h : c.CanAsk) :
    c.deliver =
      (match c.source.readLine.1 with
        | .error e => .error (.stream e)
        | .ok line => readValue line,
      { source := c.source.readLine.2,
        sink := { c.sink with written := c.sink.written ++ prompt } }) := by
  obtain ⟨source, sink⟩ := c
  have hask := ask_of_canAsk h
  simp only at hask
  simp only [deliver, hask]
  rcases source.readLine with ⟨e | line, rest⟩ <;> rfl

/-- **A call takes the first line** if it can prompt, and none if it cannot. -/
theorem lines_deliver (c : Console) :
    c.deliver.2.source.lines = c.source.lines.drop (if c.CanAsk then 1 else 0) ∧
      c.deliver.2.source.broken = c.source.broken := by
  by_cases h : c.CanAsk
  · rw [if_pos h, deliver_of_canAsk h]
    exact c.source.lines_readLine
  · rw [if_neg h, List.drop_zero]
    cases hask : (ask c.sink).1 with
    | ok _ => exact absurd hask h
    | error e =>
        rw [(deliver_of_ask_error hask).2]
        exact ⟨rfl, rfl⟩

/-- The console that a call finds, when all calls are for values.  In between the sink may change:
fill up, break, or be mended. -/
def found (c : Console) (change : Nat → Sink → Sink) : Nat → Console
  | 0 => { c with sink := change 0 c.sink }
  | n + 1 =>
      let left := (c.found change n).deliver.2
      { left with sink := change (n + 1) left.sink }

/-- How many of the calls before this one were able to prompt. -/
def asked (c : Console) (change : Nat → Sink → Sink) (n : Nat) : Nat :=
  Nat.count (fun k => (c.found change k).CanAsk) n

/-- **The lines that a call finds** are those left by the calls that could prompt. -/
theorem lines_found (c : Console) (change : Nat → Sink → Sink) (n : Nat) :
    (c.found change n).source.lines = c.source.lines.drop (c.asked change n) ∧
      (c.found change n).source.broken = c.source.broken := by
  induction n with
  | zero => exact ⟨rfl, rfl⟩
  | succ n ih =>
      obtain ⟨hlines, hbroken⟩ := lines_deliver (c.found change n)
      rw [ih.1, List.drop_drop] at hlines
      rw [asked, Nat.count_succ]
      exact ⟨hlines, hbroken.trans ih.2⟩

variable {change : Nat → Sink → Sink}

/-- A console can always prompt if its sink is open and stays so. -/
theorem canAsk_found_of_open (hopen : c.sink.Open)
    (hchange : ∀ k sink, sink.Open → (change k sink).Open) (n : Nat) :
    (c.found change n).CanAsk := by
  apply canAsk_of_open
  induction n with
  | zero => exact hchange 0 c.sink hopen
  | succ n ih =>
      have hleft : (c.found change n).deliver.2.sink.Open := by
        rw [deliver_of_canAsk (canAsk_of_open ih)]
        exact ih.written _
      exact hchange (n + 1) _ hleft

/-- A call that can prompt is told what there is to say about the line that is due. -/
theorem deliver_of_due {n : Nat} (hask : (c.found change n).CanAsk)
    (hdue : c.source.lines[c.asked change n]? = some line) :
    (∀ outcome, (c.found change n).deliver.1 = outcome ↔ Tells line outcome) ∧
      (c.found change n).source.unread =
        line ++ (c.found change n).deliver.2.source.unread := by
  obtain ⟨hbound, hline⟩ := List.getElem?_eq_some_iff.mp hdue
  have hlines := (lines_found c change n).1
  rw [List.drop_eq_getElem_cons hbound, hline] at hlines
  obtain ⟨hne, rest, hunread, hread, _⟩ := Source.readLine_of_lines_cons hlines
  rw [deliver_of_canAsk hask, hread]
  exact ⟨fun outcome => tells_iff hne, hunread⟩

/-- A call that can prompt finds the end if there is no line for it. -/
theorem deliver_of_no_line {n : Nat} (hask : (c.found change n).CanAsk)
    (hnone : c.source.lines.length ≤ c.asked change n) :
    (c.found change n).deliver.1 = .error c.source.atEnd := by
  obtain ⟨hlines, hbroken⟩ := lines_found c change n
  rw [List.drop_of_length_le hnone] at hlines
  rw [deliver_of_canAsk hask, Source.readLine_of_lines_nil hlines, hbroken, Source.atEnd]
  cases c.source.broken <;> rfl

/-- **Calls for values go line by line.**  A call that cannot show the prompt reports why and takes
no line.  A call that can shows it once.  It takes the line that is due, the one after those of the
earlier calls that could prompt, and what it reports is told by this line alone; a blank line is
empty, not the end.  When there are no lines left, this call and all later ones report the end, or
the failure of a broken source.  If all calls so far could prompt, then the line that is due is the
one with the number of the call; and they could if the sink is open and stays so. -/
theorem delivers_line_by_line (c : Console) (change : Nat → Sink → Sink) (n : Nat) :
    let before := c.found change n
    (∀ e, (ask before.sink).1 = .error e →
      before.deliver.1 = .error (.stream e) ∧ before.deliver.2.source = before.source) ∧
    (before.CanAsk → before.deliver.2.sink =
      { before.sink with written := before.sink.written ++ prompt }) ∧
    (∀ line, before.CanAsk → c.source.lines[c.asked change n]? = some line →
      (∀ outcome, before.deliver.1 = outcome ↔ Tells line outcome) ∧
      (∀ text, line = Text.bytes text → Text.Blank text →
        before.deliver.1 = .error (.unreadable "" .empty)) ∧
      before.source.unread = line ++ before.deliver.2.source.unread) ∧
    (c.source.lines.length ≤ c.asked change n → ∀ k, n ≤ k → (c.found change k).CanAsk →
      (c.found change k).deliver.1 = .error c.source.atEnd) ∧
    ((∀ k < n, (c.found change k).CanAsk) → c.asked change n = n) ∧
    (c.sink.Open → (∀ k sink, sink.Open → (change k sink).Open) →
      ∀ k, (c.found change k).CanAsk) := by
  intro before
  refine ⟨fun e => deliver_of_ask_error, ?_, ?_, ?_, ?_, canAsk_found_of_open⟩
  · intro hask
    rw [deliver_of_canAsk hask]
  · intro line hask hdue
    obtain ⟨htells, hunread⟩ := deliver_of_due hask hdue
    refine ⟨htells, ?_, hunread⟩
    rintro text rfl hblank
    exact (htells _).mpr (tells_blank hblank)
  · intro hnone k hle hask
    exact deliver_of_no_line hask (Nat.le_trans hnone (Nat.count_monotone _ hle))
  · intro hall
    exact Nat.count_iff_forall.mpr hall

/-- The flush of the second prompt fails, and the second line is left for the third call.  Its bytes
are no text; the next line is blank, and the last one lacks its newline.  If no prompt fails, then
the four lines are used up after four calls. -/
theorem delivers_line_by_line_after_failure :
    let c : Console := { source := { unread := [49, 10, 255, 10, 32, 10, 43, 48, 55] } }
    let change : Nat → Sink → Sink := fun n sink => { sink with brokenFlush := n = 1 }
    (c.found change 0).deliver.1 = .ok 1 ∧
      (c.found change 1).deliver.1 = .error (.stream .flushFailure) ∧
      (c.found change 2).deliver.1 = .error (.stream .invalidText) ∧
      (c.found change 3).deliver.1 = .error (.unreadable "" .empty) ∧
      (c.found change 4).deliver.1 = .ok 7 ∧
      (c.found change 6).deliver.1 = .error .closed ∧
      (c.found (fun _ sink => sink) 4).deliver.1 = .error .closed := by
  intro c change
  obtain ⟨_, _, hfirst, _⟩ := delivers_line_by_line c change 0
  obtain ⟨hfails, _⟩ := delivers_line_by_line c change 1
  obtain ⟨_, _, hbytes, _⟩ := delivers_line_by_line c change 2
  obtain ⟨_, _, hblanks, _⟩ := delivers_line_by_line c change 3
  obtain ⟨_, _, hlast, _⟩ := delivers_line_by_line c change 4
  obtain ⟨_, _, _, hend, _⟩ := delivers_line_by_line c change 5
  obtain ⟨_, _, _, hend', hcount, hopen⟩ := delivers_line_by_line c (fun _ sink => sink) 4
  refine ⟨?_, (hfails .flushFailure (by decide)).1, ?_, ?_, ?_, ?_, ?_⟩
  · refine ((hfirst [49, 10] (by decide) (by decide)).1 _).mpr ?_
    have htext : [49, 10] = Text.bytes ['1', '\n'] := by decide
    exact .value htext (Numeral.read_eq_ok_iff.mp (by decide))
  · refine ((hbytes [255, 10] (by decide) (by decide)).1 _).mpr (.notText ?_)
    intro text htext
    have hnone : String.fromUTF8? (ByteArray.mk #[255, 10]) = none := by decide
    have hsome := Text.fromUTF8?_bytes text
    rw [← htext] at hsome
    cases hnone.symm.trans hsome
  · have hblank : Text.Blank [' ', '\n'] := List.all_eq_true.mp (by decide)
    exact (hblanks [32, 10] (by decide) (by decide)).2.1 [' ', '\n'] (by decide) hblank
  · refine ((hlast [43, 48, 55] (by decide) (by decide)).1 _).mpr ?_
    have htext : [43, 48, 55] = Text.bytes ['+', '0', '7'] := by decide
    exact .value htext (Numeral.read_eq_ok_iff.mp (by decide))
  · exact hend (by decide) 6 (by decide) (by decide)
  · have hasks := hopen ⟨rfl, rfl⟩ fun _ _ h => h
    refine hend' ?_ 4 (Nat.le_refl 4) (hasks 4)
    rw [hcount fun k _ => hasks k]
    decide

end Console

end IntcodeMachine
