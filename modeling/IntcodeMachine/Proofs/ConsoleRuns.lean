import IntcodeMachine.Proofs.Devices
import IntcodeMachine.Proofs.Lines

/-!
# Runs on a console

A console whose source holds one value on each line answers like a script with these values, and
goes on to do so: the line that is taken holds the value that the script delivers, and when the
lines are used up so are the values.  Only the failure has another name then.  The console also
shows what it is asked for, and this is the record of the calls in their order.

* `Console.answersAlike`: a console with values on its lines answers like a script.
* `Machine.console_follows_script`: a machine on a console runs like one with a script, and the
  console shows the calls of the run.
-/

namespace IntcodeMachine

namespace Call

/-- What a console shows for a call: a prompt for a value that is asked for, and a line for a
value that is put out. -/
def shown : Call → List Char
  | .deliver => ['<', '<', ' ']
  | .receive value => ['>', '>', ' '] ++ Numeral.write value ++ ['\n']

/-- What a console shows for several calls, in order. -/
def transcript (calls : List Call) : List Char := calls.flatMap shown

theorem transcript_concat (calls : List Call) (call : Call) :
    transcript (calls ++ [call]) = transcript calls ++ call.shown := by
  rw [transcript, List.flatMap_append, List.flatMap_singleton]
  rfl

end Call

/-- A text without the prompts in it. -/
def erasePrompts : List Char → List Char
  | '<' :: '<' :: ' ' :: rest => erasePrompts rest
  | c :: rest => c :: erasePrompts rest
  | [] => []

theorem erasePrompts_append {text : List Char} (h : '<' ∉ text) (rest : List Char) :
    erasePrompts (text ++ rest) = text ++ erasePrompts rest := by
  induction text with
  | nil => rfl
  | cons c cs ih =>
      have hc : c ≠ '<' := fun hc => h (hc ▸ List.mem_cons_self)
      have hcs := ih fun hmem => h (List.mem_cons_of_mem c hmem)
      simp [erasePrompts, hc, hcs]

theorem Call.not_mem_shown_receive (value : Word) : '<' ∉ shown (.receive value) := by
  intro h
  simp only [shown, List.mem_append, List.mem_cons, List.not_mem_nil, or_false] at h
  rcases h with (h | h) | h
  · revert h
    decide
  · exact ((Numeral.denotes_write value).isMark '<' h).ne_angle rfl
  · revert h
    decide

/-- **Without the prompts the output values are left**, each on its line. -/
theorem Call.erasePrompts_transcript (calls : List Call) :
    erasePrompts (transcript calls) =
      (received calls).flatMap fun value => shown (.receive value) := by
  induction calls with
  | nil => rfl
  | cons call rest ih =>
      cases call with
      | deliver => exact ih
      | receive value =>
          have hvalue := erasePrompts_append (not_mem_shown_receive value) (transcript rest)
          rw [ih] at hvalue
          exact hvalue

/-- A text that there is room for is written, and nothing else happens. -/
theorem Sink.write_of_room {s : Sink} {text : List Char}
    (h : s.room text.length = text.length) :
    s.write text = (.ok (), { s with written := s.written ++ text }) := by
  obtain ⟨written, capacity, brokenFlush⟩ := s
  simp only [write, h, lt_self_iff_false, if_false, List.take_length]

theorem Sink.room_of_unlimited {s : Sink} (h : s.capacity = none) (wanted : Nat) :
    s.room wanted = wanted := by
  rw [room, h]

theorem Sink.write_of_unlimited {s : Sink} (h : s.capacity = none) (text : List Char) :
    s.write text = (.ok (), { s with written := s.written ++ text }) :=
  write_of_room (room_of_unlimited h _)

/-- Nothing a console writes gets lost, and nothing keeps it from writing. -/
structure Sink.Open (s : Sink) : Prop where
  capacity_eq : s.capacity = none
  brokenFlush_eq : s.brokenFlush = false

theorem Sink.Open.written {s : Sink} (h : s.Open) (text : Array Char) :
    Open { s with written := text } :=
  ⟨h.capacity_eq, h.brokenFlush_eq⟩

namespace Console

/-- A prompt that there is room for can still fail to be seen. -/
theorem ask_of_room {s : Sink} (h : s.room prompt.length = prompt.length) :
    ask s = (s.flush, { s with written := s.written ++ prompt }) := by
  rw [ask, Sink.write_of_room h]
  rfl

theorem ask_of_open {s : Sink} (h : s.Open) :
    ask s = (.ok (), { s with written := s.written ++ prompt }) := by
  rw [ask_of_room (Sink.room_of_unlimited h.capacity_eq _), Sink.flush, h.brokenFlush_eq]
  rfl

/-- A console that can write takes the next line. -/
theorem deliver_of_line {c : Console} {line : List UInt8} {rest : Source} (h : c.sink.Open)
    (hline : c.source.readLine = (.ok line, rest)) :
    c.deliver = (readValue line,
      { source := rest, sink := { c.sink with written := c.sink.written ++ prompt } }) := by
  obtain ⟨source, sink⟩ := c
  simp only at hline
  simp only [deliver, ask_of_open h, hline]

theorem receive_of_open {c : Console} (h : c.sink.Open) (value : Word) :
    c.receive value =
      (.ok (), { c with sink := { c.sink with written := c.sink.written ++ shown value } }) := by
  obtain ⟨source, sink⟩ := c
  simp only [receive, Sink.write_of_unlimited h.capacity_eq]

/-- A console that is about to read the values of a script, and has shown all calls so far. -/
structure Follows (c : Console) (r : Recorder Script) : Prop where
  reads : ∃ text, c.source = { unread := Text.bytes text } ∧ Lines text r.device.feed.pending
  shows : c.sink.written.toList = Call.transcript r.calls
  isOpen : c.sink.Open
  keeps : r.device.buffer.values.toList = Call.received r.calls

/-- A console calls it closed when the values of a script are exhausted. -/
def close : DeviceError → DeviceError
  | .exhausted => .closed
  | .closed => .closed
  | .unreadable line cause => .unreadable line cause
  | .stream cause => .stream cause

theorem Follows.deliver {c : Console} {r : Recorder Script} (h : c.Follows r) :
    (Device.deliver c).1 = (Device.deliver r).1.mapError close ∧
      (Device.deliver c).2.Follows (Device.deliver r).2 := by
  obtain ⟨⟨text, hsource, hlines⟩, hshows, hopen, hkeeps⟩ := h
  obtain ⟨source, sink⟩ := c
  obtain ⟨⟨⟨pending⟩, buffer⟩, calls⟩ := r
  simp only at hsource hlines hshows hopen hkeeps
  subst hsource
  have hshown : (sink.written ++ prompt).toList = Call.transcript (calls ++ [.deliver]) := by
    rw [Array.toList_appendList, hshows, Call.transcript_concat]
    rfl
  have hkept : buffer.values.toList = Call.received (calls ++ [.deliver]) := by
    rw [hkeeps, Call.received_append]
    exact (List.append_nil _).symm
  change (Console.deliver _).1 = _ ∧ (Console.deliver _).2.Follows _
  cases pending with
  | nil =>
      obtain rfl := hlines.eq_nil
      rw [deliver_of_line hopen (Source.readLine_at_end)]
      exact ⟨rfl, ⟨[], rfl, .none⟩, hshown, hopen.written _, hkept⟩
  | cons value rest =>
      obtain ⟨line, others, hline, hvalue, hrest⟩ := hlines.readLine
      rw [deliver_of_line hopen hline, hvalue]
      exact ⟨rfl, ⟨others, rfl, hrest⟩, hshown, hopen.written _, hkept⟩

theorem Follows.receive {c : Console} {r : Recorder Script} (h : c.Follows r) (value : Word) :
    (Device.receive c value).1 = (Device.receive r value).1.mapError close ∧
      (Device.receive c value).2.Follows (Device.receive r value).2 := by
  obtain ⟨hreads, hshows, hopen, hkeeps⟩ := h
  have hshown : (c.sink.written ++ shown value).toList =
      Call.transcript (r.calls ++ [.receive value]) := by
    rw [Array.toList_appendList, hshows, Call.transcript_concat]
    rfl
  have hkept : (r.device.buffer.receive value).values.toList =
      Call.received (r.calls ++ [.receive value]) := by
    rw [Buffer.toList_receive, hkeeps, Call.received_append]
    rfl
  change (Console.receive _ _).1 = _ ∧ (Console.receive _ _).2.Follows _
  rw [receive_of_open hopen]
  exact ⟨rfl, hreads, hshown, hopen.written _, hkept⟩

/-- **A console with values on its lines answers like a script.** -/
theorem answersAlike : AnswersAlike Follows close where
  deliver := Follows.deliver
  receive := fun value h => h.receive value

end Console

namespace Machine

theorem alike_ofProgram {δ ε : Type} {related : δ → ε → Prop} {d : δ} {e : ε}
    (program : Program) (limit : Nat) (h : related d e) :
    Alike related (ofProgram program limit d) (ofProgram program limit e) :=
  ⟨rfl, rfl, rfl, rfl, h⟩

/-- **A machine on a console runs like one with a script.**  The lines of the console spell the
values of the script.  Every step comes to the same, but for the name of the failure when there is
no value left, and leaves the same memory and registers.  What the console has shown are the calls
of the run in their order, so without the prompts it is the output of the script, one value on
each line. -/
theorem console_follows_script (program : Program) (limit : Nat) (text : String)
    (values : List Word) (h : Lines text.toList values) (n : Nat) :
    let script := ofProgram program limit (Script.ofInput values)
    let recorded := ofProgram program limit ({ device := Script.ofInput values } : Recorder Script)
    let console := ofProgram program limit
      ({ source := { unread := text.toUTF8.data.toList } } : Console)
    (recorded.outcomeAt n = script.outcomeAt n ∧
      Alike (fun r d => r.device = d) (recorded.after n) (script.after n)) ∧
    console.outcomeAt n = (script.outcomeAt n).mapError (Fault.rename Console.close) ∧
    (console.after n).memory = (script.after n).memory ∧
    (console.after n).pc = (script.after n).pc ∧
    (console.after n).base = (script.after n).base ∧
    (console.after n).halted = (script.after n).halted ∧
    (console.after n).device.sink.written.toList =
      Call.transcript (recorded.after n).device.calls ∧
    erasePrompts (console.after n).device.sink.written.toList =
      (script.after n).device.buffer.values.toList.flatMap fun value =>
        Call.shown (.receive value) := by
  intro script recorded console
  -- The record stands between the two: it runs like the script, and the console shows it.
  have hrecorded : Alike (fun r d => r.device = d) recorded script :=
    alike_ofProgram program limit rfl
  have hconsole : Alike Console.Follows console recorded := by
    apply alike_ofProgram program limit
    refine ⟨⟨text.toList, ?_, h⟩, rfl, ⟨rfl, rfl⟩, rfl⟩
    rw [Text.bytes_toList]
  have hrecorded' := hrecorded.after Recorder.answersAlike n
  have hconsole' := hconsole.after Console.answersAlike n
  have hsame : recorded.outcomeAt n = script.outcomeAt n := by
    rw [hrecorded.outcomeAt Recorder.answersAlike n, Fault.mapError_rename_id]
  have hshows := hconsole'.device.shows
  have hkeeps := hconsole'.device.keeps
  rw [hrecorded'.device] at hkeeps
  refine ⟨⟨hsame, hrecorded'⟩, ?_, ?_, ?_, ?_, ?_, hshows, ?_⟩
  · rw [hconsole.outcomeAt Console.answersAlike n, hsame]
  · rw [hconsole'.memory_eq, hrecorded'.memory_eq]
  · rw [hconsole'.pc_eq, hrecorded'.pc_eq]
  · rw [hconsole'.base_eq, hrecorded'.base_eq]
  · rw [hconsole'.halted_eq, hrecorded'.halted_eq]
  · rw [hshows, hkeeps, Call.erasePrompts_transcript]

/-- The last line lacks its newline, and a third value is asked for twice. -/
theorem console_follows_script_until_closed :
    let text := "\t+0042\u2003\n -7"
    Lines text.toList [42, -7] ∧
      let console := ofProgram [3, 9, 4, 9, 3, 10, 4, 10, 3, 11] 16
        ({ source := { unread := text.toUTF8.data.toList } } : Console)
      console.outcomeAt 5 = .error (.device .closed) ∧
        erasePrompts (console.after 6).device.sink.written.toList = ">> 42\n>> -7\n".toList := by
  intro text
  have hfirst : Entry ("\t+0042\u2003".toList) 42 :=
    entry_iff.mpr (by decide)
  have hsecond : Entry (" -7".toList) (-7) := entry_iff.mpr (by decide)
  have htext : text.toList = "\t+0042\u2003".toList ++ '\n' :: " -7".toList := by decide
  have hlines : Lines text.toList [42, -7] := by
    rw [htext]
    exact .next hfirst (by decide) (.last hsecond (by decide))
  refine ⟨hlines, ?_⟩
  intro console
  have hfive := console_follows_script [3, 9, 4, 9, 3, 10, 4, 10, 3, 11] 16 text [42, -7] hlines 5
  have hsix := console_follows_script [3, 9, 4, 9, 3, 10, 4, 10, 3, 11] 16 text [42, -7] hlines 6
  obtain ⟨_, houtcome, _⟩ := hfive
  obtain ⟨_, _, _, _, _, _, _, herased⟩ := hsix
  refine ⟨?_, ?_⟩
  · rw [houtcome]
    decide
  · rw [herased]
    decide

end Machine

end IntcodeMachine
