import IntcodeMachine.Proofs.ConsoleRuns
import IntcodeMachine.Proofs.Runs

/-!
# A sink that gets full

For a call a console writes before it does anything else: the prompt before a line is read, and the
line of a value before the program counter moves on.  So what does not fit makes the call be refused
before anything has happened, and the same call is refused again by every later step.  Until then
nobody can tell that the room is limited.

* `Console.call_of_no_room`: what does not fit is written as far as it goes, and nothing else
  happens.
* `Machine.step_limited_of_room`, `Machine.step_limited_of_no_room`: one step with limited room.
* `Machine.cut_short_when_full`: a run with limited room is the run without a limit, cut short.
-/

namespace IntcodeMachine

namespace Sink

theorem write_of_no_room {s : Sink} {text : List Char} (h : s.room text.length < text.length) :
    s.write text =
      (.error .full, { s with written := s.written ++ text.take (s.room text.length) }) := by
  obtain ⟨written, capacity, brokenFlush⟩ := s
  simp only [write, h, if_true]

end Sink

namespace Console

/-- The console with room for a number of characters in all. -/
def limited (room : Nat) (c : Console) : Console :=
  { c with sink := { c.sink with capacity := some room } }

/-- The console with another text in its sink. -/
def showing (text : List Char) (c : Console) : Console :=
  { c with sink := { c.sink with written := text.toArray } }

variable {c : Console} {call : Call}

/-- What a call shows is added to what has been shown, if there is room for it. -/
theorem sink_of_room (h : c.sink.room call.shown.length = call.shown.length) :
    (call.deviceAfter c).sink = { c.sink with written := c.sink.written ++ call.shown } := by
  obtain ⟨source, sink⟩ := c
  cases call with
  | deliver =>
      have hask : ask sink = _ := ask_of_room h
      change (deliver ⟨source, sink⟩).2.sink = _
      simp only [deliver, hask]
      rcases sink.flush with e | _
      · rfl
      · rcases source.readLine with ⟨e | line, rest⟩ <;> rfl
  | receive value =>
      change (receive ⟨source, sink⟩ value).2.sink = _
      have hwrite := Sink.write_of_room h
      change sink.write (shown value) = _ at hwrite
      simp only [receive, hwrite]

/-- **What does not fit** is written as far as it goes, and nothing else happens. -/
theorem call_of_no_room (h : c.sink.room call.shown.length < call.shown.length) :
    call.answer c = .error (.stream .full) ∧
      call.deviceAfter c = { c with sink := { c.sink with
        written := c.sink.written ++ call.shown.take (c.sink.room call.shown.length) } } := by
  obtain ⟨source, sink⟩ := c
  have hwrite := Sink.write_of_no_room h
  cases call with
  | deliver =>
      change sink.write prompt = _ at hwrite
      change (deliver ⟨source, sink⟩).1.map _ = _ ∧ (deliver ⟨source, sink⟩).2 = _
      simp only [deliver, ask, hwrite]
      exact ⟨rfl, trivial⟩
  | receive value =>
      change sink.write (shown value) = _ at hwrite
      change (receive ⟨source, sink⟩ value).1 = _ ∧ (receive ⟨source, sink⟩ value).2 = _
      simp only [receive, hwrite, and_self]

theorem room_limited (room wanted : Nat) :
    (c.limited room).sink.room wanted = min wanted (room - c.sink.written.size) := rfl

/-- A console with limited room beside the one without a limit. -/
def IsLimited (room : Nat) (tight free : Console) : Prop := tight = free.limited room

/-- As long as there is room, the limit makes no difference. -/
theorem answeredAlike_of_room {room : Nat} (hfree : c.sink.capacity = none)
    (h : c.sink.written.size + call.shown.length ≤ room) :
    call.AnsweredAlike (IsLimited room) id (c.limited room) c := by
  have htight : (c.limited room).sink.room call.shown.length = call.shown.length := by
    rw [room_limited]
    omega
  have hroom := Sink.room_of_unlimited hfree call.shown.length
  obtain ⟨source, sink⟩ := c
  cases call with
  | deliver =>
      have hask' : ask (limited room ⟨source, sink⟩).sink = (sink.flush, _) := ask_of_room htight
      have hask : ask sink = _ := ask_of_room hroom
      change (deliver _).1 = (deliver _).1.mapError id ∧ IsLimited room (deliver _).2 (deliver _).2
      simp only [limited, deliver, hask] at hask' ⊢
      simp only [hask']
      rcases sink.flush with e | _
      · exact ⟨rfl, rfl⟩
      · rcases source.readLine with ⟨e | line, rest⟩
        · exact ⟨rfl, rfl⟩
        · refine ⟨?_, rfl⟩
          simp only
          cases readValue line <;> rfl
  | receive value =>
      have hwrite : Sink.write _ (shown value) = _ := Sink.write_of_room htight
      have hwrite' : sink.write (shown value) = _ := Sink.write_of_room hroom
      change (receive _ value).1 = (receive _ value).1.mapError id ∧
        IsLimited room (receive _ value).2 (receive _ value).2
      simp only [limited, receive, hwrite, hwrite'] at hwrite ⊢
      exact ⟨rfl, rfl⟩

end Console

namespace Call

/-- Every call shows something. -/
theorem length_shown_pos (call : Call) : 0 < call.shown.length := by
  cases call <;> simp [shown]

/-- All that is shown is ASCII. -/
theorem ascii_shown (call : Call) : ∀ c ∈ call.shown, c.toNat < 128 := by
  cases call with
  | deliver => simp [shown]
  | receive value =>
      refine List.forall_mem_append.mpr ⟨List.forall_mem_append.mpr ⟨by simp, ?_⟩, by simp⟩
      intro c hc
      rcases (Numeral.denotes_write value).isMark c hc with hdigit | rfl | rfl
      · have hhigh := (Char.isDigit_iff_toNat.mp hdigit).2
        exact Nat.lt_of_le_of_lt hhigh (by decide)
      · decide
      · decide

end Call

/-- A text of ASCII characters has one byte for each. -/
theorem Text.length_bytes_of_ascii {text : List Char} (h : ∀ c ∈ text, c.toNat < 128) :
    (bytes text).length = text.length := by
  induction text with
  | nil => rfl
  | cons c cs ih =>
      obtain ⟨hc, hcs⟩ := List.forall_mem_cons.mp h
      have hone : (String.utf8EncodeChar c).length = 1 := by
        rw [String.length_utf8EncodeChar, Char.utf8Size_eq_one_iff, UInt32.le_iff_toNat_le]
        exact Nat.lt_succ_iff.mp hc
      have hrest := ih hcs
      unfold bytes at hrest ⊢
      rw [List.flatMap_cons, List.length_append, hone, hrest, List.length_cons, Nat.add_comm]

namespace Machine

/-- The machine on its console with limited room. -/
def limited (room : Nat) (m : Machine Console) : Machine Console :=
  { m with device := m.device.limited room }

/-- The machine with another text in the sink of its console. -/
def showing (text : List Char) (m : Machine Console) : Machine Console :=
  { m with device := m.device.showing text }

/-- All that the console of the machine has shown. -/
def transcript (m : Machine Console) : List Char := m.device.sink.written.toList

variable {m : Machine Console} {room : Nat}

/-- Without a limit a step adds what its call shows. -/
theorem step_sink (hfree : m.device.sink.capacity = none) :
    m.step.machine.device.sink = { m.device.sink with
      written := m.device.sink.written ++ m.turn.call?.elim [] Call.shown } := by
  rw [step_device]
  cases m.turn.call? with
  | none => simp
  | some call => exact Console.sink_of_room (Sink.room_of_unlimited hfree _)

theorem transcript_step (hfree : m.device.sink.capacity = none) :
    m.step.machine.transcript = m.transcript ++ m.turn.call?.elim [] Call.shown := by
  rw [transcript, step_sink hfree, Array.toList_appendList, transcript]

theorem unlimited_after (hfree : m.device.sink.capacity = none) (n : Nat) :
    (m.after n).device.sink.capacity = none := by
  induction n with
  | zero => exact hfree
  | succ n ih =>
      rw [after_succ, step_sink ih]
      exact ih

/-- Nothing that was shown is taken back. -/
theorem length_transcript_le (hfree : m.device.sink.capacity = none) {j k : Nat} (hle : j ≤ k) :
    (m.after j).transcript.length ≤ (m.after k).transcript.length := by
  induction k, hle using Nat.le_induction with
  | base => exact Nat.le_refl _
  | succ k _ ih =>
      rw [after_succ, transcript_step (unlimited_after hfree k), List.length_append]
      omega

theorem ascii_transcript (hfree : m.device.sink.capacity = none)
    (hascii : ∀ c ∈ m.transcript, c.toNat < 128) (n : Nat) :
    ∀ c ∈ (m.after n).transcript, c.toNat < 128 := by
  induction n with
  | zero => exact hascii
  | succ n ih =>
      rw [after_succ, transcript_step (unlimited_after hfree n)]
      refine List.forall_mem_append.mpr ⟨ih, ?_⟩
      cases (m.after n).turn.call? with
      | none => exact fun c hc => absurd hc List.not_mem_nil
      | some call => exact call.ascii_shown

theorem Alike.eq_limited {k : Machine Console} (h : Alike (Console.IsLimited room) m k) :
    m = k.limited room := by
  obtain ⟨memory, pc, base, halted, d⟩ := m
  obtain ⟨rfl, rfl, rfl, rfl, rfl⟩ := h
  rfl

/-- **One step with limited room is the step without a limit**, if there is room for what it
shows. -/
theorem step_limited_of_room (hfree : m.device.sink.capacity = none)
    (h : m.step.machine.transcript.length ≤ room) :
    (m.limited room).step.outcome = m.step.outcome ∧
      (m.limited room).step.machine = m.step.machine.limited room := by
  have halike : Alike (Console.IsLimited room) (m.limited room) m := ⟨rfl, rfl, rfl, rfl, rfl⟩
  have hanswer : ∀ call, m.turn.call? = some call →
      call.AnsweredAlike (Console.IsLimited room) id (m.limited room).device m.device := by
    intro call hcall
    rw [transcript_step hfree, hcall, List.length_append] at h
    exact Console.answeredAlike_of_room hfree h
  obtain ⟨houtcome, hends⟩ := halike.step_of_call hanswer
  rw [Fault.mapError_rename_id] at houtcome
  exact ⟨houtcome, hends.eq_limited⟩

/-- A step that shows more than there is room for makes a call. -/
theorem exists_call (hfree : m.device.sink.capacity = none)
    (hroom : m.transcript.length ≤ room) (hfull : room < m.step.machine.transcript.length) :
    ∃ call, m.turn.call? = some call ∧ m.step.machine.transcript = m.transcript ++ call.shown := by
  have hstep := transcript_step hfree
  cases hcall : m.turn.call? with
  | none =>
      rw [hcall, Option.elim, List.append_nil] at hstep
      rw [hstep] at hfull
      omega
  | some call =>
      rw [hcall] at hstep
      exact ⟨call, rfl, hstep⟩

/-- **A step that shows more than there is room for fails**, and all it does is to show what
fits. -/
theorem step_limited_of_no_room (hfree : m.device.sink.capacity = none)
    (hroom : m.transcript.length ≤ room) (hfull : room < m.step.machine.transcript.length) :
    (m.limited room).step.outcome = .error (.device (.stream .full)) ∧
      (m.limited room).step.machine =
        (m.limited room).showing (m.step.machine.transcript.take room) := by
  obtain ⟨call, hcall, hstep⟩ := exists_call hfree hroom hfull
  have hsize : m.device.sink.written.size = m.transcript.length := Array.size_eq_length_toList
  rw [hstep, List.length_append] at hfull
  have hnoroom : (m.device.limited room).sink.room call.shown.length < call.shown.length := by
    rw [Console.room_limited]
    omega
  obtain ⟨hanswer, hafter⟩ := Console.call_of_no_room hnoroom
  obtain ⟨houtcome, hmachine⟩ := step_of_refused (m := m.limited room) hcall hanswer
  have hfits : (m.device.limited room).sink.room call.shown.length =
      room - m.transcript.length := by
    rw [Console.room_limited] at hnoroom ⊢
    omega
  have htext : m.device.sink.written ++ call.shown.take (room - m.transcript.length) =
      ((m.transcript ++ call.shown).take room).toArray := by
    apply Array.toList_inj.mp
    rw [Array.toList_appendList, List.take_append, List.take_of_length_le hroom, transcript]
  refine ⟨houtcome, hmachine.trans ?_⟩
  change { m with device := call.deviceAfter (m.device.limited room) } =
    { m with device := (m.device.limited room).showing _ }
  rw [hafter, hfits, hstep, Console.showing, ← htext]
  rfl

/-- A machine whose console has no room left makes the same call for ever, and is refused. -/
theorem stuck_of_no_room {call : Call} (hcall : m.turn.call? = some call)
    (hlimited : m.device.sink.capacity = some room) (hfull : room ≤ m.transcript.length) (n : Nat) :
    m.outcomeAt n = .error (.device (.stream .full)) ∧ m.after n = m := by
  have hsize : m.device.sink.written.size = m.transcript.length := Array.size_eq_length_toList
  have hpos := call.length_shown_pos
  have hnone : m.device.sink.room call.shown.length = 0 := by
    rw [Sink.room, hlimited]
    simp only
    omega
  have hnoroom : m.device.sink.room call.shown.length < call.shown.length := by omega
  obtain ⟨hanswer, hafter⟩ := Console.call_of_no_room hnoroom
  obtain ⟨houtcome, hmachine⟩ := step_of_refused hcall hanswer
  rw [hafter, hnone, List.take_zero] at hmachine
  have hsame : m.step.machine = m := by
    rw [hmachine]
    simp
  have hstays := after_of_fixed hsame n
  refine ⟨?_, hstays⟩
  rw [outcomeAt, hstays, houtcome]

/-- As long as there is room for what is shown, the limit makes no difference to a run. -/
theorem after_limited_of_room (hfree : m.device.sink.capacity = none) {k : Nat}
    (h : (m.after k).transcript.length ≤ room) :
    (m.limited room).after k = (m.after k).limited room := by
  induction k with
  | zero => rfl
  | succ k ih =>
      have hle := length_transcript_le hfree (Nat.le_succ k)
      have hstep := step_limited_of_room (unlimited_after hfree k) h
      rw [after_succ, ih (Nat.le_trans hle h), hstep.2, after_succ]

theorem outcomeAt_limited_of_room (hfree : m.device.sink.capacity = none) {k : Nat}
    (h : (m.after (k + 1)).transcript.length ≤ room) :
    (m.limited room).outcomeAt k = m.outcomeAt k := by
  have hle := length_transcript_le hfree (Nat.le_succ k)
  have hstep := step_limited_of_room (unlimited_after hfree k) h
  rw [outcomeAt, after_limited_of_room hfree (Nat.le_trans hle h), hstep.1, outcomeAt]

section Cut

variable {k : Nat} (hfree : m.device.sink.capacity = none)
  (hroom : (m.after k).transcript.length ≤ room)
  (hfull : room < (m.after (k + 1)).transcript.length)

include hfree hroom hfull

/-- The step in which a run shows more than there is room for. -/
theorem cut_at :
    (m.limited room).outcomeAt k = .error (.device (.stream .full)) ∧
      (m.limited room).after (k + 1) =
        ((m.after k).limited room).showing ((m.after (k + 1)).transcript.take room) := by
  have hbefore := after_limited_of_room hfree hroom
  obtain ⟨houtcome, hmachine⟩ := step_limited_of_no_room (unlimited_after hfree k) hroom hfull
  refine ⟨?_, ?_⟩
  · rw [outcomeAt, hbefore, houtcome]
  · rw [after_succ, hbefore, hmachine, after_succ]

/-- After this step the sink is full, so nothing changes any more. -/
theorem stuck_after_cut {j : Nat} (hj : k < j) :
    (m.limited room).outcomeAt j = .error (.device (.stream .full)) ∧
      (m.limited room).after j = (m.limited room).after (k + 1) := by
  obtain ⟨_, hlast⟩ := cut_at hfree hroom hfull
  obtain ⟨call, hcall, _⟩ := exists_call (unlimited_after hfree k) hroom hfull
  have hcall' : ((m.limited room).after (k + 1)).turn.call? = some call := by
    rw [hlast]
    exact hcall
  have hlimited : ((m.limited room).after (k + 1)).device.sink.capacity = some room := by
    rw [hlast]
    rfl
  have hshows : room ≤ ((m.limited room).after (k + 1)).transcript.length := by
    rw [hlast]
    change room ≤ ((m.after (k + 1)).transcript.take room).length
    rw [List.length_take]
    omega
  obtain ⟨more, rfl⟩ := Nat.exists_eq_add_of_le (Nat.succ_le_of_lt hj)
  obtain ⟨hstuck, hstays⟩ := stuck_of_no_room hcall' hlimited hshows more
  rw [outcomeAt, after_add]
  exact ⟨hstuck, hstays⟩

end Cut

/-- **A full sink cuts a run short.**  All that a console shows is ASCII, so there is room for as
many bytes as characters.  As long as a run without a limit shows no more than there is room for,
the run with limited room is the same.  In the step in which it shows more, the run with limited
room fails and shows what fits, but nothing else happens; and every later step fails in the same way
and changes nothing at all. -/
theorem cut_short_when_full (program : Program) (limit : Nat) (source : Source)
    (brokenFlush : Bool) (room : Nat) :
    let free := ofProgram program limit ({ source, sink := { brokenFlush } } : Console)
    let tight := ofProgram program limit
      ({ source, sink := { capacity := some room, brokenFlush } } : Console)
    (∀ k, (Text.bytes (free.after k).transcript).length = (free.after k).transcript.length) ∧
    (∀ k, (free.after k).transcript.length ≤ room →
      (∀ j, j < k → tight.outcomeAt j = free.outcomeAt j) ∧
        tight.after k = (free.after k).limited room) ∧
    ∀ k, (free.after k).transcript.length ≤ room →
      room < (free.after (k + 1)).transcript.length →
      tight.outcomeAt k = .error (.device (.stream .full)) ∧
        tight.after (k + 1) =
          ((free.after k).limited room).showing ((free.after (k + 1)).transcript.take room) ∧
        ∀ j, k < j → tight.outcomeAt j = .error (.device (.stream .full)) ∧
          tight.after j = tight.after (k + 1) := by
  intro free tight
  have hfree : free.device.sink.capacity = none := rfl
  have hascii : ∀ c ∈ free.transcript, c.toNat < 128 := fun c hc => absurd hc List.not_mem_nil
  refine ⟨fun k => Text.length_bytes_of_ascii (ascii_transcript hfree hascii k), ?_, ?_⟩
  · intro k hroom
    refine ⟨fun j hj => ?_, after_limited_of_room hfree hroom⟩
    have hle := length_transcript_le hfree (Nat.succ_le_of_lt hj)
    exact outcomeAt_limited_of_room hfree (Nat.le_trans hle hroom)
  · intro k hroom hfull
    obtain ⟨houtcome, hlast⟩ := cut_at hfree hroom hfull
    exact ⟨houtcome, hlast, fun j hj => stuck_after_cut hfree hroom hfull hj⟩

/-- The room ends inside the line of the second value; before that a value was read. -/
theorem cut_short_when_full_in_line :
    let source : Source := { unread := "7\n8\n".toUTF8.data.toList }
    let free := ofProgram [3, 20, 4, 20, 104, 12345, 99] 64 ({ source } : Console)
    let tight := ofProgram [3, 20, 4, 20, 104, 12345, 99] 64
      ({ source, sink := { capacity := some 11 } } : Console)
    (free.after 2).transcript.length ≤ 11 ∧ 11 < (free.after 3).transcript.length ∧
      (tight.after 2).transcript = "<< >> 7\n".toList ∧
      tight.outcomeAt 1 = .ok false ∧
      tight.outcomeAt 2 = .error (.device (.stream .full)) ∧
      (tight.after 9).transcript = "<< >> 7\n>> ".toList := by
  intro source free tight
  have hroom : (free.after 2).transcript.length ≤ 11 := by decide
  have hfull : 11 < (free.after 3).transcript.length := by decide
  obtain ⟨_, hsame, hcut⟩ :=
    cut_short_when_full [3, 20, 4, 20, 104, 12345, 99] 64 source false 11
  obtain ⟨hbefore, hafter⟩ := hsame 2 hroom
  obtain ⟨houtcome, hlast, hstays⟩ := hcut 2 hroom hfull
  refine ⟨hroom, hfull, ?_, ?_, houtcome, ?_⟩
  · rw [hafter]
    decide
  · rw [hbefore 1 (by decide)]
    decide
  · rw [(hstays 9 (by decide)).2, hlast]
    decide

end Machine

end IntcodeMachine
