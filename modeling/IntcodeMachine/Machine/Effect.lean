import IntcodeMachine.Machine.Fetch

/-!
# The effect of an instruction

Between fetching and acting, an instruction is turned into its effect.  Operands are read
from left to right, then the destination is resolved, then the result is computed; the first
of these that fails is the fault.  An effect holds values and addresses only, so all reading
is done before anything is written.

* `Fetched.effect_ne_malformed`: an instruction with as many parameters as its operation
  takes is never refused for its parameters.
-/

namespace IntcodeMachine

/-- What an instruction is about to do. -/
inductive Effect where
  /-- Write a value to an address. -/
  | store (address value : Word)
  /-- Write the next input value to an address. -/
  | deliver (address : Word)
  /-- Hand a value to the output. -/
  | receive (value : Word)
  /-- Go to an address. -/
  | goto (target : Word)
  /-- Go on with the next instruction. -/
  | proceed
  /-- Set the relative base. -/
  | rebase (base : Word)
  /-- Stop. -/
  | halt
  deriving DecidableEq, Repr

namespace Fetched

/-- The overflow of an instruction. -/
def overflow (f : Fetched) : Fault := .overflow f.pc f.raw

/-- A result of exact arithmetic, or the overflow of the instruction. -/
def exact (f : Fetched) : Option Word → Except Fault Word
  | some w => .ok w
  | none => .error f.overflow

/-- The value of a parameter that is read. -/
def operand (f : Fetched) (memory : Memory) (base : Word) (p : Parameter) : Except Fault Word :=
  match p.mode with
  | .position => memory.load p.value
  | .immediate => .ok p.value
  | .relative => do memory.load (← f.exact (Word.add? p.value base))

/-- The address of a parameter that is written. -/
def destination (f : Fetched) (base : Word) (p : Parameter) : Except Fault Word :=
  match p.mode with
  | .position => .ok p.value
  | .immediate => .error (.immediateDestination f.pc f.raw)
  | .relative => f.exact (Word.add? p.value base)

/-- The effect of an operation that stores a combination of two operands. -/
def combination (f : Fetched) (memory : Memory) (base : Word)
    (combine : Word → Word → Option Word) (first second target : Parameter) :
    Except Fault Effect := do
  let a ← f.operand memory base first
  let b ← f.operand memory base second
  let address ← f.destination base target
  let value ← f.exact (combine a b)
  return .store address value

/-- The effect of an operation that may go elsewhere.  The target is read even if it is not
needed. -/
def branch (f : Fetched) (memory : Memory) (base : Word) (condition target : Parameter) :
    Except Fault Effect := do
  let c ← f.operand memory base condition
  let t ← f.operand memory base target
  return if f.opcode.branches c then .goto t else .proceed

/-- The effect of an instruction. -/
def effect (f : Fetched) (memory : Memory) (base : Word) : Except Fault Effect :=
  match f.opcode, f.parameters with
  | .add, [a, b, d] => f.combination memory base Word.add? a b d
  | .multiply, [a, b, d] => f.combination memory base Word.mul? a b d
  | .lessThan, [a, b, d] =>
      f.combination memory base (fun x y => some (Word.ofBool (x < y))) a b d
  | .equals, [a, b, d] =>
      f.combination memory base (fun x y => some (Word.ofBool (x = y))) a b d
  | .input, [d] => return .deliver (← f.destination base d)
  | .output, [a] => return .receive (← f.operand memory base a)
  | .jumpIfTrue, [c, t] => f.branch memory base c t
  | .jumpIfFalse, [c, t] => f.branch memory base c t
  | .relativeBaseOffset, [a] => do
      let offset ← f.operand memory base a
      return .rebase (← f.exact (Word.add? base offset))
  | .halt, [] => .ok .halt
  | _, _ => .error (.malformed f.pc f.raw)

/-- How far the next instruction lies from this one. -/
def width (f : Fetched) : Word := Int64.ofNat (f.opcode.arity + 1)

/-- What is reported of an instruction that is about to take effect. -/
def events (f : Fetched) : List Event :=
  let execute := .execute f.pc f.raw f.opcode (f.parameters.map Parameter.value)
  if f.opcode = .halt then [execute, .halted f.pc] else [execute]

theorem toInt_width (f : Fetched) : f.width.toInt = f.opcode.arity + 1 := by
  unfold width
  cases f.opcode <;> decide

theorem exact_eq_ok_iff {f : Fetched} {result : Option Word} {w : Word} :
    f.exact result = .ok w ↔ result = some w := by
  cases result <;> simp [exact]

theorem exact_eq_error_iff {f : Fetched} {result : Option Word} {fault : Fault} :
    f.exact result = .error fault ↔ result = none ∧ fault = f.overflow := by
  cases result <;> simp [exact, eq_comm]

/-- Two steps of a computation raise no fault that neither of them raises. -/
private theorem bind_ne_error {α β : Type} {fault : Fault} {first : Except Fault α}
    {second : α → Except Fault β} (hfirst : first ≠ .error fault)
    (hsecond : ∀ a, second a ≠ .error fault) : (first >>= second) ≠ .error fault := by
  cases first with
  | error other =>
      intro h
      cases h
      exact hfirst rfl
  | ok a => exact hsecond a

private theorem load_ne_malformed (memory : Memory) (address pc raw : Word) :
    memory.load address ≠ .error (.malformed pc raw) := by
  unfold Memory.load
  cases memory.read address <;> simp

private theorem exact_ne_malformed (f : Fetched) (result : Option Word) (pc raw : Word) :
    f.exact result ≠ .error (.malformed pc raw) := by
  cases result <;> simp [exact, overflow]

private theorem operand_ne_malformed (f : Fetched) (memory : Memory) (base : Word)
    (p : Parameter) (pc raw : Word) :
    f.operand memory base p ≠ .error (.malformed pc raw) := by
  unfold operand
  split
  · exact load_ne_malformed memory p.value pc raw
  · simp
  · exact bind_ne_error (exact_ne_malformed f _ pc raw) fun a =>
      load_ne_malformed memory a pc raw

private theorem destination_ne_malformed (f : Fetched) (base : Word) (p : Parameter)
    (pc raw : Word) : f.destination base p ≠ .error (.malformed pc raw) := by
  unfold destination
  split
  · simp
  · simp
  · exact exact_ne_malformed f _ pc raw

private theorem combination_ne_malformed (f : Fetched) (memory : Memory) (base : Word)
    (combine : Word → Word → Option Word) (a b d : Parameter) (pc raw : Word) :
    f.combination memory base combine a b d ≠ .error (.malformed pc raw) := by
  refine bind_ne_error (operand_ne_malformed f memory base a pc raw) fun x => ?_
  refine bind_ne_error (operand_ne_malformed f memory base b pc raw) fun y => ?_
  refine bind_ne_error (destination_ne_malformed f base d pc raw) fun address => ?_
  exact bind_ne_error (exact_ne_malformed f _ pc raw) fun value h => by cases h

private theorem branch_ne_malformed (f : Fetched) (memory : Memory) (base : Word)
    (c t : Parameter) (pc raw : Word) :
    f.branch memory base c t ≠ .error (.malformed pc raw) := by
  refine bind_ne_error (operand_ne_malformed f memory base c pc raw) fun x => ?_
  exact bind_ne_error (operand_ne_malformed f memory base t pc raw) fun y h => by cases h

/-- An instruction with as many parameters as its operation takes is never refused for its
parameters. -/
theorem effect_ne_malformed {f : Fetched} (h : f.parameters.length = f.opcode.arity)
    (memory : Memory) (base pc raw : Word) :
    f.effect memory base ≠ .error (.malformed pc raw) := by
  unfold effect
  split
  · exact combination_ne_malformed f memory base _ _ _ _ pc raw
  · exact combination_ne_malformed f memory base _ _ _ _ pc raw
  · exact combination_ne_malformed f memory base _ _ _ _ pc raw
  · exact combination_ne_malformed f memory base _ _ _ _ pc raw
  · exact bind_ne_error (destination_ne_malformed f base _ pc raw) fun _ h => by cases h
  · exact bind_ne_error (operand_ne_malformed f memory base _ pc raw) fun _ h => by cases h
  · exact branch_ne_malformed f memory base _ _ pc raw
  · exact branch_ne_malformed f memory base _ _ pc raw
  · refine bind_ne_error (operand_ne_malformed f memory base _ pc raw) fun _ => ?_
    exact bind_ne_error (exact_ne_malformed f _ pc raw) fun _ h => by cases h
  · simp
  · next hadd hmul hless heq hin hout htrue hfalse hbase hhalt =>
    exfalso
    rcases f with ⟨at_, raw', opcode, parameters⟩
    simp only at h hadd hmul hless heq hin hout htrue hfalse hbase hhalt
    cases opcode <;> simp only [Opcode.arity] at h
    all_goals
      obtain _ | ⟨a, _ | ⟨b, _ | ⟨d, _ | ⟨e, rest⟩⟩⟩⟩ := parameters <;>
        simp_all

end Fetched

end IntcodeMachine
