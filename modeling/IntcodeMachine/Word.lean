/-!
# Words

A cell, an address, a register and an input or output value are all one word: a signed
64-bit integer.  Arithmetic on words is exact.  The operations below compute the integer
result and refuse it when it is no word, so nothing ever wraps around.

* `Word.ofInt?_eq_some_iff`: an integer is accepted exactly when it is the value of the word
  returned.
* `Word.add?_eq_some_iff`, `Word.sub?_eq_some_iff`, `Word.mul?_eq_some_iff`: a result is
  accepted exactly when it is the word with the exact value.
-/

namespace IntcodeMachine

/-- A machine word: a signed 64-bit integer. -/
abbrev Word := Int64

namespace Word

/-- Whether an integer is the value of some word. -/
def InRange (n : Int) : Prop := -0x8000000000000000 ≤ n ∧ n < 0x8000000000000000

instance (n : Int) : Decidable (InRange n) :=
  inferInstanceAs (Decidable (-0x8000000000000000 ≤ n ∧ n < 0x8000000000000000))

/-- The word of value `n`, if there is one. -/
def ofInt? (n : Int) : Option Word :=
  if InRange n then some (Int64.ofInt n) else none

/-- The exact sum, if it is a word. -/
def add? (a b : Word) : Option Word := ofInt? (a.toInt + b.toInt)

/-- The exact difference, if it is a word. -/
def sub? (a b : Word) : Option Word := ofInt? (a.toInt - b.toInt)

/-- The exact product, if it is a word. -/
def mul? (a b : Word) : Option Word := ofInt? (a.toInt * b.toInt)

/-- The truth value of a comparison as a word: 1 for true and 0 for false. -/
def ofBool (b : Bool) : Word := if b then 1 else 0

theorem lt_zero_iff {a : Word} : a < 0 ↔ a.toInt < 0 := by
  rw [Int64.lt_iff_toInt_lt]
  rfl

theorem inRange_toInt (a : Word) : InRange a.toInt :=
  ⟨Int64.le_toInt a, Int64.toInt_lt a⟩

/-- The word made from an integer in range has that integer as its value. -/
theorem toInt_ofInt_of_inRange {n : Int} (h : InRange n) : (Int64.ofInt n).toInt = n :=
  Int64.toInt_ofInt_of_le h.1 h.2

theorem ofInt?_eq_some_iff {n : Int} {w : Word} : ofInt? n = some w ↔ w.toInt = n := by
  constructor
  · intro h
    by_cases hn : InRange n
    · rw [ofInt?, if_pos hn, Option.some.injEq] at h
      rw [← h, toInt_ofInt_of_inRange hn]
    · rw [ofInt?, if_neg hn] at h
      cases h
  · intro h
    subst h
    rw [ofInt?, if_pos (inRange_toInt w), Int64.ofInt_toInt]

theorem ofInt?_eq_none_iff {n : Int} : ofInt? n = none ↔ ¬ InRange n := by
  simp [ofInt?]

@[simp]
theorem ofInt?_toInt (w : Word) : ofInt? w.toInt = some w :=
  ofInt?_eq_some_iff.mpr rfl

theorem add?_eq_some_iff {a b c : Word} : add? a b = some c ↔ c.toInt = a.toInt + b.toInt :=
  ofInt?_eq_some_iff

theorem sub?_eq_some_iff {a b c : Word} : sub? a b = some c ↔ c.toInt = a.toInt - b.toInt :=
  ofInt?_eq_some_iff

theorem mul?_eq_some_iff {a b c : Word} : mul? a b = some c ↔ c.toInt = a.toInt * b.toInt :=
  ofInt?_eq_some_iff

end Word

end IntcodeMachine
