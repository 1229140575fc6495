/-!
# Places in a text

A place in a text is counted in the bytes that the text before it takes.

* `takeBytes_append`, `dropBytes_append`: a text falls apart at the place where its second part
  starts.
-/

namespace IntcodeMachine.Text

/-- The number of bytes that a text takes. -/
def byteLength : List Char → Nat
  | [] => 0
  | c :: cs => c.utf8Size + byteLength cs

/-- The characters that start before a place. -/
def takeBytes : Nat → List Char → List Char
  | _, [] => []
  | n, c :: cs => if n = 0 then [] else c :: takeBytes (n - c.utf8Size) cs

/-- The characters that start at a place or after it. -/
def dropBytes : Nat → List Char → List Char
  | _, [] => []
  | n, c :: cs => if n = 0 then c :: cs else dropBytes (n - c.utf8Size) cs

/-- The characters that start from one place on and before another. -/
def cut (text : List Char) (start stop : Nat) : List Char :=
  takeBytes (stop - start) (dropBytes start text)

theorem takeBytes_append (before after : List Char) :
    takeBytes (byteLength before) (before ++ after) = before := by
  induction before with
  | nil => cases after <;> simp [takeBytes, byteLength]
  | cons c cs ih =>
      have hpos := c.utf8Size_pos
      have hne : byteLength (c :: cs) ≠ 0 := by simp only [byteLength]; omega
      have hrest : byteLength (c :: cs) - c.utf8Size = byteLength cs := by
        simp only [byteLength]; omega
      rw [List.cons_append, takeBytes, if_neg hne, hrest, ih]

theorem dropBytes_append (before after : List Char) :
    dropBytes (byteLength before) (before ++ after) = after := by
  induction before with
  | nil => cases after <;> simp [dropBytes, byteLength]
  | cons c cs ih =>
      have hpos := c.utf8Size_pos
      have hne : byteLength (c :: cs) ≠ 0 := by simp only [byteLength]; omega
      have hrest : byteLength (c :: cs) - c.utf8Size = byteLength cs := by
        simp only [byteLength]; omega
      rw [List.cons_append, dropBytes, if_neg hne, hrest, ih]

end IntcodeMachine.Text
