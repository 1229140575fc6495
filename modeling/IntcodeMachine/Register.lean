import IntcodeMachine.Word

/-!
# Registers

A register holds one word and starts at 0.  It may be set to any word, or moved up or down
by a word; a move that would leave the range of words is refused.
-/

namespace IntcodeMachine

/-- The content of a register. -/
abbrev Register := Word

namespace Register

/-- The register moved up by `n`, unless that leaves the range of words. -/
def inc? (r : Register) (n : Word) : Option Register := Word.add? r n

/-- The register moved down by `n`, unless that leaves the range of words. -/
def dec? (r : Register) (n : Word) : Option Register := Word.sub? r n

theorem inc?_eq_some_iff {r s : Register} {n : Word} :
    inc? r n = some s ↔ s.toInt = r.toInt + n.toInt :=
  Word.add?_eq_some_iff

theorem dec?_eq_some_iff {r s : Register} {n : Word} :
    dec? r n = some s ↔ s.toInt = r.toInt - n.toInt :=
  Word.sub?_eq_some_iff

end Register

end IntcodeMachine
