/-!
# Tables of characters

A property of characters that a standard lists is kept as a table of inclusive ranges of code
points, in ascending order.
-/

namespace SpriteStage

/-- Inclusive ranges of code points. -/
abbrev CharTable := List (Nat × Nat)

namespace CharTable

/-- `c` lies in one of the ranges of the table. -/
def contains (table : CharTable) (c : Char) : Bool :=
  table.any fun range => range.1 ≤ c.toNat && c.toNat ≤ range.2

theorem contains_eq_true_iff {table : CharTable} {c : Char} :
    table.contains c = true ↔ ∃ range ∈ table, range.1 ≤ c.toNat ∧ c.toNat ≤ range.2 := by
  simp [contains]

end CharTable

end SpriteStage
