/-
  This file defines membership of a character in a table of
  code point ranges.
-/

namespace Reframe

namespace Text

/- A table of code points: ranges that include both ends. -/
abbrev CodeRanges :=
  List (Nat × Nat)

/- A character lies in one of the ranges. -/
def CodeRanges.Has
    (table : CodeRanges)
    (c : Char) : Prop :=
  ∃ r ∈ table, r.1 ≤ c.toNat ∧ c.toNat ≤ r.2

instance
    (table : CodeRanges)
    (c : Char) :
    Decidable (table.Has c) := by
  unfold CodeRanges.Has
  infer_instance

end Text

end Reframe
