/- This file defines the reading of whole numbers. -/

namespace Reframe

namespace Numeral

/- A character is a decimal digit of ASCII. -/
def IsDigit
    (c : Char) : Prop :=
  '0' ≤ c ∧ c ≤ '9'

instance
    (c : Char) :
    Decidable (IsDigit c) := by
  unfold IsDigit
  infer_instance

def digit
    (c : Char) : Nat :=
  c.toNat - '0'.toNat

/- The value of a row of digits. -/
def value
    (cs : List Char) : Nat :=
  cs.foldl (fun n c => 10 * n + digit c) 0

/- A row of digits: at least one, and nothing else. -/
def IsDigits
    (cs : List Char) : Prop :=
  cs ≠ [] ∧ ∀ c ∈ cs, IsDigit c

instance
    (cs : List Char) :
    Decidable (IsDigits cs) :=
  @instDecidableAnd _ _ _ (List.decidableBAll IsDigit cs)

def dropPlus : List Char → List Char
| '+' :: cs => cs
| cs => cs

/-
  Read a whole number up to a limit: digits, with or without
  a plus sign in front.
-/
def parse?
    (limit : Nat)
    (cs : List Char) : Option Nat :=
  let ds := dropPlus cs
  if IsDigits ds ∧ value ds ≤ limit then some (value ds)
  else none

end Numeral

end Reframe
