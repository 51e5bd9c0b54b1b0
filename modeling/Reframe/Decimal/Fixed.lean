import Reframe.Decimal.Binary

/-
  This file defines the rounding of fractions to a fixed
  number of decimals.
-/

namespace Reframe

namespace Decimal

/-
  The whole number nearest to a fraction.  Of two that are
  equally near, it is the even one.
-/
def roundDiv
    (num den : Nat) : Nat :=
  let whole := num / den
  let rest := num % den
  if 2 * rest < den then whole
  else if den < 2 * rest then whole + 1
  else if whole % 2 = 0 then whole
  else whole + 1

/- A number in at least the given number of digits. -/
def padded
    (places n : Nat) : List Char :=
  let ds := Nat.toDigits 10 n
  List.replicate (places - ds.length) '0' ++ ds

/-
  The magnitude of a number with a fixed, positive number of
  decimals.
-/
def fixed
    (places : Nat)
    (x : Binary64) : String :=
  let unit := Nat.pow 10 places
  let n := roundDiv (x.numerator * unit) x.denominator
  toString (n / unit) ++ "." ++
    String.ofList (padded places (n % unit))

end Decimal

end Reframe
