/-
  This file defines the exact value of a binary floating
  point number of 64 bits.
-/

namespace Reframe

/-
  A finite number: its sign, a whole number and the power of
  two that it is multiplied by.  `isLowest` tells that the
  number below it lies only half as far away.
-/
structure Binary64 where
  negative : Bool
  mantissa : Nat
  exponent : Int
  isLowest : Bool
deriving DecidableEq, Repr

namespace Binary64

/- The weight of the bit in front of the fraction. -/
def leadingBit : Nat :=
  4503599627370496

/- The weight of the sign. -/
def signBit : Nat :=
  9223372036854775808

/- The exact value of the number with given bits. -/
def ofBits
    (bits : UInt64) : Binary64 :=
  let n : Nat := bits.toNat
  let fraction : Nat := n % leadingBit
  let power : Nat := n / leadingBit % 2048
  let negative := decide (signBit ≤ n)
  if power = 0 then ⟨negative, fraction, -1074, false⟩
  else
    ⟨negative, fraction + leadingBit, (power : Int) - 1075,
      decide (fraction = 0 ∧ 1 < power)⟩

/- Two to the exponent, if that is a whole number. -/
def scaleUp
    (x : Binary64) : Nat :=
  Nat.pow 2 x.exponent.toNat

/- Two to the exponent made positive, if it is negative. -/
def denominator
    (x : Binary64) : Nat :=
  Nat.pow 2 (-x.exponent).toNat

/- The magnitude is this over the denominator. -/
def numerator
    (x : Binary64) : Nat :=
  x.mantissa * x.scaleUp

end Binary64

end Reframe
