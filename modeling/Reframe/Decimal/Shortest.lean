import Reframe.Decimal.Binary

/-
  This file defines the shortest decimals of floating point
  numbers: the fewest digits that are read back as the same
  number, and of those the nearest to it.

  Key definitions include:
    * `Decimal.Digits`
    * `Decimal.Span`
    * `Decimal.shortest`
    * `Decimal.text`
-/

namespace Reframe

namespace Decimal

------------------------------------------------------------
-- Spans
------------------------------------------------------------

/- The decimal `digits * 10 ^ power`. -/
structure Digits where
  digits : Nat
  power : Int
deriving DecidableEq, Repr

/-
  A positive number and the numbers that are read back as
  it, all over one denominator: they lie between `low` and
  `high`, which belong to them if `closed`.
-/
structure Span where
  low : Nat
  value : Nat
  high : Nat
  den : Nat
  closed : Bool
deriving DecidableEq, Repr

namespace Span

/- The span of a positive number. -/
def ofBinary
    (x : Binary64) : Span :=
  let s := x.scaleUp
  let m := 4 * x.mantissa
  { low := (m - (if x.isLowest then 1 else 2)) * s
    value := m * s
    high := (m + 2) * s
    den := 4 * x.denominator
    closed := decide (x.mantissa % 2 = 0) }

/-
  Counts in units of `10 ^ power` become counts in units of
  one over the denominator, both scaled by powers of ten.
-/
def gridUnit
    (s : Span)
    (power : Int) : Nat :=
  s.den * Nat.pow 10 power.toNat

/- The factor that makes up for a negative power. -/
def gridScale
    (power : Int) : Nat :=
  Nat.pow 10 (-power).toNat

/- The point `n * 10 ^ power` is read back as the number. -/
def Holds
    (s : Span)
    (power : Int)
    (n : Nat) : Prop :=
  let x := n * s.gridUnit power
  let k := gridScale power
  if s.closed then s.low * k ≤ x ∧ x ≤ s.high * k
  else s.low * k < x ∧ x < s.high * k

instance
    (s : Span)
    (power : Int)
    (n : Nat) :
    Decidable (s.Holds power n) := by
  unfold Holds
  dsimp only
  split <;> infer_instance

/-
  The nearer of the two neighbours of the number among the
  points `n * 10 ^ power`, if one is read back as it.
-/
def pick?
    (s : Span)
    (power : Int) : Option Digits :=
  let unit := s.gridUnit power
  let value := s.value * gridScale power
  let below := value / unit
  let above := below + 1
  let rest := value % unit
  let upFirst :=
    decide (unit < 2 * rest ∨
      (2 * rest = unit ∧ below % 2 = 1))
  let first := if upFirst then above else below
  let second := if upFirst then below else above
  if s.Holds power first then some ⟨first, power⟩
  else if s.Holds power second then some ⟨second, power⟩
  else none

/- The first hit among powers that go down one by one. -/
def pickFrom
    (s : Span)
    (power : Int) : Nat → Option Digits
| 0 => none
| n + 1 =>
    match s.pick? power with
    | some d => some d
    | none => pickFrom s (power - 1) n

end Span

------------------------------------------------------------
-- Shortest Decimals
------------------------------------------------------------

/- The power of ten that begins above every double. -/
def highestPower : Int :=
  309

/- How many powers of ten there are for doubles. -/
def powerCount : Nat :=
  650

/- Drop zeros at the end of the digits. -/
def dropZeros : Nat → Digits → Digits
| 0, d => d
| n + 1, d =>
    if d.digits % 10 = 0 ∧ 0 < d.digits then
      dropZeros n ⟨d.digits / 10, d.power + 1⟩
    else d

/-
  The shortest decimal of a positive number: that on the
  coarsest grid of powers of ten which has one.
-/
def shortest
    (x : Binary64) : Digits :=
  let s := Span.ofBinary x
  match s.pickFrom highestPower powerCount with
  | some d => dropZeros 20 d
  | none => ⟨0, 0⟩

------------------------------------------------------------
-- Written Form
------------------------------------------------------------

def zeros
    (n : Nat) : List Char :=
  List.replicate n '0'

/- The power of ten behind digits, always with its sign. -/
def exponentText
    (power : Int) : List Char :=
  let sign := if 0 ≤ power then '+' else '-'
  sign :: Nat.toDigits 10 power.natAbs

/- Digits with an exponent behind them. -/
def scientific
    (ds : List Char)
    (point : Int) : List Char :=
  let exponent := exponentText (point - 1)
  match ds with
  | d :: [] => d :: 'e' :: exponent
  | d :: rest => d :: '.' :: rest ++ 'e' :: exponent
  | [] => []

/-
  The written form of a decimal: with a point as long as its
  place is from four zeros in front of the digits up to the
  sixteenth digit, otherwise with an exponent.
-/
def written
    (d : Digits) : List Char :=
  let ds := Nat.toDigits 10 d.digits
  let point := (ds.length : Int) + d.power
  if 0 ≤ d.power ∧ point ≤ 16 then
    ds ++ zeros d.power.toNat ++ ['.', '0']
  else if 0 < point ∧ point ≤ 16 then
    ds.take point.toNat ++ '.' :: ds.drop point.toNat
  else if -5 < point ∧ point ≤ 0 then
    '0' :: '.' :: zeros (-point).toNat ++ ds
  else scientific ds point

/- The written form of a finite number. -/
def text
    (x : Binary64) : String :=
  let sign := if x.negative then ['-'] else []
  if x.mantissa = 0 then
    String.ofList (sign ++ ['0', '.', '0'])
  else String.ofList (sign ++ written (shortest x))

end Decimal

end Reframe
