/-
  This file defines lengths of time and their written form.

  A length of time is written in the largest of seconds,
  milliseconds, microseconds and nanoseconds that makes its
  whole part positive, with the decimals that are needed.

  Key definitions include:
    * `Duration`
    * `Duration.ofSeconds`
    * `Duration.ofMillis`
    * `Duration.InRange`
    * `Duration.text`
-/

namespace Reframe

/- A length of time in nanoseconds. -/
structure Duration where
  nanos : Nat
deriving DecidableEq, Repr

namespace Duration

def ofSeconds
    (n : Nat) : Duration :=
  ⟨n * 1000000000⟩

def ofMillis
    (n : Nat) : Duration :=
  ⟨n * 1000000⟩

/- The whole seconds. -/
def seconds
    (d : Duration) : Nat :=
  d.nanos / 1000000000

/- The whole seconds are a number of 64 bits. -/
def InRange
    (d : Duration) : Prop :=
  d.seconds ≤ 18446744073709551615

instance
    (d : Duration) :
    Decidable d.InRange := by
  unfold InRange
  infer_instance

/- The nanoseconds past the whole seconds. -/
def subNanos
    (d : Duration) : Nat :=
  d.nanos % 1000000000

def millis
    (d : Duration) : Nat :=
  d.nanos / 1000000

/- The given number of decimals, with zeros in front. -/
def decimals
    (places : Nat)
    (n : Nat) : List Char :=
  let ds := Nat.toDigits 10 n
  List.replicate (places - ds.length) '0' ++ ds

def dropTrailingZeros
    (cs : List Char) : List Char :=
  (cs.reverse.dropWhile (fun c => c = '0')).reverse

/-
  A number of nanoseconds in a unit of `10 ^ places`
  nanoseconds.
-/
def inUnit
    (places : Nat)
    (unitName : String)
    (n : Nat) : String :=
  let unit := Nat.pow 10 places
  let whole := toString (n / unit)
  let fraction :=
    dropTrailingZeros (decimals places (n % unit))
  if fraction = [] then whole ++ unitName
  else
    whole ++ "." ++ String.ofList fraction ++ unitName

def text
    (d : Duration) : String :=
  if 1000000000 ≤ d.nanos then inUnit 9 "s" d.nanos
  else if 1000000 ≤ d.nanos then inUnit 6 "ms" d.nanos
  else if 1000 ≤ d.nanos then inUnit 3 "µs" d.nanos
  else inUnit 0 "ns" d.nanos

end Duration

end Reframe
