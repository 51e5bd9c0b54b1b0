import Reframe.Decimal.Fixed
import Reframe.Duration

/-
  This file defines points in time and their written form:
  the seconds since the start of 1970, with three decimals.
-/

namespace Reframe

/- A point in time, by its distance from the start of 1970. -/
inductive Timestamp where
| since (d : Duration)
| before (d : Duration)
deriving DecidableEq, Repr

namespace Timestamp

def epoch : Timestamp :=
  .since ⟨0⟩

/-
  The whole seconds are a number of 64 bits, one of them for
  the sign.
-/
def InRange : Timestamp → Prop
| .since d => d.seconds ≤ 9223372036854775807
| .before d => d.nanos ≤ 9223372036854775808000000000

instance
    (t : Timestamp) :
    Decidable t.InRange := by
  cases t <;> unfold InRange <;> infer_instance

/- The seconds of a length of time, as a double. -/
def secondsOf
    (d : Duration) : Float :=
  d.seconds.toUInt64.toFloat +
    d.subNanos.toUInt64.toFloat / 1000000000.0

/-
  The written form of a point in time.  Times before 1970
  are all written as zero, without decimals.
-/
def text : Timestamp → String
| .since d =>
    Decimal.fixed 3
      (Binary64.ofBits (secondsOf d).toBits)
| .before d =>
    if d.nanos = 0 then "0.000" else "0"

end Timestamp

end Reframe
