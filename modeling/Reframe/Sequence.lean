/-
  This file defines how frame numbers follow each other.
  They are counted in 32 bits and wrap, so that of two
  numbers the one that is less than half a lap ahead is the
  newer one.
-/

namespace Reframe

/- Where a number stands beside the one started last. -/
inductive Position where
/- No frame was started yet. -/
| first
/- Newer, with this many numbers in between. -/
| ahead (missing : UInt32)
/- So far back that the sender must have restarted. -/
| restart
/- Already started, or older. -/
| stale
deriving DecidableEq, Repr

namespace Position

/- The distance from one frame number up to another. -/
def distance
    (older newer : UInt32) : UInt32 :=
  newer - older

/- A distance is positive and less than half a lap. -/
def IsForward
    (d : UInt32) : Prop :=
  0 < d.toNat ∧ d.toNat < 2147483648

instance
    (d : UInt32) :
    Decidable (IsForward d) := by
  unfold IsForward
  infer_instance

/-
  The position of a frame number.  A number that is at least
  `window` behind counts as a restart of the sender.
-/
def of
    (window : Option UInt32)
    (last : Option UInt32)
    (frameId : UInt32) : Position :=
  match last with
  | none => .first
  | some previous =>
      let d := distance previous frameId
      if d = 0 then .stale
      else if IsForward d then .ahead (d - 1)
      else
        match window with
        | none => .stale
        | some w =>
            if w ≤ distance frameId previous then .restart
            else .stale

end Position

/-
  One or more frames that never showed up: the frame started
  before them and the frame that revealed the gap.
-/
structure SequenceGap where
  previous : UInt32
  current : UInt32
deriving DecidableEq, Repr

namespace SequenceGap

def missing
    (g : SequenceGap) : UInt32 :=
  g.current - g.previous - 1

end SequenceGap

end Reframe
