import Reframe.Fragment.Codec

/-
  This file defines how a frame is cut into fragments: into
  slices of a given size, of which only the last may be
  shorter.  An empty frame is one empty fragment.

  Key definitions include:
    * `Fragment.sliceSize`
    * `Fragment.sliceCount`
    * `Fragment.slices`
    * `Fragment.split`
-/

namespace Reframe

namespace Fragment

def countLimit : Nat :=
  65535

/- The size of a slice: at least one byte. -/
def sliceSize
    (mtu : Nat) : Nat :=
  max mtu 1

def sliceCount
    (size mtu : Nat) : Nat :=
  let whole := size / sliceSize mtu
  let started := if size % sliceSize mtu = 0 then 0 else 1
  max (whole + started) 1

/- The most bytes that a frame may have. -/
def splitLimit
    (mtu : Nat) : Nat :=
  countLimit * sliceSize mtu

/- Cut a number of slices off the front of a frame. -/
def slices
    (size : Nat) : Nat → Bytes → List Bytes
| 0, _ => []
| n + 1, data =>
    data.take size :: slices size n (data.drop size)

/-
  Cut a frame into fragments.  A frame that needs more
  fragments than can be numbered is refused.
-/
def split
    (frameId : UInt32)
    (data : Bytes)
    (mtu : Nat) : Except FrameError (List Fragment) :=
  let size := data.length
  let n := sliceCount size mtu
  if countLimit < n then
    .error (.payloadTooLarge size (splitLimit mtu))
  else
    .ok ((slices (sliceSize mtu) n data).mapIdx
      (fun i payload =>
        { frameId := frameId
          index := UInt16.ofNat i
          count := UInt16.ofNat n
          payload := payload }))

end Fragment

end Reframe
