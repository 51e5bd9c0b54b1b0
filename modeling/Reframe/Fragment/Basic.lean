import Reframe.Bytes

/-
  This file defines fragments: the slices of frames that
  travel in one datagram each.
-/

namespace Reframe

/-
  One datagram's slice of a frame: the frame it belongs to,
  its place among the frame's fragments, their number, and
  the bytes of the slice.  Frame numbers go up by one per
  frame and wrap.
-/
structure Fragment where
  frameId : UInt32
  index : UInt16
  count : UInt16
  payload : Bytes
deriving DecidableEq, Repr

namespace Fragment

/-
  The size of a header: frame number, index and count of
  fragments, and payload length.
-/
def headerSize : Nat :=
  12

def wireSize
    (f : Fragment) : Nat :=
  headerSize + f.payload.length

/- The header of a fragment, all words little-endian. -/
def header
    (f : Fragment) : Bytes :=
  Bytes.ofWord32 f.frameId ++
    Bytes.ofWord16 f.index ++
    Bytes.ofWord16 f.count ++
    Bytes.ofWord32 (UInt32.ofNat f.payload.length)

/- The datagram that carries a fragment. -/
def wire
    (f : Fragment) : Bytes :=
  f.header ++ f.payload

@[simp]
theorem length_header
    (f : Fragment) :
    f.header.length = headerSize := by
  simp [header, headerSize]

@[simp]
theorem length_wire
    (f : Fragment) :
    f.wire.length = f.wireSize := by
  simp [wire, wireSize]

end Fragment

end Reframe
