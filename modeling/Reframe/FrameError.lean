import Reframe.Fragment.Basic
import Reframe.IoError
import Reframe.Text.Quoted

/-
  This file defines what can go wrong with fragments, with
  frames and with the streams that carry them.

  Key definitions include:
    * `FrameError`
    * `FrameError.message`
    * `FrameError.IsMalformedFragment`
-/

namespace Reframe

/- Why a fragment, a frame or a stream of frames failed. -/
inductive FrameError where
/- The datagram is too short to hold a header. -/
| malformedHeader (length : Nat)
/- The bytes after the header are not as many as declared. -/
| lengthMismatch (declared : UInt32) (actual : Nat)
/- The index is not below the count. -/
| indexOutOfRange (index count : UInt16)
/- The fragment announces a frame of no fragments. -/
| emptyFrame
/- The fragment and the live frame disagree on the count. -/
| countMismatch
    (frameId : UInt32) (expected actual : UInt16)
/- The frame or payload has more bytes than can be sent. -/
| payloadTooLarge (size limit : Nat)
| unknownCodec (name : String)
/- Reading chunks or sending datagrams failed. -/
| io (source : IoError)
/- The stream ended before a frame was complete. -/
| connectionClosed
deriving DecidableEq, Repr

namespace FrameError

def message : FrameError → String
| .malformedHeader length =>
    s!"malformed fragment header ({length} bytes, " ++
      s!"need {Fragment.headerSize})"
| .lengthMismatch declared actual =>
    s!"fragment length mismatch (declared {declared}, " ++
      s!"actual {actual})"
| .indexOutOfRange index count =>
    s!"fragment index {index} out of range " ++
      s!"for {count} fragments"
| .emptyFrame =>
    "fragment declares an empty frame (fragment count 0)"
| .countMismatch frameId expected actual =>
    s!"frame {frameId} fragment count changed " ++
      s!"({expected} -> {actual})"
| .payloadTooLarge size limit =>
    s!"payload too large ({size} bytes, max {limit})"
| .unknownCodec name =>
    "unknown codec " ++ Text.quoted name ++
      " (expected \"mjpeg\" or \"h264\")"
| .io source => "frame I/O error: " ++ source.text
| .connectionClosed =>
    "connection closed (incomplete frame)"

/-
  The failure concerns a single fragment, which receivers
  drop without further ado.
-/
def IsMalformedFragment : FrameError → Prop
| .malformedHeader _ => True
| .lengthMismatch _ _ => True
| .indexOutOfRange _ _ => True
| .emptyFrame => True
| .countMismatch _ _ _ => True
| .payloadTooLarge _ _ => False
| .unknownCodec _ => False
| .io _ => False
| .connectionClosed => False

instance
    (e : FrameError) :
    Decidable e.IsMalformedFragment := by
  cases e <;> unfold IsMalformedFragment <;> infer_instance

end FrameError

end Reframe
