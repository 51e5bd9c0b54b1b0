import Reframe.FrameError
import Reframe.Text.Blank

/- This file defines the codecs that a service can stream. -/

namespace Reframe

/- How the frames of a stream are compressed. -/
inductive VideoCodec where
/- Every frame is a picture of its own. -/
| mjpeg
/- Frames build on the frames in front of them. -/
| h264
deriving DecidableEq, Repr

namespace VideoCodec

def standard : VideoCodec :=
  .mjpeg

/- The name of a codec in requests. -/
def name : VideoCodec → String
| .mjpeg => "mjpeg"
| .h264 => "h264"

/-
  A lost frame can spoil the frames behind it, so that it
  helps to ask for a new reference frame.
-/
def UsesReferenceFrames
    (c : VideoCodec) : Prop :=
  c = .h264

instance
    (c : VideoCodec) :
    Decidable c.UsesReferenceFrames := by
  unfold UsesReferenceFrames
  infer_instance

/- The form of a name that is looked up. -/
def canonicalName
    (s : String) : String :=
  String.ofList
    ((Text.trim s.toList).map Char.toLower)

/-
  The codec of a name.  White space around it and the case
  of its letters do not matter.
-/
def ofName
    (s : String) : Except FrameError VideoCodec :=
  let wanted := canonicalName s
  if wanted = "mjpeg" ∨ wanted = "jpeg" then .ok .mjpeg
  else if wanted = "h264" ∨ wanted = "avc" then .ok .h264
  else .error (.unknownCodec wanted)

end VideoCodec

end Reframe
