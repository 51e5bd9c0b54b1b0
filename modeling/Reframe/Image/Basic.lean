import Reframe.Bytes

/-
  This file defines the pictures that are handed to
  consumers.
-/

namespace Reframe

/- How the bytes of a picture are to be read. -/
inductive PixelFormat where
| compressed
/- Three bytes a pixel: red, green and blue. -/
| rgb8
deriving DecidableEq, Repr

def PixelFormat.name : PixelFormat → String
| .compressed => "compressed"
| .rgb8 => "rgb8"

/-
  A picture.  Of a compressed one, the size is not known and
  given as zero.
-/
structure Image where
  width : Nat
  height : Nat
  format : PixelFormat
  data : Bytes
deriving DecidableEq, Repr

/- The picture of a frame that is not decoded. -/
def Image.compressed
    (data : Bytes) : Image where
  width := 0
  height := 0
  format := .compressed
  data := data

end Reframe
