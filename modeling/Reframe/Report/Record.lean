import Reframe.Image.Basic
import Reframe.Json.Basic
import Reframe.Report.Timestamp
import Reframe.Scan.Scanner

/-
  This file defines the records of frames and the summaries
  that commands print.

  Key definitions include:
    * `FrameRecord`
    * `FrameRecord.ofScanned`
    * `FrameRecord.ofImage`
    * `FrameRecord.json`
    * `Summary`
    * `ScanStats.json`
-/

namespace Reframe

------------------------------------------------------------
-- Records Of Frames
------------------------------------------------------------

/-
  The record of a frame: where it comes from, its number,
  its size in pixels, if known, its format, when it was
  there, and its bytes.
-/
structure FrameRecord where
  source : String
  sequence : Nat
  size : Option (Nat × Nat)
  format : String
  timestamp : String
  data : Bytes
deriving DecidableEq, Repr

namespace FrameRecord

/- The record of a frame cut out of a stream. -/
def ofScanned
    (source : String)
    (timestamp : Timestamp)
    (f : ScannedFrame) : FrameRecord where
  source := source
  sequence := f.sequence
  size := none
  format := "jpeg"
  timestamp := timestamp.text
  data := f.data

def ofImage
    (source : String)
    (sequence : Nat)
    (timestamp : String)
    (image : Image) : FrameRecord where
  source := source
  sequence := sequence
  size :=
    match image.format with
    | .compressed => none
    | .rgb8 => some (image.width, image.height)
  format := image.format.name
  timestamp := timestamp
  data := image.data

/- The written form of the size in pixels. -/
def dimensions
    (r : FrameRecord) : String :=
  match r.size with
  | none => "-"
  | some (width, height) => s!"{width}x{height}"

/- The fields of the size in pixels. -/
def sizeFields
    (r : FrameRecord) : List (String × Json) :=
  match r.size with
  | none => []
  | some (width, height) =>
      [("width", .ofNat width), ("height", .ofNat height)]

/- The record as a JSON object, without the bytes. -/
def json
    (r : FrameRecord) : Json :=
  .object
    ([("event", .text "frame"),
      ("source", .text r.source),
      ("sequence", .ofNat r.sequence),
      ("size", .ofNat r.data.length)] ++
      r.sizeFields ++
      [("format", .text r.format),
        ("timestamp", .text r.timestamp)])

end FrameRecord

------------------------------------------------------------
-- Summaries
------------------------------------------------------------

/- A summary: its title, and fields sorted by name. -/
structure Summary where
  title : String
  fields : List (String × Json)
deriving Repr

namespace Summary

/-
  The summary of a value.  A value that is no object becomes
  the only field.
-/
def ofJson
    (title : String)
    (value : Json) : Summary where
  title := title
  fields :=
    match value.sorted with
    | .object fields => fields
    | v => [("value", v)]

/-
  The summary as a JSON object.  The title is a field like
  the others, and gives way to one of its name.
-/
def json
    (s : Summary) : Json :=
  .object
    (Json.sortFields (("event", .text s.title) :: s.fields))

end Summary

/- The counts of a search as a JSON object. -/
def ScanStats.json
    (s : ScanStats) : Json :=
  .object
    [("frames", .ofNat s.frames),
      ("discarded_bytes", .ofNat s.discardedBytes),
      ("oversized", .ofNat s.oversized)]

end Reframe
