import Reframe.Report.Record
import Reframe.Report.Table
import Reframe.Text.UpperCase

/-
  This file defines how records and summaries are printed.

  Key definitions include:
    * `OutputFormat`
    * `OutputFormat.frame`
    * `OutputFormat.summary`
-/

namespace Reframe

/- How records and summaries are printed. -/
inductive OutputFormat where
/- A JSON object a line. -/
| json
/- A table each. -/
| table
/- A line for a reader each. -/
| pretty
/- The bytes of the frames, and nothing else. -/
| raw
deriving DecidableEq, Repr

namespace OutputFormat

def ofName? : String → Option OutputFormat
| "json" => some .json
| "table" => some .table
| "pretty" => some .pretty
| "raw" => some .raw
| _ => none

def frameTable
    (r : FrameRecord) : Table where
  header := ["SEQ", "SIZE", "DIMENSIONS", "FORMAT", "SOURCE"]
  rows :=
    [[toString r.sequence, toString r.data.length,
      r.dimensions, r.format, r.source]]

def frameLine
    (r : FrameRecord) : String :=
  s!"frame #{r.sequence} {r.data.length} bytes " ++
    s!"{r.dimensions} {r.format} from {r.source}\n"

/- The printed form of a frame. -/
def frame
    (f : OutputFormat)
    (r : FrameRecord) : Bytes :=
  match f with
  | .json => .ofText (r.json.compact ++ "\n")
  | .table => .ofText (frameTable r).render
  | .pretty => .ofText (frameLine r)
  | .raw => r.data

def summaryTable
    (s : Summary) : Table where
  header := [Text.upperCase s.title, "VALUE"]
  rows := s.fields.map (fun f => [f.1, f.2.compact])

def summaryLine
    (s : Summary) : String :=
  s.title ++ ":" ++
    String.join
      (s.fields.map
        (fun f => " " ++ f.1 ++ "=" ++ f.2.compact)) ++
    "\n"

/- The printed form of a summary. -/
def summary
    (f : OutputFormat)
    (s : Summary) : Bytes :=
  match f with
  | .json => .ofText (s.json.compact ++ "\n")
  | .table => .ofText (summaryTable s).render
  | .pretty => .ofText (summaryLine s)
  | .raw => []

end OutputFormat

end Reframe
