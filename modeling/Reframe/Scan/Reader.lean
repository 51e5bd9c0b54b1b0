import Reframe.ByteSource
import Reframe.FrameError
import Reframe.Scan.Scanner

/-
  This file defines readers: they read a source in chunks
  and hand out the frames in it.  What is left of a frame
  when the source ends is dropped.

  Key definitions include:
    * `FrameReader`
    * `FrameReader.ofSource`
    * `FrameReader.HasBuffer`
    * `FrameReader.read`
    * `FrameReader.cutOff`
    * `FrameReader.close`
    * `FrameReader.readUpTo`
    * `FrameReader.readAll`
    * `FrameReader.describe`
-/

namespace Reframe

------------------------------------------------------------
-- Readers
------------------------------------------------------------

/- The number of bytes that are read at once by default. -/
def defaultChunkSize : Nat :=
  4096

/-
  A reader: what its next reads will yield, the scanner that
  takes the chunks, the size of a chunk, and whether the
  source has ended.
-/
structure FrameReader where
  pending : List Arrival
  scanner : Scanner := {}
  chunkSize : Nat := defaultChunkSize
  ended : Bool := false

/- What one call came to. -/
abbrev ReadResult :=
  Except FrameError (Option ScannedFrame)

namespace FrameReader

/- Read a source in chunks of at least one byte. -/
def ofSource
    (source : ByteSource)
    (maxFrameSize chunkSize : Nat) : FrameReader where
  pending := source.arrivals (max chunkSize 1)
  scanner := Scanner.withLimit maxFrameSize
  chunkSize := max chunkSize 1

/- A chunk fits in a buffer. -/
def HasBuffer
    (r : FrameReader) : Prop :=
  Bytes.FitBuffer r.chunkSize

instance
    (r : FrameReader) :
    Decidable r.HasBuffer := by
  unfold HasBuffer
  infer_instance

/- Counts over the life of the reader. -/
def stats
    (r : FrameReader) : ScanStats :=
  r.scanner.stats

/- The source has ended. -/
def finish
    (r : FrameReader)
    (pending : List Arrival) : FrameReader :=
  { r with
    pending := pending
    scanner := r.scanner.clear
    ended := true }

/-
  Read chunks until one of them completes a frame.  An
  interrupted read is made again, and the end of the source
  drops what is left of a frame.
-/
def readMore
    (r : FrameReader) :
    List Arrival → ReadResult × FrameReader
| [] => (.ok none, r.finish [])
| .ok [] :: rest => (.ok none, r.finish rest)
| .ok chunk :: rest =>
    match (r.scanner.push chunk).next with
    | (some f, scanner) =>
        (.ok (some f),
          { r with pending := rest, scanner := scanner })
    | (none, scanner) =>
        readMore { r with scanner := scanner } rest
| .error e :: rest =>
    if e.kind = .interrupted then readMore r rest
    else (.error (.io e), { r with pending := rest })

/-
  Hand out the next frame, reading on only when no complete
  one is at hand.
-/
def read
    (r : FrameReader) : ReadResult × FrameReader :=
  match r.scanner.next with
  | (some f, scanner) =>
      (.ok (some f), { r with scanner := scanner })
  | (none, scanner) =>
      let r := { r with scanner := scanner }
      if r.ended then (.ok none, r)
      else readMore r r.pending

/- Nothing more is to be read, while what was read stays. -/
def cutOff
    (r : FrameReader) : FrameReader :=
  { r with pending := [] }

/- Stop reading.  No further frames are handed out. -/
def close
    (r : FrameReader) : FrameReader :=
  r.finish []

------------------------------------------------------------
-- Progress
------------------------------------------------------------

/- Reading on to a frame uses reads up. -/
theorem length_pending_lt_of_readMore
    {r after : FrameReader}
    {f : ScannedFrame}
    {as : List Arrival}
    (h : r.readMore as = (.ok (some f), after)) :
    after.pending.length < as.length := by
  fun_induction readMore r as with
  | case1 => simp at h
  | case2 => simp at h
  | case3 r rest chunk _ g scanner hn =>
      simp only [Prod.mk.injEq] at h
      rw [← h.2]
      simp
  | case4 r rest chunk _ scanner hn ih =>
      have := ih h
      simp only [List.length_cons]
      omega
  | case5 r e rest _ ih =>
      have := ih h
      simp only [List.length_cons]
      omega
  | case6 => simp at h

/-
  A frame is handed out at the cost of reads or of buffered
  bytes.
-/
theorem progress_of_read
    {r after : FrameReader}
    {f : ScannedFrame}
    (h : r.read = (.ok (some f), after)) :
    after.pending.length < r.pending.length ∨
      (after.pending = r.pending ∧
        after.scanner.buffered < r.scanner.buffered) := by
  unfold read at h
  split at h
  · rename_i g scanner hn
    simp only [Prod.mk.injEq] at h
    right
    rw [← h.2]
    exact ⟨rfl, Scanner.buffered_lt_of_next hn⟩
  · dsimp only at h
    split at h
    · simp at h
    · left
      exact length_pending_lt_of_readMore h

/-
  What the number of frames to come is bounded by: the reads
  that are left, then the bytes at hand.
-/
def measure
    (r : FrameReader) : Nat × Nat :=
  (r.pending.length, r.scanner.buffered)

/- A frame is handed out at the cost of the measure. -/
theorem measure_lt_of_read
    {r after : FrameReader}
    {f : ScannedFrame}
    (h : r.read = (.ok (some f), after)) :
    Prod.Lex (· < ·) (· < ·) after.measure r.measure := by
  rcases progress_of_read h with hlt | heq
  · exact Prod.Lex.left _ _ hlt
  · simp only [measure, heq.1]
    exact Prod.Lex.right _ heq.2

/- Cutting off what is to be read does not undo this. -/
theorem measure_cutOff_lt_of_read
    {r after : FrameReader}
    {f : ScannedFrame}
    (h : r.read = (.ok (some f), after)) :
    Prod.Lex (· < ·) (· < ·) after.cutOff.measure
      r.measure := by
  have hlt := measure_lt_of_read h
  simp only [measure, Prod.lex_def] at hlt
  simp only [measure, cutOff, List.length_nil, Prod.lex_def]
  omega

------------------------------------------------------------
-- Several Frames
------------------------------------------------------------

end FrameReader

/-
  What several calls came to: the frames, the failure that
  ended them, if one did, and the reader after them.
-/
structure ReadRun where
  frames : List ScannedFrame
  failure : Option FrameError
  after : FrameReader

namespace FrameReader

/- Hand out at most a number of frames. -/
def readUpTo
    (r : FrameReader) : Nat → ReadRun
| 0 => ⟨[], none, r⟩
| n + 1 =>
    match r.read with
    | (.error e, after) => ⟨[], some e, after⟩
    | (.ok none, after) => ⟨[], none, after⟩
    | (.ok (some f), after) =>
        let run := after.readUpTo n
        { run with frames := f :: run.frames }

/- Hand out all frames, until there are none or one fails. -/
def readAll
    (r : FrameReader) : ReadRun :=
  match _h : r.read with
  | (.error e, after) => ⟨[], some e, after⟩
  | (.ok none, after) => ⟨[], none, after⟩
  | (.ok (some f), after) =>
      let run := after.readAll
      { run with frames := f :: run.frames }
termination_by r.measure
decreasing_by exact measure_lt_of_read _h

------------------------------------------------------------
-- Diagnostic Form
------------------------------------------------------------

/- The diagnostic form of counts. -/
def describeStats
    (s : ScanStats) : String :=
  s!"ScanStats \x7b frames: {s.frames}, " ++
    s!"discarded_bytes: {s.discardedBytes}, " ++
    s!"oversized: {s.oversized} \x7d"

/- The diagnostic form of a search. -/
def describeSearch
    (s : FrameSearch) : String :=
  "ScanState \x7b config: ScannerConfig \x7b " ++
    s!"max_frame_size: {s.maxFrameSize} \x7d, " ++
    s!"resume_at: {s.resumeAt}, " ++
    s!"stats: {describeStats s.stats} \x7d"

/- The diagnostic form of a scanner. -/
def describeScanner
    (s : Scanner) : String :=
  "BoundaryScanner \x7b " ++
    s!"buf: {Text.quotedBytes s.buffer.toList}, " ++
    s!"state: {describeSearch s.state}, " ++
    s!"next_sequence: {s.nextSequence} \x7d"

/- The diagnostic form of a reader. -/
def describe
    (r : FrameReader) : String :=
  "ScanReader \x7b " ++
    s!"scanner: {describeScanner r.scanner}, " ++
    s!"chunk_size: {r.chunkSize}, eof: {r.ended} \x7d"

end FrameReader

end Reframe
