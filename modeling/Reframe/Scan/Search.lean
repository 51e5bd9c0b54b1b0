import Reframe.Scan.Marker

/-
  This file defines the search for the next frame in a
  buffer that grows.

  A frame runs from a start marker to the first end marker
  behind it.  Bytes in front of a start marker are junk.  A
  frame that is still open is kept for later, unless it has
  outgrown the limit; then the search goes on at the next
  start marker inside of it.

  Key definitions include:
    * `ScanStats`
    * `FrameSearch`
    * `FrameSearch.look`
    * `FrameSearch.extract`
-/

namespace Reframe

------------------------------------------------------------
-- Counts
------------------------------------------------------------

/-
  Counts over the life of a search: frames cut out, bytes
  thrown away, and open frames dropped for their size.
-/
structure ScanStats where
  frames : Nat := 0
  discardedBytes : Nat := 0
  oversized : Nat := 0
deriving DecidableEq, Repr

/- The largest frame that is let grow by default. -/
def defaultFrameLimit : Nat :=
  16777216

------------------------------------------------------------
-- Searches
------------------------------------------------------------

/-
  A search: the largest open frame that is kept, where to
  look on for the end marker, and the counts.  While no
  frame is open, `resumeAt` is zero.
-/
structure FrameSearch where
  maxFrameSize : Nat := defaultFrameLimit
  resumeAt : Nat := 0
  stats : ScanStats := {}
deriving DecidableEq, Repr

/-
  What one look at a buffer comes to, with the bytes that
  stay in the buffer and the search after it.
-/
inductive Look where
/- A frame was cut off the front of the buffer. -/
| found (frame : Bytes) (rest : ByteQueue)
    (after : FrameSearch)
/- There is no frame until more bytes arrive. -/
| waiting (rest : ByteQueue) (after : FrameSearch)
/- An open frame was dropped for its size. -/
| dropped (rest : ByteQueue) (after : FrameSearch)
deriving DecidableEq, Repr

namespace FrameSearch

/- Count bytes that are thrown away. -/
def discard
    (s : FrameSearch)
    (n : Nat) : FrameSearch :=
  { s with
    stats :=
      { s.stats with
        discardedBytes := s.stats.discardedBytes + n } }

/- Forget an open frame. -/
def reset
    (s : FrameSearch) : FrameSearch :=
  { s with resumeAt := 0 }

/-
  The number of bytes to keep of a buffer without a start
  marker: a last byte that may be the first of one.
-/
def kept
    (buffer : ByteQueue) : Nat :=
  if buffer.toList.getLast? = some Marker.start.first then 1
  else 0

/- Where the open frame at the front is given up for. -/
def nextStart
    (buffer : ByteQueue) : Nat :=
  (Marker.start.findIn? buffer Marker.size).getD buffer.size

/- Look for the end of the frame that is open. -/
def lookForStop
    (s : FrameSearch)
    (buffer : ByteQueue) : Look :=
  match Marker.stop.findIn? buffer s.resumeAt with
  | some i =>
      let n := i + Marker.size
      .found (buffer.toList.take n) (buffer.drop n)
        { s with
          resumeAt := 0
          stats :=
            { s.stats with frames := s.stats.frames + 1 } }
  | none =>
      if buffer.size ≤ s.maxFrameSize then
        .waiting buffer
          { s with
            resumeAt := max (buffer.size - 1) Marker.size }
      else
        let n := nextStart buffer
        let after := s.reset.discard n
        .dropped (buffer.drop n)
          { after with
            stats :=
              { after.stats with
                oversized := after.stats.oversized + 1 } }

/- Look for a frame once. -/
def look
    (s : FrameSearch)
    (buffer : ByteQueue) : Look :=
  if s.resumeAt = 0 then
    match Marker.start.findIn? buffer 0 with
    | some i =>
        lookForStop
          { s.discard i with resumeAt := Marker.size }
          (buffer.drop i)
    | none =>
        let n := buffer.size - kept buffer
        .waiting (buffer.drop n) (s.discard n)
  else s.lookForStop buffer

------------------------------------------------------------
-- Progress
------------------------------------------------------------

/- Giving an open frame up takes bytes off the buffer. -/
theorem size_lt_of_lookForStop_dropped
    {s after : FrameSearch}
    {buffer rest : ByteQueue}
    (h : s.lookForStop buffer = .dropped rest after) :
    rest.size < buffer.size := by
  unfold lookForStop at h
  split at h
  · simp at h
  · split at h
    · simp at h
    · rename_i hsize
      simp only [Look.dropped.injEq] at h
      rw [← h.1]
      simp only [ByteQueue.drop]
      have hpos : 0 < nextStart buffer := by
        unfold nextStart
        cases hf :
            Marker.start.findIn? buffer Marker.size with
        | none =>
            simp only [Option.getD_none]
            omega
        | some i =>
            have := (Marker.findIn?_bounds hf).1
            simp only [Marker.size] at this
            simp only [Option.getD_some]
            omega
      omega

/- A frame that is cut off takes bytes off the buffer. -/
theorem size_lt_of_lookForStop_found
    {s after : FrameSearch}
    {buffer rest : ByteQueue}
    {frame : Bytes}
    (h : s.lookForStop buffer = .found frame rest after) :
    rest.size < buffer.size := by
  unfold lookForStop at h
  split at h
  · rename_i i hf
    simp only [Look.found.injEq] at h
    rw [← h.2.1]
    have := (Marker.findIn?_bounds hf).2
    simp only [Marker.size, ByteQueue.drop] at this ⊢
    omega
  · split at h <;> simp at h

/- Every look that drops a frame shortens the buffer. -/
theorem size_lt_of_look_dropped
    {s after : FrameSearch}
    {buffer rest : ByteQueue}
    (h : s.look buffer = .dropped rest after) :
    rest.size < buffer.size := by
  unfold look at h
  split at h
  · split at h
    · have := size_lt_of_lookForStop_dropped h
      simp only [ByteQueue.drop] at this
      omega
    · simp at h
  · exact size_lt_of_lookForStop_dropped h

/- Every look that finds a frame shortens the buffer. -/
theorem size_lt_of_look_found
    {s after : FrameSearch}
    {buffer rest : ByteQueue}
    {frame : Bytes}
    (h : s.look buffer = .found frame rest after) :
    rest.size < buffer.size := by
  unfold look at h
  split at h
  · split at h
    · have := size_lt_of_lookForStop_found h
      simp only [ByteQueue.drop] at this
      omega
    · simp at h
  · exact size_lt_of_lookForStop_found h

------------------------------------------------------------
-- Extraction
------------------------------------------------------------

end FrameSearch

/-
  What a search came to: a frame, if there is one, the bytes
  that stay in the buffer, and the search after it.
-/
structure Extraction where
  frame : Option Bytes
  rest : ByteQueue
  after : FrameSearch
deriving DecidableEq, Repr

namespace FrameSearch

/- Look until there is a frame or nothing left to do. -/
def extract
    (s : FrameSearch)
    (buffer : ByteQueue) : Extraction :=
  match _h : s.look buffer with
  | .found frame rest after => ⟨some frame, rest, after⟩
  | .waiting rest after => ⟨none, rest, after⟩
  | .dropped rest after => after.extract rest
termination_by buffer.size
decreasing_by exact size_lt_of_look_dropped _h

/- Extracting a frame shortens the buffer. -/
theorem size_lt_of_extract
    {s : FrameSearch}
    {buffer : ByteQueue}
    {frame : Bytes}
    (h : (s.extract buffer).frame = some frame) :
    (s.extract buffer).rest.size < buffer.size := by
  fun_induction extract s buffer with
  | case1 s buffer f rest after hl =>
      exact size_lt_of_look_found hl
  | case2 => simp at h
  | case3 s buffer rest after hl ih =>
      have := size_lt_of_look_dropped hl
      have := ih h
      omega

end FrameSearch

end Reframe
