import Reframe.Proofs.Fragment.Split
import Reframe.Proofs.Scan.Resync
import Reframe.Proofs.Scan.Turn

/-
  How many bytes a scanner and a reader hold, and what every
  frame that they hand out looks like.

  A pull that returns nothing leaves an open frame within
  the limit, or half a marker, or nothing.  A reader reads
  only then, so that it holds one chunk more at most.

  Main declarations:
    * `Marked.IsWhole`
    * `Marked.isWhole_of_first?`
    * `FrameSearch.IsDrained`
    * `FrameSearch.first?_of_look_found`
    * `FrameSearch.isDrained_extract`
    * `FrameSearch.isWhole_extract`
    * `FrameReader.Visits`
    * `FrameReader.Holds`
    * `FrameReader.retains_limit_and_chunk_at_most`
-/

namespace Reframe

namespace Marked

------------------------------------------------------------
-- Whole Frames
------------------------------------------------------------

/-
  A frame with both of its markers, and with the second one
  nowhere else behind the first one.
-/
structure IsWhole
    (frame : Bytes) : Prop where
  starts : Marker.start.IsAt frame 0
  size_le : 2 * Marker.size ≤ frame.length
  stops :
    Marker.stop.IsAt frame (frame.length - Marker.size)
  stops_once :
    ∀ k, Marker.size ≤ k → Marker.stop.IsAt frame k →
      k = frame.length - Marker.size

/- A frame that is open ends at the first end marker. -/
theorem isWhole_take
    {bs : Bytes}
    {i : Nat}
    (hStarts : Marker.start.IsAt bs 0)
    (hStop : Marker.stop.find? bs Marker.size = some i) :
    IsWhole (bs.take (i + Marker.size)) := by
  have hBounds := (Marker.find?_bounds hStop).2
  rw [Marker.find?_eq_some_iff] at hStop
  rcases hStop with ⟨hLow, hAt, hFirst⟩
  have hLength :
      (bs.take (i + Marker.size)).length =
        i + Marker.size := by
    rw [List.length_take, Nat.min_eq_left hBounds]
  have hSame :
      ∀ (m : Marker) (k : Nat), k + 1 < i + Marker.size →
        (m.IsAt (bs.take (i + Marker.size)) k ↔
          m.IsAt bs k) := by
    intro m k hWithin
    rw [← hLength] at hWithin
    have hFront :=
      m.isAt_append_iff (bs.drop (i + Marker.size)) hWithin
    rw [List.take_append_drop] at hFront
    exact hFront.symm
  have hTwo : Marker.size = 2 := rfl
  constructor
  · rw [hSame _ _ (by omega)]
    exact hStarts
  · omega
  · rw [hLength, Nat.add_sub_cancel,
      hSame _ _ (by omega)]
    exact hAt
  · intro k hBehind hHere
    have hWithin := hHere.lt_length
    rw [hLength] at hWithin
    rw [hSame _ _ hWithin] at hHere
    by_contra hNot
    exact hFirst k hBehind (by omega) hHere

/- The first frame of bytes is whole, and one part of them. -/
theorem isWhole_of_first?
    {bs frame rest : Bytes}
    (hFirst : first? bs = some (frame, rest)) :
    IsWhole frame ∧
      frame.length + rest.length ≤ bs.length := by
  unfold first? fromStart? at hFirst
  cases hStart : Marker.start.find? bs 0 with
  | none => simp [hStart] at hFirst
  | some i =>
      simp only [hStart, Option.map_some] at hFirst
      cases hStop :
          Marker.stop.find? (bs.drop i) Marker.size with
      | none => simp [hStop] at hFirst
      | some j =>
          simp only [hStop, Option.some.injEq,
            Prod.mk.injEq] at hFirst
          rcases hFirst with ⟨rfl, rfl⟩
          rw [Marker.find?_eq_some_iff] at hStart
          have hOpened :
              Marker.start.IsAt (bs.drop i) 0 := by
            rw [Marker.isAt_drop_iff]
            exact hStart.2.1
          refine ⟨isWhole_take hOpened hStop, ?_⟩
          rw [← List.length_append,
            List.take_append_drop, List.length_drop]
          omega

end Marked

namespace FrameSearch

------------------------------------------------------------
-- Drained Buffers
------------------------------------------------------------

/-
  There is nothing in the buffer to hand out: it is empty,
  or half a start marker, or a frame that is open and within
  the limit.
-/
inductive IsDrained
    (limit : Nat) : Bytes → Prop where
| empty :
    IsDrained limit []
| half :
    IsDrained limit [Marker.start.first]
| opened
    {bs : Bytes}
    (hStarts : Marker.start.IsAt bs 0)
    (hStops :
      ∀ k, Marker.size ≤ k → ¬ Marker.stop.IsAt bs k)
    (hFits : bs.length ≤ limit) :
    IsDrained limit bs

/- A drained buffer is small. -/
theorem IsDrained.length_le
    {limit : Nat}
    {bs : Bytes}
    (hDrained : IsDrained limit bs) :
    bs.length ≤ max limit 1 := by
  cases hDrained with
  | empty => exact Nat.zero_le _
  | half => exact Nat.le_max_right limit 1
  | opened _ _ hFits => omega

------------------------------------------------------------
-- One Look
------------------------------------------------------------

/- A frame is cut off up to its end marker. -/
theorem lookForStop_of_found
    {s after : FrameSearch}
    {opened rest : ByteQueue}
    {frame : Bytes}
    (hLook : s.lookForStop opened = .found frame rest after) :
    ∃ i,
      Marker.stop.find? opened.toList s.resumeAt = some i ∧
      frame = opened.toList.take (i + Marker.size) ∧
      rest = opened.drop (i + Marker.size) ∧
      after.stats =
        { s.stats with frames := s.stats.frames + 1 } := by
  unfold lookForStop at hLook
  split at hLook
  · rename_i i hStop
    rw [Marker.findIn?_eq] at hStop
    cases hLook
    exact ⟨i, hStop, rfl, rfl, rfl⟩
  · split at hLook <;> cases hLook

/- A frame that is not cut off has no end marker yet. -/
theorem find?_stop_of_not_found
    (s : FrameSearch)
    (opened : ByteQueue)
    (hLook :
      ∀ frame rest after,
        s.lookForStop opened ≠ .found frame rest after) :
    Marker.stop.find? opened.toList s.resumeAt = none := by
  cases hStop :
      Marker.stop.find? opened.toList s.resumeAt with
  | none => rfl
  | some i =>
      rw [← Marker.findIn?_eq] at hStop
      simp [lookForStop, hStop] at hLook

/- A look finds the first frame of the buffer. -/
theorem first?_of_look_found
    {s after : FrameSearch}
    {buffer rest : ByteQueue}
    {frame : Bytes}
    (hResumed : s.IsResumed buffer.toList)
    (hLook : s.look buffer = .found frame rest after) :
    Marked.first? buffer.toList =
      some (frame, rest.toList) := by
  rcases look_cases hResumed with
    ⟨i, t, opened, hStart, hBytes, hStop, hOpen, _, _⟩ |
    ⟨_, _, hWaits⟩
  · rw [hLook, eq_comm] at hStop
    rcases lookForStop_of_found hStop with
      ⟨j, hFound, rfl, rfl, _⟩
    rw [hOpen.find?_eq] at hFound
    rw [Marker.find?_eq_some_iff] at hStart
    have hJunk :
        ∀ k < i, ¬ Marker.start.IsAt buffer.toList k :=
      fun k hk => hStart.2.2 k (Nat.zero_le k) hk
    rw [← Marked.first?_drop hJunk, ← hBytes,
      Marked.first?_of_open hOpen.starts, hFound]
    rfl
  · rw [hLook] at hWaits
    cases hWaits

/- A look that waits leaves a drained buffer. -/
theorem isDrained_of_look_waiting
    {s after : FrameSearch}
    {buffer rest : ByteQueue}
    (hResumed : s.IsResumed buffer.toList)
    (hLook : s.look buffer = .waiting rest after) :
    IsDrained s.maxFrameSize rest.toList := by
  rcases look_cases hResumed with
    ⟨i, t, opened, _, _, hStop, hOpen, hLimit, _⟩ |
    ⟨_, _, hWaits⟩
  · rw [hLook, eq_comm] at hStop
    have hNone :=
      find?_stop_of_not_found t opened (by simp [hStop])
    rcases lookForStop_of_waiting hStop with
      ⟨rfl, hFits, _⟩
    rw [hOpen.find?_eq, Marker.find?_eq_none_iff] at hNone
    rw [hLimit, ← ByteQueue.length_toList] at hFits
    exact .opened hOpen.starts hNone hFits
  · rw [hLook] at hWaits
    cases hWaits
    rcases (toList_drop_kept buffer).1 with hEmpty | hHalf
    · rw [hEmpty]
      exact .empty
    · rw [hHalf]
      exact .half

------------------------------------------------------------
-- Extraction
------------------------------------------------------------

/- An extraction without a frame drains the buffer. -/
theorem isDrained_extract
    {s : FrameSearch}
    {buffer : ByteQueue}
    (hResumed : s.IsResumed buffer.toList)
    (hNone : (s.extract buffer).frame = none) :
    IsDrained s.maxFrameSize
      (s.extract buffer).rest.toList := by
  fun_induction extract s buffer with
  | case1 s buffer frame rest after hLook => cases hNone
  | case2 s buffer rest after hLook =>
      exact isDrained_of_look_waiting hResumed hLook
  | case3 s buffer rest after hLook ih =>
      have hAfter := isResumed_look hResumed
      have hLimit := s.maxFrameSize_look buffer
      rw [hLook] at hAfter hLimit
      rw [← hLimit]
      exact ih hAfter hNone

/- An extraction cuts a whole frame off the buffer. -/
theorem isWhole_extract
    {s : FrameSearch}
    {buffer : ByteQueue}
    {frame : Bytes}
    (hResumed : s.IsResumed buffer.toList)
    (hFrame : (s.extract buffer).frame = some frame) :
    Marked.IsWhole frame ∧
      frame.length + (s.extract buffer).rest.size ≤
        buffer.size := by
  fun_induction extract s buffer with
  | case1 s buffer found rest after hLook =>
      cases hFrame
      have hFirst := first?_of_look_found hResumed hLook
      have hWhole := Marked.isWhole_of_first? hFirst
      rw [rest.length_toList, buffer.length_toList]
        at hWhole
      exact hWhole
  | case2 s buffer rest after hLook => cases hFrame
  | case3 s buffer rest after hLook ih =>
      have hAfter := isResumed_look hResumed
      have hLess := size_lt_of_look_dropped hLook
      rw [hLook] at hAfter
      rcases ih hAfter hFrame with ⟨hWhole, hSize⟩
      exact ⟨hWhole, by omega⟩

end FrameSearch

namespace Scanner

------------------------------------------------------------
-- Pulls
------------------------------------------------------------

/- A pull does not change the limit. -/
theorem maxFrameSize_next
    (s : Scanner) :
    s.next.2.state.maxFrameSize = s.state.maxFrameSize := by
  rw [s.next_eq.2.1, FrameSearch.maxFrameSize_extract]

/- A pull that returns nothing drains the buffer. -/
theorem isDrained_next
    {s after : Scanner}
    (hResumed : s.state.IsResumed s.buffer.toList)
    (hNext : s.next = (none, after)) :
    FrameSearch.IsDrained s.state.maxFrameSize
      after.buffer.toList := by
  rcases s.next_eq with ⟨hBuffer, _, hData⟩
  rw [hNext] at hBuffer hData
  rw [hBuffer]
  exact FrameSearch.isDrained_extract hResumed hData.symm

/- A pull hands out a whole frame of the buffer. -/
theorem isWhole_next
    {s after : Scanner}
    {f : ScannedFrame}
    (hResumed : s.state.IsResumed s.buffer.toList)
    (hNext : s.next = (some f, after)) :
    Marked.IsWhole f.data ∧
      f.data.length + after.buffered ≤ s.buffered := by
  rcases s.next_eq with ⟨hBuffer, _, hData⟩
  rw [hNext] at hBuffer hData
  rw [buffered, hBuffer]
  exact FrameSearch.isWhole_extract hResumed hData.symm

/-
  Pulls hand out whole frames.  When one of them returns
  nothing in the end, the buffer is drained.
-/
theorem Pulls.isWhole
    {s after : Scanner}
    {fs : List ScannedFrame}
    {isEnd : Bool}
    (hPulls : Pulls s fs after isEnd)
    (hResumed : s.state.IsResumed s.buffer.toList) :
    (∀ f ∈ fs, Marked.IsWhole f.data) ∧
      (isEnd = true →
        FrameSearch.IsDrained s.state.maxFrameSize
          after.buffer.toList) := by
  induction hPulls with
  | stopped s => simp
  | ended hNext =>
      refine ⟨by simp, fun _ => ?_⟩
      exact isDrained_next hResumed hNext
  | @pulled s t after f fs isEnd hNext hRest ih =>
      have hOne := Pulls.pulled hNext (.stopped t)
      rcases ih (hOne.isResumed hResumed) with
        ⟨hFrames, hDrained⟩
      rw [hOne.maxFrameSize_eq] at hDrained
      refine ⟨?_, hDrained⟩
      intro g hMem
      rcases List.mem_cons.mp hMem with rfl | hLater
      · exact (isWhole_next hResumed hNext).1
      · exact hFrames g hLater

/-
  An event hands out whole frames.  When a pull of it
  returns nothing, the buffer is drained.
-/
theorem isWhole_step
    {s : Scanner}
    (hResumed : s.state.IsResumed s.buffer.toList)
    (e : Event) :
    (∀ f ∈ (s.step e).1, Marked.IsWhole f.data) ∧
      (e.SawNone (s.step e).1 →
        FrameSearch.IsDrained s.state.maxFrameSize
          (s.step e).2.buffer.toList) := by
  by_cases hClear : e = .clear
  · subst hClear
    exact ⟨by simp [step], False.elim⟩
  · rcases s.pulls_step hClear with ⟨isEnd, hPulls, hEnd⟩
    have hPushed :
        (s.push e.chunk).state.IsResumed
          (s.push e.chunk).buffer.toList := by
      simp only [push, ByteQueue.toList_append]
      exact hResumed.append e.chunk
    rcases hPulls.isWhole hPushed with ⟨hFrames, hDrained⟩
    exact ⟨hFrames, fun hNone => hDrained (hEnd hNone)⟩

/- A run hands out whole frames. -/
theorem isWhole_of_mem_pulled
    {limit : Nat}
    {es : List Event}
    {f : ScannedFrame}
    (hMem : f ∈ (withLimit limit).pulled es) :
    Marked.IsWhole f.data := by
  induction es using List.reverseRecOn with
  | nil => simp [pulled, run] at hMem
  | append_singleton es e ih =>
      rw [pulled_concat, List.mem_append] at hMem
      rcases hMem with hEarlier | hLast
      · exact ih hEarlier
      · have hResumed := isResumed_after limit es
        exact (isWhole_step hResumed e).1 f hLast

end Scanner

/- No read of a source is larger than it may be. -/
theorem ByteSource.length_le_of_mem_arrivals
    {capacity : Nat}
    {source : ByteSource}
    {chunk : Bytes}
    (hMem : .ok chunk ∈ source.arrivals capacity) :
    chunk.length ≤ capacity := by
  rcases List.mem_flatMap.mp hMem with ⟨event, _, hChunk⟩
  cases event with
  | data bs =>
      rcases List.mem_map.mp hChunk with
        ⟨piece, hPiece, hSame⟩
      cases hSame
      exact Fragment.length_le_of_mem_slices hPiece
  | finish =>
      cases List.mem_singleton.mp hChunk
      exact Nat.zero_le _
  | fail e => cases List.mem_singleton.mp hChunk

namespace FrameReader

------------------------------------------------------------
-- What Is Held
------------------------------------------------------------

/-
  The readers that one is seen as: between any two turns of
  any calls, when it is closed, and when its stream is.
-/
inductive Visits
    (r : FrameReader) : FrameReader → Prop where
| start :
    Visits r r
| turned
    {s : FrameReader}
    (hVisits : Visits r s) :
    Visits r s.turn.after
| closed
    {s : FrameReader}
    (hVisits : Visits r s) :
    Visits r s.close
| cutOff
    {s : FrameReader}
    (hVisits : Visits r s) :
    Visits r s.cutOff

/- What is seen later is seen. -/
theorem Visits.trans
    {r s t : FrameReader}
    (hFirst : r.Visits s)
    (hNext : s.Visits t) :
    r.Visits t := by
  induction hNext with
  | start => exact hFirst
  | turned _ ih => exact .turned ih
  | closed _ ih => exact .closed ih
  | cutOff _ ih => exact .cutOff ih

/- Every call ends with a turn that answers it. -/
theorem visits_answer_of_read
    (r : FrameReader) :
    ∃ s, r.Visits s ∧
      s.turn = .answer r.read.1 r.read.2 := by
  refine
    read_induction
      (motive := fun r p =>
        ∃ s, r.Visits s ∧ s.turn = .answer p.1 p.2)
      ?_ ?_ r
  · intro r result after hTurn
    exact ⟨r, .start, hTurn⟩
  · intro r s p hTurn hLater
    rcases hLater with ⟨t, hVisits, hAnswer⟩
    have hFirst := Visits.start.turned (r := r)
    rw [hTurn] at hFirst
    exact ⟨t, hFirst.trans hVisits, hAnswer⟩

/- A reader is seen after each call. -/
theorem visits_read
    (r : FrameReader) :
    r.Visits r.read.2 := by
  rcases r.visits_answer_of_read with
    ⟨s, hVisits, hAnswer⟩
  have hAfter := hVisits.turned
  rw [hAnswer] at hAfter
  exact hAfter

/-
  A reader within its bounds: its search is right about its
  buffer, which is a small one, and it reads in chunks that
  are not larger than they should be.
-/
structure Holds
    (limit capacity : Nat)
    (r : FrameReader) : Prop where
  resumed :
    r.scanner.state.IsResumed r.scanner.buffer.toList
  limit_eq : r.scanner.state.maxFrameSize = limit
  buffered_le :
    r.scanner.buffered ≤ max limit 1 + capacity
  chunk_le :
    ∀ chunk, .ok chunk ∈ r.pending →
      chunk.length ≤ capacity

section Held

variable {limit capacity : Nat} {r : FrameReader}

/- Fewer reads are within the bounds as well. -/
theorem Holds.of_pending
    (hHolds : r.Holds limit capacity)
    {rest : List Arrival}
    (hRest : rest <:+ r.pending) :
    ({ r with pending := rest } : FrameReader).Holds limit
      capacity :=
  { hHolds with
    chunk_le := fun chunk hMem =>
      hHolds.chunk_le chunk (hRest.subset hMem) }

/- Nothing is held once the source is over. -/
theorem Holds.finish
    (hHolds : r.Holds limit capacity)
    {rest : List Arrival}
    (hRest : rest <:+ r.pending) :
    (r.finish rest).Holds limit capacity where
  resumed := Or.inl rfl
  limit_eq := hHolds.limit_eq
  buffered_le := Nat.zero_le _
  chunk_le := fun chunk hMem =>
    hHolds.chunk_le chunk (hRest.subset hMem)

/- Little is left when a pull returns nothing. -/
theorem Holds.buffered_of_next_none
    (hHolds : r.Holds limit capacity)
    {scanner : Scanner}
    (hNext : r.scanner.next = (none, scanner)) :
    scanner.buffered ≤ max limit 1 := by
  have hDrained :=
    (Scanner.isDrained_next hHolds.resumed hNext).length_le
  rw [hHolds.limit_eq, ByteQueue.length_toList] at hDrained
  exact hDrained

/- A pull keeps a reader within its bounds. -/
theorem Holds.next
    (hHolds : r.Holds limit capacity)
    {found : Option ScannedFrame}
    {scanner : Scanner}
    (hNext : r.scanner.next = (found, scanner)) :
    ({ r with scanner := scanner } : FrameReader).Holds
      limit capacity := by
  have hResumed := Scanner.isResumed_next hHolds.resumed
  have hLimit := r.scanner.maxFrameSize_next
  have hBound := hHolds.buffered_le
  rw [hNext] at hResumed hLimit
  rw [hHolds.limit_eq] at hLimit
  refine ⟨hResumed, hLimit, ?_, hHolds.chunk_le⟩
  cases found with
  | some f =>
      have hSize :=
        (Scanner.isWhole_next hHolds.resumed hNext).2
      dsimp only
      omega
  | none =>
      have hSmall := hHolds.buffered_of_next_none hNext
      dsimp only
      omega

/- Bytes that are read into a small buffer are held. -/
theorem Holds.push
    (hHolds : r.Holds limit capacity)
    (hSmall : r.scanner.buffered ≤ max limit 1)
    {chunk : Bytes}
    (hChunk : chunk.length ≤ capacity) :
    ({ r with
        scanner := r.scanner.push chunk } :
      FrameReader).Holds limit capacity := by
  constructor
  · simp only [Scanner.push, ByteQueue.toList_append]
    exact hHolds.resumed.append chunk
  · exact hHolds.limit_eq
  · simp only [Scanner.buffered, Scanner.push,
      ByteQueue.append] at hSmall ⊢
    omega
  · exact hHolds.chunk_le

/- A turn keeps a reader within its bounds. -/
theorem Holds.turn
    (hHolds : r.Holds limit capacity) :
    r.turn.after.Holds limit capacity := by
  have hTakes := r.takes_turn
  generalize r.turn = t at hTakes
  cases hTakes with
  | handed hNext => exact hHolds.next hNext
  | exhausted hNext _ => exact hHolds.next hNext
  | @finished scanner rest hNext _ hPending =>
      apply (hHolds.next hNext).finish
      rcases hPending with ⟨_, rfl⟩ | hPending
      · exact List.nil_suffix
      · rw [hPending]
        exact List.suffix_cons _ _
  | took hNext _ _ hPending =>
      have hSmall := hHolds.buffered_of_next_none hNext
      have hChunk := hHolds.chunk_le
      rw [hPending] at hChunk
      have hPushed :=
        (hHolds.next hNext).push hSmall
          (hChunk _ List.mem_cons_self)
      apply hPushed.of_pending
      rw [hPending]
      exact List.suffix_cons _ _
  | interrupted hNext _ _ hPending =>
      apply (hHolds.next hNext).of_pending
      rw [hPending]
      exact List.suffix_cons _ _
  | failed hNext _ _ hPending =>
      apply (hHolds.next hNext).of_pending
      rw [hPending]
      exact List.suffix_cons _ _

/- A reader stays within its bounds. -/
theorem Holds.of_visits
    (hHolds : r.Holds limit capacity)
    {s : FrameReader}
    (hVisits : r.Visits s) :
    s.Holds limit capacity := by
  induction hVisits with
  | start => exact hHolds
  | turned _ ih => exact ih.turn
  | closed _ ih => exact ih.finish List.nil_suffix
  | cutOff _ ih => exact ih.of_pending List.nil_suffix

/- The frame of a turn is whole and was held. -/
theorem Holds.isWhole_of_turn
    (hHolds : r.Holds limit capacity)
    {f : ScannedFrame}
    {after : FrameReader}
    (hTurn : r.turn = .answer (.ok (some f)) after) :
    Marked.IsWhole f.data ∧
      f.data.length ≤ r.scanner.buffered := by
  have hTakes := r.takes_turn
  rw [hTurn] at hTakes
  cases hTakes with
  | handed hNext =>
      rcases Scanner.isWhole_next hHolds.resumed hNext with
        ⟨hWhole, hSize⟩
      exact ⟨hWhole, by omega⟩

end Held

/- A new reader is within its bounds. -/
theorem holds_ofSource
    (source : ByteSource)
    (limit chunkSize : Nat) :
    (ofSource source limit chunkSize).Holds limit
      (max chunkSize 1) where
  resumed := Or.inl rfl
  limit_eq := rfl
  buffered_le := Nat.zero_le _
  chunk_le := fun _ hMem =>
    ByteSource.length_le_of_mem_arrivals hMem

/-
  Whenever a pull of a scanner returns nothing, its buffer
  is empty, or half a start marker, or an open frame within
  the limit.  So a reader never holds more than the limit,
  or one byte, and one chunk, be it closed or not, and no
  frame that it hands out is longer.  All frames that
  scanners and readers hand out are whole.
-/
theorem retains_limit_and_chunk_at_most
    (limit : Nat) :
    (∀ (es : List Scanner.Event) (e : Scanner.Event),
      let s := (Scanner.withLimit limit).after es
      e.SawNone (s.step e).1 →
        FrameSearch.IsDrained limit
          (s.step e).2.buffer.toList) ∧
    (∀ (es : List Scanner.Event),
      ∀ f ∈ (Scanner.withLimit limit).pulled es,
        Marked.IsWhole f.data) ∧
    (∀ (source : ByteSource) (chunkSize : Nat)
        (s : FrameReader),
      let r := ofSource source limit chunkSize
      let most := max limit 1 + max chunkSize 1
      r.Visits s →
        s.scanner.buffered ≤ most ∧
          r.Visits s.read.2 ∧
          ∀ f, s.read.1 = .ok (some f) →
            Marked.IsWhole f.data ∧
              f.data.length ≤ most) := by
  refine ⟨?_, fun es f => Scanner.isWhole_of_mem_pulled, ?_⟩
  · intro es e s hNone
    have hResumed := Scanner.isResumed_after limit es
    have hLimit :=
      (Scanner.withLimit limit).maxFrameSize_after es
    have hDrained :=
      (Scanner.isWhole_step hResumed e).2 hNone
    rw [hLimit] at hDrained
    exact hDrained
  · intro source chunkSize s r most hVisits
    have hNew := holds_ofSource source limit chunkSize
    refine
      ⟨(hNew.of_visits hVisits).buffered_le,
        hVisits.trans s.visits_read, ?_⟩
    intro f hFrame
    rcases s.visits_answer_of_read with
      ⟨t, hLater, hAnswer⟩
    have hHolds := hNew.of_visits (hVisits.trans hLater)
    rw [hFrame] at hAnswer
    rcases hHolds.isWhole_of_turn hAnswer with
      ⟨hWhole, hLength⟩
    exact
      ⟨hWhole, Nat.le_trans hLength hHolds.buffered_le⟩

/-
  With a limit of one byte an open frame is dropped at once,
  and half a marker is kept.  A reader of larger chunks
  still hands out the frames that one chunk completes, and
  holds what is behind them.
-/
theorem retains_limit_and_chunk_at_most_one :
    let es : List Scanner.Event :=
      [.feed [7, 0xFF] none, .feed [0xD8, 1] none]
    let e : Scanner.Event := .feed [7, 0xFF] none
    let s := (Scanner.withLimit 1).after es
    let r :=
      ofSource
        [.data [0xFF, 0xD8, 1, 0xFF, 0xD9, 0xFF, 0xD8]] 1 8
    let f : ScannedFrame := ⟨0, [0xFF, 0xD8, 1, 0xFF, 0xD9]⟩
    e.SawNone (s.step e).1 ∧
      (s.step e).2.buffer.toList = [0xFF] ∧
      FrameSearch.IsDrained 1 (s.step e).2.buffer.toList ∧
      r.read.1 = .ok (some f) ∧
      r.read.2.scanner.buffered = 2 ∧
      Marked.IsWhole f.data ∧
      f.data.length ≤ 1 + 8 := by
  intro es e s r f
  rcases retains_limit_and_chunk_at_most 1 with
    ⟨hDrained, _, hReader⟩
  have hRead : r.read.1 = .ok (some f) := by
    decide +kernel
  exact
    ⟨trivial, by decide +kernel, hDrained es e trivial,
      hRead, by decide +kernel,
      (hReader _ 8 r .start).2.2 f hRead⟩

end FrameReader

end Reframe
