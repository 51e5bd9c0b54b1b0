import Reframe.Scan.Search
import Reframe.Proofs.Scan.Parse

/-
  The search for the next frame in a buffer that grows finds
  the frames of the bytes as a whole, as long as the frame
  that is open stays within the limit.

  Main declarations:
    * `FrameSearch.IsResumed`
    * `FrameSearch.IsResumed.append`
    * `Look.Reads`
    * `FrameSearch.look_cases`
    * `FrameSearch.reads_look`
    * `FrameSearch.extract_cases`
-/

namespace Reframe

/- The search after a look. -/
def Look.after : Look → FrameSearch
| .found _ _ after => after
| .waiting _ after => after
| .dropped _ after => after

namespace FrameSearch

------------------------------------------------------------
-- What A Search Remembers
------------------------------------------------------------

/-
  A frame is open at the front, and its end marker does not
  stand in front of a position.
-/
structure IsOpenUpTo
    (bs : Bytes)
    (n : Nat) : Prop where
  starts : Marker.start.IsAt bs 0
  size_le : Marker.size ≤ n
  searched :
    ∀ k, Marker.size ≤ k → k < n →
      k + 1 < bs.length ∧ ¬ Marker.stop.IsAt bs k

/-
  What a search remembers of its buffer: nothing, or how far
  the frame in front was searched for its end.
-/
def IsResumed
    (s : FrameSearch)
    (bs : Bytes) : Prop :=
  s.resumeAt = 0 ∨ IsOpenUpTo bs s.resumeAt

/- More bytes do not invalidate what was searched. -/
theorem IsOpenUpTo.append
    {bs : Bytes}
    {n : Nat}
    (hOpen : IsOpenUpTo bs n)
    (chunk : Bytes) :
    IsOpenUpTo (bs ++ chunk) n := by
  constructor
  · rw [Marker.isAt_append_iff _ _ hOpen.starts.lt_length]
    exact hOpen.starts
  · exact hOpen.size_le
  · intro k hLow hHigh
    rcases hOpen.searched k hLow hHigh with ⟨hWithin, hNot⟩
    rw [Marker.isAt_append_iff _ _ hWithin,
      List.length_append]
    exact ⟨by omega, hNot⟩

/- More bytes do not invalidate what is remembered. -/
theorem IsResumed.append
    {s : FrameSearch}
    {bs : Bytes}
    (hResumed : s.IsResumed bs)
    (chunk : Bytes) :
    s.IsResumed (bs ++ chunk) := by
  rcases hResumed with hZero | hOpen
  · exact Or.inl hZero
  · exact Or.inr (hOpen.append chunk)

/- A frame is open from its start marker on. -/
theorem isOpenUpTo_drop
    {bs : Bytes}
    {i : Nat}
    (hStart : Marker.start.IsAt bs i) :
    IsOpenUpTo (bs.drop i) Marker.size := by
  constructor
  · rw [Marker.isAt_drop_iff]
    exact hStart
  · exact Nat.le_refl _
  · intro k hLow hHigh
    exact absurd hHigh (Nat.not_lt.mpr hLow)

/-
  A frame without its end marker was searched up to the last
  byte, which may be the first one of the marker.
-/
theorem isOpenUpTo_of_find?_none
    {buffer : ByteQueue}
    (hStart : Marker.start.IsAt buffer.toList 0)
    (hStop :
      Marker.stop.find? buffer.toList Marker.size = none) :
    IsOpenUpTo buffer.toList
      (max (buffer.size - 1) Marker.size) := by
  rw [Marker.find?_eq_none_iff] at hStop
  constructor
  · exact hStart
  · exact Nat.le_max_right _ _
  · intro k hLow hHigh
    simp only [Marker.size] at hLow hHigh
    rw [ByteQueue.length_toList]
    exact ⟨by omega, hStop k hLow⟩

/-
  To look on for the end marker is to look for it from the
  start of the frame.
-/
theorem IsOpenUpTo.find?_eq
    {bs : Bytes}
    {n : Nat}
    (hOpen : IsOpenUpTo bs n) :
    Marker.stop.find? bs n =
      Marker.stop.find? bs Marker.size :=
  Marker.find?_resume hOpen.size_le
    (fun k hLow hHigh => (hOpen.searched k hLow hHigh).2)

end FrameSearch

------------------------------------------------------------
-- What A Look Reads
------------------------------------------------------------

/-
  What a look comes to that gives no open frame up: it reads
  the first frame, or there is none and it reads nothing.
-/
inductive Look.Reads
    (bs : Bytes) : Look → Prop where
| found
    {frame : Bytes}
    {rest : ByteQueue}
    {after : FrameSearch}
    (hYields : Marked.Yields bs [frame] rest.toList)
    (hResumed : after.IsResumed rest.toList) :
    Reads bs (.found frame rest after)
| waiting
    {rest : ByteQueue}
    {after : FrameSearch}
    (hFrames : Marked.frames bs = [])
    (hYields : Marked.Yields bs [] rest.toList)
    (hResumed : after.IsResumed rest.toList) :
    Reads bs (.waiting rest after)

/- Junk in front does not change what is read. -/
theorem Look.Reads.behind
    {bs rest : Bytes}
    {look : Look}
    (hJunk : Marked.Yields bs [] rest)
    (hReads : look.Reads rest) :
    look.Reads bs := by
  cases hReads with
  | found hYields hResumed =>
      exact .found (hJunk.trans hYields) hResumed
  | waiting hFrames hYields hResumed =>
      refine .waiting ?_ (hJunk.trans hYields) hResumed
      rw [hJunk.frames_eq_rest, hFrames]
      rfl

namespace FrameSearch

------------------------------------------------------------
-- The Frame That Is Open
------------------------------------------------------------

/- Without its end marker all of the frame is open. -/
theorem unfinished_of_open
    {bs : Bytes}
    (hOpen : Marker.start.IsAt bs 0)
    (hFirst : Marked.first? bs = none) :
    Marked.unfinished bs = bs := by
  rw [Marked.unfinished_of_first?_none hFirst,
    Marked.fromStart?_of_open hOpen]
  rfl

/-
  The end of the frame that is open is found, or the frame
  is kept: it is within the limit.
-/
theorem reads_lookForStop
    {s : FrameSearch}
    {buffer : ByteQueue}
    (hOpen : IsOpenUpTo buffer.toList s.resumeAt)
    (hFits :
      (Marked.unfinished buffer.toList).length ≤
        s.maxFrameSize) :
    (s.lookForStop buffer).Reads buffer.toList := by
  have hFirst := Marked.first?_of_open hOpen.starts
  have hFind :
      Marker.stop.findIn? buffer s.resumeAt =
        Marker.stop.find? buffer.toList Marker.size := by
    rw [Marker.findIn?_eq]
    exact hOpen.find?_eq
  cases hStop :
      Marker.stop.find? buffer.toList Marker.size with
  | some j =>
      rw [hStop] at hFind hFirst
      simp only [lookForStop, hFind]
      apply Look.Reads.found
      · exact Marked.yields_of_first? hFirst
      · exact Or.inl rfl
  | none =>
      rw [hStop] at hFind hFirst
      rw [unfinished_of_open hOpen.starts hFirst,
        ByteQueue.length_toList] at hFits
      simp only [lookForStop, hFind, if_pos hFits]
      apply Look.Reads.waiting
      · exact Marked.frames_of_first?_none hFirst
      · exact Marked.yields_refl _
      · exact Or.inr
          (isOpenUpTo_of_find?_none hOpen.starts hStop)

------------------------------------------------------------
-- Junk In Front
------------------------------------------------------------

/- Bytes in front of the first start marker stay junk. -/
theorem yields_drop_of_find?
    {bs : Bytes}
    {i : Nat}
    (hFound : Marker.start.find? bs 0 = some i) :
    Marked.Yields bs [] (bs.drop i) := by
  rw [Marker.find?_eq_some_iff] at hFound
  rcases hFound with ⟨_, hAt, hBefore⟩
  have hWithin := hAt.lt_length
  refine Marked.yields_drop (by omega) ?_
  intro more k hk
  rw [Marker.isAt_append_iff _ _ (by omega)]
  exact hBefore k (Nat.zero_le k) hk

/-
  Without a start marker all is junk, up to a last byte that
  may be the first one of a marker.
-/
theorem yields_drop_of_find?_none
    {buffer : ByteQueue}
    (hNone : Marker.start.find? buffer.toList 0 = none) :
    Marked.Yields buffer.toList []
      (buffer.toList.drop (buffer.size - kept buffer)) := by
  rw [Marker.find?_eq_none_iff] at hNone
  have hLength := buffer.length_toList
  refine Marked.yields_drop (by omega) ?_
  intro more k hk hAt
  by_cases hWithin : k + 1 < buffer.toList.length
  · rw [Marker.isAt_append_iff _ _ hWithin] at hAt
    exact hNone k (Nat.zero_le k) hAt
  · -- Only the last byte is left, and it is not kept.
    have hLast : k = buffer.toList.length - 1 := by omega
    have hByte :
        buffer.toList.getLast? =
          some Marker.start.first := by
      rw [List.getLast?_eq_getElem?, ← hLast,
        ← List.getElem?_append_left (by omega)]
      exact hAt.1
    have hKept : kept buffer = 1 := by
      rw [kept, if_pos hByte]
    omega

------------------------------------------------------------
-- One Look
------------------------------------------------------------

/- A look that drops junk goes on with the open frame. -/
theorem look_of_start
    {s : FrameSearch}
    {buffer : ByteQueue}
    {i : Nat}
    (hZero : s.resumeAt = 0)
    (hStart : Marker.start.find? buffer.toList 0 = some i) :
    s.look buffer =
      lookForStop
        { s.discard i with resumeAt := Marker.size }
        (buffer.drop i) := by
  simp only [look, hZero, Marker.findIn?_eq, hStart]
  rfl

/- A look without a start marker drops junk and waits. -/
theorem look_of_start_none
    {s : FrameSearch}
    {buffer : ByteQueue}
    (hZero : s.resumeAt = 0)
    (hStart : Marker.start.find? buffer.toList 0 = none) :
    s.look buffer =
      .waiting (buffer.drop (buffer.size - kept buffer))
        (s.discard (buffer.size - kept buffer)) := by
  simp only [look, hZero, Marker.findIn?_eq, hStart]
  rfl

/-
  A look goes on with the frame that is open from the first
  start marker on, or drops junk and waits.
-/
theorem look_cases
    {s : FrameSearch}
    {buffer : ByteQueue}
    (hResumed : s.IsResumed buffer.toList) :
    (∃ i t opened,
      Marker.start.find? buffer.toList 0 = some i ∧
        opened.toList = buffer.toList.drop i ∧
        s.look buffer = lookForStop t opened ∧
        IsOpenUpTo opened.toList t.resumeAt ∧
        t.maxFrameSize = s.maxFrameSize ∧
        t.stats = (s.discard i).stats) ∨
    (Marker.start.find? buffer.toList 0 = none ∧
      s.resumeAt = 0 ∧
      s.look buffer =
        .waiting (buffer.drop (buffer.size - kept buffer))
          (s.discard (buffer.size - kept buffer))) := by
  rcases hResumed with hZero | hOpen
  · cases hStart :
        Marker.start.find? buffer.toList 0 with
    | some i =>
        apply Or.inl
        refine
          ⟨i, _, _, rfl, buffer.toList_drop i,
            look_of_start hZero hStart, ?_, rfl, rfl⟩
        rw [Marker.find?_eq_some_iff] at hStart
        rw [ByteQueue.toList_drop]
        exact isOpenUpTo_drop hStart.2.1
    | none =>
        apply Or.inr
        exact ⟨rfl, hZero, look_of_start_none hZero hStart⟩
  · apply Or.inl
    have hNonzero : s.resumeAt ≠ 0 := by
      have hSize := hOpen.size_le
      simp only [Marker.size] at hSize
      omega
    refine
      ⟨0, s, buffer, ?_, rfl, by simp [look, hNonzero],
        hOpen, rfl, rfl⟩
    rw [Marker.find?_eq_some_iff]
    refine ⟨Nat.le_refl 0, hOpen.starts, ?_⟩
    intro k _ hLess
    exact absurd hLess (Nat.not_lt_zero k)

/-
  A look reads the first frame or waits for more bytes.  It
  never gives the open frame up.
-/
theorem reads_look
    {s : FrameSearch}
    {buffer : ByteQueue}
    (hResumed : s.IsResumed buffer.toList)
    (hFits :
      (Marked.unfinished buffer.toList).length ≤
        s.maxFrameSize) :
    (s.look buffer).Reads buffer.toList := by
  rcases look_cases hResumed with
    ⟨i, t, opened, hStart, hBytes, hLook, hOpen, hLimit,
      _⟩ | ⟨hStart, hZero, hLook⟩
  · have hJunk :
        Marked.Yields buffer.toList [] opened.toList := by
      rw [hBytes]
      exact yields_drop_of_find? hStart
    rw [hLook]
    apply Look.Reads.behind hJunk
    apply reads_lookForStop hOpen
    rw [← hJunk.unfinished_eq_rest, hLimit]
    exact hFits
  · have hFirst : Marked.first? buffer.toList = none := by
      simp [Marked.first?, Marked.fromStart?, hStart]
    rw [hLook]
    apply Look.Reads.waiting
    · exact Marked.frames_of_first?_none hFirst
    · exact yields_drop_of_find?_none hStart
    · exact Or.inl hZero

------------------------------------------------------------
-- Extraction
------------------------------------------------------------

/-
  An extraction cuts the first frame off the bytes, or there
  is none.
-/
theorem extract_cases
    {s : FrameSearch}
    {buffer : ByteQueue}
    (hResumed : s.IsResumed buffer.toList)
    (hFits :
      (Marked.unfinished buffer.toList).length ≤
        s.maxFrameSize) :
    let x := s.extract buffer
    x.after.IsResumed x.rest.toList ∧
      Marked.Yields buffer.toList x.frame.toList
        x.rest.toList ∧
      (x.frame = none →
        Marked.frames buffer.toList = []) := by
  have hReads := reads_look hResumed hFits
  rw [extract]
  split
  · rename_i frame rest after hLook
    rw [hLook] at hReads
    cases hReads with
    | found hYields hAfter =>
        refine ⟨hAfter, hYields, ?_⟩
        intro hNone
        cases hNone
  · rename_i rest after hLook
    rw [hLook] at hReads
    cases hReads with
    | waiting hFrames hYields hAfter =>
        exact ⟨hAfter, hYields, fun _ => hFrames⟩
  · rename_i rest after hLook
    rw [hLook] at hReads
    cases hReads

/- No look changes the limit. -/
theorem maxFrameSize_lookForStop
    (s : FrameSearch)
    (buffer : ByteQueue) :
    (s.lookForStop buffer).after.maxFrameSize =
      s.maxFrameSize := by
  unfold lookForStop
  split
  · rfl
  · split <;> rfl

/- No look changes the limit, wherever it starts. -/
theorem maxFrameSize_look
    (s : FrameSearch)
    (buffer : ByteQueue) :
    (s.look buffer).after.maxFrameSize =
      s.maxFrameSize := by
  unfold look
  split
  · split
    · rw [maxFrameSize_lookForStop]
      rfl
    · rfl
  · exact maxFrameSize_lookForStop s buffer

/- No extraction changes the limit. -/
theorem maxFrameSize_extract
    (s : FrameSearch)
    (buffer : ByteQueue) :
    (s.extract buffer).after.maxFrameSize =
      s.maxFrameSize := by
  fun_induction extract s buffer with
  | case1 s buffer frame rest after hLook =>
      have hSame := s.maxFrameSize_look buffer
      rw [hLook] at hSame
      exact hSame
  | case2 s buffer rest after hLook =>
      have hSame := s.maxFrameSize_look buffer
      rw [hLook] at hSame
      exact hSame
  | case3 s buffer rest after hLook ih =>
      have hSame := s.maxFrameSize_look buffer
      rw [hLook] at hSame
      rw [ih]
      exact hSame

end FrameSearch

end Reframe
