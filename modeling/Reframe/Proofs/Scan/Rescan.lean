import Reframe.Proofs.Scan.Retention

/-
  A search that remembers where to look on finds what a
  search finds that looks at the whole buffer every time.

  What is remembered of a buffer stays right when bytes are
  added to it, so that the two come to the same in every
  run, whatever is dropped for its size on the way.

  Main declarations:
    * `Rescan`
    * `rescan`
    * `FrameSearch.observed_extract`
    * `FrameSearch.Event`
    * `FrameSearch.run`
    * `rescans`
    * `FrameSearch.observed_run`
    * `FrameSearch.resumed_equals_rescan`
-/

namespace Reframe

------------------------------------------------------------
-- Searches From Scratch
------------------------------------------------------------

/-
  What a search from scratch came to: a frame, if there is
  one, the bytes that stay, and the counts after it.
-/
structure Rescan where
  frame : Option Bytes
  rest : Bytes
  stats : ScanStats
deriving DecidableEq, Repr

/- Count bytes that are thrown away. -/
def ScanStats.discard
    (s : ScanStats)
    (n : Nat) : ScanStats :=
  { s with discardedBytes := s.discardedBytes + n }

/-
  The number of bytes in front of a last byte that may be
  the first one of a start marker.
-/
def junkSize
    (bs : Bytes) : Nat :=
  if bs.getLast? = some Marker.start.first then
    bs.length - 1
  else bs.length

/-
  The number of bytes in front of the first start marker
  that is not the one at the front.
-/
def openSize
    (bs : Bytes) : Nat :=
  (Marker.start.find? bs Marker.size).getD bs.length

/- An open frame is not empty. -/
theorem openSize_pos
    {bs : Bytes}
    (hBytes : bs ≠ []) :
    0 < openSize bs := by
  unfold openSize
  cases hNext : Marker.start.find? bs Marker.size with
  | none => exact List.length_pos_iff.mpr hBytes
  | some k =>
      have hBehind := (Marker.find?_bounds hNext).1
      simp only [Marker.size] at hBehind
      simp only [Option.getD_some]
      omega

/-
  Look for the first start marker from the front of the
  bytes, and for the first end marker right behind it.  An
  open frame past the limit is dropped up to the next start
  marker, and the search begins anew.
-/
def rescan
    (limit : Nat)
    (stats : ScanStats)
    (bs : Bytes) : Rescan :=
  match _hStart : Marker.start.find? bs 0 with
  | none =>
      ⟨none, bs.drop (junkSize bs),
        stats.discard (junkSize bs)⟩
  | some i =>
      let opened := bs.drop i
      let stats := stats.discard i
      match Marker.stop.find? opened Marker.size with
      | some j =>
          let n := j + Marker.size
          ⟨some (opened.take n), opened.drop n,
            { stats with frames := stats.frames + 1 }⟩
      | none =>
          if opened.length ≤ limit then
            ⟨none, opened, stats⟩
          else
            rescan limit
              { stats.discard (openSize opened) with
                oversized := stats.oversized + 1 }
              (opened.drop (openSize opened))
termination_by bs.length
decreasing_by
  have hWithin := (Marker.find?_bounds _hStart).2
  simp only [Marker.size] at hWithin
  have hBytes : bs.drop i ≠ [] := by
    rw [Ne, List.drop_eq_nil_iff]
    omega
  have hSome := openSize_pos hBytes
  simp only [List.length_drop]
  omega

section Steps

variable {limit i : Nat} {stats : ScanStats} {bs : Bytes}

/- Without a start marker all is junk but half a marker. -/
theorem rescan_of_start_none
    (hStart : Marker.start.find? bs 0 = none) :
    rescan limit stats bs =
      ⟨none, bs.drop (junkSize bs),
        stats.discard (junkSize bs)⟩ := by
  rw [rescan]
  split
  · rfl
  · rename_i hSome
    rw [hStart] at hSome
    cases hSome

/- What comes of the frame at the first start marker. -/
theorem rescan_of_start
    (hStart : Marker.start.find? bs 0 = some i) :
    rescan limit stats bs =
      match Marker.stop.find? (bs.drop i) Marker.size with
      | some j =>
          ⟨some ((bs.drop i).take (j + Marker.size)),
            (bs.drop i).drop (j + Marker.size),
            { stats.discard i with
              frames := stats.frames + 1 }⟩
      | none =>
          if (bs.drop i).length ≤ limit then
            ⟨none, bs.drop i, stats.discard i⟩
          else
            rescan limit
              { (stats.discard i).discard
                  (openSize (bs.drop i)) with
                oversized := stats.oversized + 1 }
              ((bs.drop i).drop (openSize (bs.drop i))) := by
  rw [rescan]
  split
  · rename_i hNone
    rw [hStart] at hNone
    cases hNone
  · rename_i k hSome
    rw [hStart, Option.some.injEq] at hSome
    subst hSome
    rfl

end Steps

------------------------------------------------------------
-- One Extraction
------------------------------------------------------------

/- What an extraction came to, the resumption apart. -/
def Extraction.observed
    (x : Extraction) : Rescan :=
  ⟨x.frame, x.rest.toList, x.after.stats⟩

namespace FrameSearch

/- A buffer without a start marker is junk up to its end. -/
theorem size_sub_kept
    (buffer : ByteQueue) :
    buffer.size - kept buffer = junkSize buffer.toList := by
  unfold kept junkSize
  rw [buffer.length_toList]
  split <;> rfl

/- An open frame is given up for where the next one opens. -/
theorem nextStart_eq
    (opened : ByteQueue) :
    nextStart opened = openSize opened.toList := by
  rw [nextStart, openSize, Marker.findIn?_eq,
    opened.length_toList]

/-
  When what is remembered of the buffer is right, an
  extraction comes to what a search from scratch does.
-/
theorem observed_extract
    {s : FrameSearch}
    {buffer : ByteQueue}
    (hResumed : s.IsResumed buffer.toList) :
    (s.extract buffer).observed =
      rescan s.maxFrameSize s.stats buffer.toList := by
  fun_induction extract s buffer with
  | case1 s buffer frame rest after hLook =>
      rcases look_cases hResumed with
        ⟨i, t, opened, hStart, hBytes, hStop, hOpen, _,
          hStats⟩ | ⟨_, _, hWaits⟩
      · rw [hLook, eq_comm] at hStop
        rcases lookForStop_of_found hStop with
          ⟨j, hFound, rfl, rfl, hAfter⟩
        rw [hOpen.find?_eq, hBytes] at hFound
        rw [rescan_of_start hStart, hFound]
        simp only [Extraction.observed, hAfter, hStats,
          ByteQueue.toList_drop, hBytes]
        rfl
      · rw [hLook] at hWaits
        cases hWaits
  | case2 s buffer rest after hLook =>
      rcases look_cases hResumed with
        ⟨i, t, opened, hStart, hBytes, hStop, hOpen, hLimit,
          hStats⟩ | ⟨hStart, _, hWaits⟩
      · rw [hLook, eq_comm] at hStop
        have hNone :=
          find?_stop_of_not_found t opened (by simp [hStop])
        rw [hOpen.find?_eq, hBytes] at hNone
        rcases lookForStop_of_waiting hStop with
          ⟨rfl, hFits, hAfter⟩
        rw [hLimit, ← ByteQueue.length_toList, hBytes]
          at hFits
        rw [rescan_of_start hStart, hNone]
        simp only [if_pos hFits, Extraction.observed,
          hAfter, hStats, hBytes]
        rfl
      · rw [hLook] at hWaits
        cases hWaits
        rw [rescan_of_start_none hStart, ← size_sub_kept]
        rfl
  | case3 s buffer rest after hLook ih =>
      -- A frame was dropped: what is remembered behind it
      -- is right again, and the cascade goes on from there.
      have hAfter := isResumed_look hResumed
      rw [hLook] at hAfter
      rw [ih hAfter]
      rcases look_cases hResumed with
        ⟨i, t, opened, hStart, hBytes, hStop, hOpen, hLimit,
          hStats⟩ | ⟨_, _, hWaits⟩
      · rw [hLook, eq_comm] at hStop
        have hNone :=
          find?_stop_of_not_found t opened (by simp [hStop])
        rw [hOpen.find?_eq, hBytes] at hNone
        rcases lookForStop_of_dropped hStop with
          ⟨rfl, hExceeds, hSame, _, hCounts⟩
        rw [hLimit, ← ByteQueue.length_toList, hBytes,
          ← Nat.not_le] at hExceeds
        rw [rescan_of_start hStart, hNone]
        simp only [if_neg hExceeds, hSame, hLimit, hCounts,
          discard, hStats, ByteQueue.toList_drop,
          nextStart_eq, hBytes]
        rfl
      · rw [hLook] at hWaits
        cases hWaits

------------------------------------------------------------
-- Runs
------------------------------------------------------------

/- What may be done with a search and its buffer. -/
inductive Event where
/- Bytes are added at the end of the buffer. -/
| append (bs : Bytes)
| extract
deriving DecidableEq, Repr

/- Let one event happen. -/
def step
    (s : FrameSearch)
    (buffer : ByteQueue) : Event → Extraction
| .append bs => ⟨none, buffer.append bs, s⟩
| .extract => s.extract buffer

/- Let events happen in order, with the outcome of each. -/
def run
    (s : FrameSearch)
    (buffer : ByteQueue) : List Event → List Extraction
| [] => []
| e :: es =>
    let x := s.step buffer e
    x :: run x.after x.rest es

end FrameSearch

/-
  The same events, when nothing is remembered between them
  but the bytes and the counts.
-/
def rescans
    (limit : Nat)
    (stats : ScanStats)
    (bs : Bytes) : List FrameSearch.Event → List Rescan
| [] => []
| .append more :: es =>
    ⟨none, bs ++ more, stats⟩ ::
      rescans limit stats (bs ++ more) es
| .extract :: es =>
    let x := rescan limit stats bs
    x :: rescans limit x.stats x.rest es

namespace FrameSearch

/-
  When what is remembered of the buffer is right, a run
  comes to what searches from scratch do.
-/
theorem observed_run
    {s : FrameSearch}
    {buffer : ByteQueue}
    (hResumed : s.IsResumed buffer.toList)
    (es : List Event) :
    (s.run buffer es).map Extraction.observed =
      rescans s.maxFrameSize s.stats buffer.toList es := by
  induction es generalizing s buffer with
  | nil => rfl
  | cons e es ih =>
      cases e with
      | append bs =>
          have hMore := hResumed.append bs
          rw [← ByteQueue.toList_append] at hMore
          rw [run, step, List.map_cons, ih hMore, rescans]
          simp only [Extraction.observed,
            ByteQueue.toList_append]
      | extract =>
          have hSame := observed_extract hResumed
          have hLimit := s.maxFrameSize_extract buffer
          rw [run, step, List.map_cons,
            ih (isResumed_extract hResumed), rescans, hSame,
            hLimit, ← hSame]
          rfl

/-
  In any run that adds bytes and extracts frames, each
  extraction comes to the same frame, buffer and counts as
  one that remembers nothing: it looks for the first start
  marker from the front, and for the end marker from right
  behind it.  Whatever a search remembers, an extraction
  right after one without a frame changes nothing.
-/
theorem resumed_equals_rescan
    (limit : Nat) :
    (∀ es : List Event,
      let s : FrameSearch := { maxFrameSize := limit }
      (s.run (.ofList []) es).map Extraction.observed =
        rescans limit {} [] es) ∧
      ∀ (s : FrameSearch) (buffer : ByteQueue),
        let x := s.extract buffer
        x.frame = none → x.after.extract x.rest = x := by
  refine ⟨?_, ?_⟩
  · intro es s
    exact observed_run (Or.inl rfl) es
  · intro s buffer x hNone
    exact extract_of_extract_none hNone

/-
  The end marker of an open frame arrives in halves.  Then
  two open frames in a row are too large, half an end marker
  is kept with the third one, and a frame is cut out of it.
-/
theorem resumed_equals_rescan_in_cascade :
    let es : List Event :=
      [.append [7, 0xFF, 0xD8, 1, 0xFF], .extract,
        .append [0xD9, 0xFF, 0xD8, 2, 2, 0xFF, 0xD8, 3],
        .extract, .append [3, 0xFF, 0xD8, 4, 0xFF], .extract,
        .extract, .append [0xD9], .extract]
    let s : FrameSearch := { maxFrameSize := 5 }
    let buffer : ByteQueue := .ofList [7, 0xFF, 0xD8, 1]
    let x := s.extract buffer
    (s.run (.ofList []) es).map Extraction.observed =
        rescans 5 {} [] es ∧
      ((s.run (.ofList []) es).map Extraction.observed)[8]? =
        some
          ⟨some [0xFF, 0xD8, 4, 0xFF, 0xD9], [],
            ⟨2, 9, 2⟩⟩ ∧
      x.frame = none ∧
      x.after.extract x.rest = x := by
  intro es s buffer x
  have hNone : x.frame = none := by
    decide +kernel
  rcases resumed_equals_rescan 5 with ⟨hRun, hAgain⟩
  exact
    ⟨hRun es, by decide +kernel, hNone,
      hAgain s buffer hNone⟩

end FrameSearch

end Reframe
