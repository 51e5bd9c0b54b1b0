import Reframe.Proofs.Command.Scan
import Reframe.Proofs.Scan.Accounts

/-
  What a scan of the frames comes to that were scanned
  before.

  A frame that was handed out ends at its first end marker.
  So it is cut out again in front of any bytes, and frames
  one behind another are taken apart as they were put
  together, with no byte between them.

  Main declarations:
    * `Marked.first?_of_isWhole`
    * `Marked.frames_flatten`
    * `Scanner.Reads.oversized_of_run`
    * `Scanner.scans_whole`
    * `FrameReader.scans_own_output`
-/

namespace Reframe

namespace Marked

------------------------------------------------------------
-- Whole Frames One Behind Another
------------------------------------------------------------

/- A whole frame is the first one of bytes it is in front. -/
theorem first?_of_isWhole
    {frame : Bytes}
    (hWhole : IsWhole frame)
    (more : Bytes) :
    first? (frame ++ more) = some (frame, more) := by
  have hSize := hWhole.size_le
  have hStop :
      Marker.stop.find? frame Marker.size =
        some (frame.length - Marker.size) := by
    rw [Marker.find?_eq_some_iff]
    refine ⟨by omega, hWhole.stops, ?_⟩
    intro k hBehind hFront hAt
    have hLast := hWhole.stops_once k hBehind hAt
    omega
  have hAlone : first? frame = some (frame, []) := by
    rw [first?_of_open hWhole.starts, hStop, Option.map_some,
      Nat.sub_add_cancel (by omega), List.take_length,
      List.drop_length]
  exact first?_append hAlone more

/- Whole frames are cut out, and nothing is behind them. -/
theorem frames_flatten
    {frames' : List Bytes}
    (hWhole : ∀ frame ∈ frames', IsWhole frame) :
    frames frames'.flatten = frames' ∧
      unfinished frames'.flatten = [] := by
  induction frames' with
  | nil => exact ⟨frames_nil, unfinished_of_first?_none rfl⟩
  | cons frame rest ih =>
      rw [List.forall_mem_cons] at hWhole
      have hFirst := first?_of_isWhole hWhole.1 rest.flatten
      rcases ih hWhole.2 with ⟨hFrames, hOpen⟩
      rw [List.flatten_cons, frames_of_first? hFirst,
        unfinished_of_first? hFirst, hFrames, hOpen]
      exact ⟨rfl, rfl⟩

end Marked

------------------------------------------------------------
-- Nothing Is Dropped
------------------------------------------------------------

namespace FrameSearch

/- A look that drops no open frame counts none. -/
theorem oversized_look
    {s : FrameSearch}
    {buffer : ByteQueue}
    (hKept :
      ∀ rest after, s.look buffer ≠ .dropped rest after) :
    (s.look buffer).after.stats.oversized =
      s.stats.oversized := by
  have hStop :
      ∀ (t : FrameSearch) (opened : ByteQueue),
        (∀ rest after,
          t.lookForStop opened ≠ .dropped rest after) →
        (t.lookForStop opened).after.stats.oversized =
          t.stats.oversized := by
    intro t opened hKept
    unfold lookForStop at hKept ⊢
    split
    · rfl
    · split
      · rfl
      · rename_i hNone hExceeds
        simp only [hNone, if_neg hExceeds] at hKept
        exact absurd rfl (hKept _ _)
  unfold look at hKept ⊢
  split
  · rename_i hZero
    rw [if_pos hZero] at hKept
    split
    · rename_i i hStart
      simp only [hStart] at hKept
      exact hStop _ _ hKept
    · rfl
  · rename_i hOpen
    rw [if_neg hOpen] at hKept
    exact hStop s buffer hKept

/- Nothing is dropped while what is open is in the limit. -/
theorem oversized_extract
    {s : FrameSearch}
    {buffer : ByteQueue}
    (hResumed : s.IsResumed buffer.toList)
    (hFits :
      (Marked.unfinished buffer.toList).length ≤
        s.maxFrameSize) :
    (s.extract buffer).after.stats.oversized =
      s.stats.oversized := by
  have hReads := reads_look hResumed hFits
  have hLook :
      ∀ rest after, s.look buffer ≠ .dropped rest after := by
    intro rest after hDropped
    rw [hDropped] at hReads
    cases hReads
  have hSame := oversized_look hLook
  rw [extract]
  split
  · rename_i hFound
    rw [hFound] at hSame
    exact hSame
  · rename_i hWaiting
    rw [hWaiting] at hSame
    exact hSame
  · rename_i rest after hDropped
    exact absurd hDropped (hLook rest after)

end FrameSearch

namespace Scanner

/- A pull drops nothing while what is open is in the limit. -/
theorem Reads.oversized_next
    {s : Scanner}
    {bytes : Bytes}
    {read : List Bytes}
    (hReads : s.Reads bytes read)
    (hFits :
      (Marked.unfinished bytes).length ≤
        s.state.maxFrameSize) :
    s.next.2.stats.oversized = s.stats.oversized := by
  rw [hReads.yields.unfinished_eq_rest] at hFits
  rw [stats, s.next_eq.2.1]
  exact
    FrameSearch.oversized_extract hReads.resumed hFits

/- Pulls drop nothing while what is open is in the limit. -/
theorem Reads.oversized_of_pulls
    {s after : Scanner}
    {fs : List ScannedFrame}
    {isEnd : Bool}
    (hPulls : Pulls s fs after isEnd)
    {bytes : Bytes}
    {read : List Bytes}
    (hReads : s.Reads bytes read)
    (hFits :
      (Marked.unfinished bytes).length ≤
        s.state.maxFrameSize) :
    after.stats.oversized = s.stats.oversized := by
  induction hPulls generalizing read with
  | stopped s => rfl
  | ended hNext =>
      have hKept := hReads.oversized_next hFits
      rw [hNext] at hKept
      exact hKept
  | @pulled s t after f fs isEnd hNext hRest ih =>
      have hKept := hReads.oversized_next hFits
      have hPull := (hReads.next hFits).1
      have hLimit :=
        (Pulls.pulled hNext (.stopped t)).maxFrameSize_eq
      rw [hNext] at hKept hPull
      rw [← hLimit] at hFits
      exact (ih hPull hFits).trans hKept

/- A run drops nothing while what is open is in the limit. -/
theorem Reads.oversized_of_run
    {s : Scanner}
    (hReads : s.Reads [] [])
    {es : List Event}
    (hClear : .clear ∉ es)
    (hFits :
      ∀ seen, seen <+: es →
        (Marked.unfinished (stream seen)).length ≤
          s.state.maxFrameSize) :
    (s.after es).stats.oversized = s.stats.oversized := by
  induction es using List.reverseRecOn with
  | nil => rfl
  | append_singleton es e ih =>
      rw [List.mem_append, not_or, List.mem_singleton]
        at hClear
      have hFront :
          ∀ seen, seen <+: es →
            (Marked.unfinished (stream seen)).length ≤
              s.state.maxFrameSize :=
        fun seen hSeen =>
          hFits seen (hSeen.trans (List.prefix_append _ _))
      have hBefore := hReads.of_run hClear.1 hFront
      have hLast := hFits (es ++ [e]) (List.prefix_refl _)
      rw [stream_concat, ← s.maxFrameSize_after es] at hLast
      rcases (s.after es).pulls_step (Ne.symm hClear.2) with
        ⟨_, hPulls, _⟩
      rw [after_concat,
        Reads.oversized_of_pulls hPulls
          (hBefore.push e.chunk) hLast]
      exact ih hClear.1 hFront

------------------------------------------------------------
-- Scanning Whole Frames
------------------------------------------------------------

/- Feeding chunks does not clear. -/
theorem clear_not_mem_feeds
    (chunks : List Bytes) :
    Event.clear ∉ feeds chunks := by
  simp [feeds]

/- All frames of bytes that are fed are pulled. -/
theorem Reads.of_feeds
    {s : Scanner}
    (hReads : s.Reads [] [])
    {chunks : List Bytes}
    (hFits :
      ∀ seen, seen <+: feeds chunks →
        (Marked.unfinished (stream seen)).length ≤
          s.state.maxFrameSize) :
    (s.pulled (feeds chunks)).map ScannedFrame.data =
      Marked.frames chunks.flatten := by
  induction chunks using List.reverseRecOn with
  | nil => exact Marked.frames_nil.symm
  | append_singleton chunks chunk _ =>
      have hParts :
          feeds (chunks ++ [chunk]) =
            feeds chunks ++ [.feed chunk none] :=
        List.map_append
      rw [hParts] at hFits ⊢
      have hReads' :=
        hReads.of_run (clear_not_mem_feeds chunks)
          (fun seen hSeen =>
            hFits seen
              (hSeen.trans (List.prefix_append _ _)))
      have hLast := hFits _ (List.prefix_refl _)
      rw [stream_concat,
        ← s.maxFrameSize_after (feeds chunks)] at hLast
      have hAll :=
        (hReads'.step (e := .feed chunk none)
          (fun hSame => by cases hSame) hLast).2 trivial
      rw [pulled_concat, List.map_append, ← hAll,
        stream_feeds, List.flatten_append,
        List.flatten_singleton]
      rfl

/-
  What is open anywhere in whole frames one behind another
  is the front of a frame.
-/
theorem unfinished_le_of_isWhole
    {limit : Nat}
    {frames : List Bytes}
    (hWhole : ∀ frame ∈ frames, Marked.IsWhole frame)
    (hFits : ∀ frame ∈ frames, frame.length ≤ limit)
    {chunks : List Bytes}
    (hChunks : chunks.flatten = frames.flatten)
    {seen : List Event}
    (hSeen : seen <+: feeds chunks) :
    (Marked.unfinished (stream seen)).length ≤ limit := by
  rcases Marked.frames_flatten hWhole with
    ⟨hFrames, hOpen⟩
  rcases hSeen with ⟨later, hSplit⟩
  have hAll :
      stream seen ++ stream later = frames.flatten := by
    rw [← hChunks, ← stream_feeds, ← hSplit]
    simp [stream]
  have hAllFits : Marked.Fits limit frames.flatten := by
    constructor
    · rw [hFrames]
      exact hFits
    · rw [hOpen]
      exact Nat.zero_le limit
  rw [← hAll] at hAllFits
  exact hAllFits.of_append.unfinished_le

/-
  Whole frames one behind another are scanned as they are,
  in any chunks.  No byte is thrown away, none is left, and
  nothing is dropped for its size.
-/
theorem scans_whole
    {limit : Nat}
    {frames : List Bytes}
    (hWhole : ∀ frame ∈ frames, Marked.IsWhole frame)
    (hFits : ∀ frame ∈ frames, frame.length ≤ limit)
    {chunks : List Bytes}
    (hChunks : chunks.flatten = frames.flatten) :
    let s := withLimit limit
    let after := s.after (feeds chunks)
    s.pulled (feeds chunks) = numbered 0 frames ∧
      after.stats = ⟨frames.length, 0, 0⟩ ∧
      after.buffered = 0 := by
  intro s after
  have hSeen :
      ∀ seen, seen <+: feeds chunks →
        (Marked.unfinished (stream seen)).length ≤ limit :=
    fun seen => unfinished_le_of_isWhole hWhole hFits hChunks
  have hClear := clear_not_mem_feeds chunks
  have hReads : s.Reads [] [] := reads_of_empty rfl rfl
  have hData :
      (s.pulled (feeds chunks)).map ScannedFrame.data =
        frames := by
    rw [hReads.of_feeds hSeen, hChunks]
    exact (Marked.frames_flatten hWhole).1
  have hPulled :
      s.pulled (feeds chunks) = numbered 0 frames := by
    have hNumbers := s.sequence_pulled (feeds chunks)
    rw [eq_numbered hNumbers, hData]
    rfl
  have hCount : after.stats.frames = frames.length := by
    have hAfter := (s.frames_after (feeds chunks)).1
    rw [← List.length_map ScannedFrame.data, hData]
      at hAfter
    exact hAfter.trans (Nat.zero_add _)
  have hLength := (s.spends_run hClear).length_eq
  rw [hData, stream_feeds, hChunks] at hLength
  have hDropped : after.stats.oversized = 0 :=
    hReads.oversized_of_run hClear hSeen
  have hStart : s.stats.discardedBytes = 0 := rfl
  have hStart' : s.buffer.toList = [] := rfl
  rw [hStart, hStart', List.nil_append] at hLength
  have hDiscarded : after.stats.discardedBytes = 0 := by
    simp only [after]
    omega
  have hBuffer : after.buffered = 0 := by
    rw [buffered, ← ByteQueue.length_toList]
    simp only [after]
    omega
  refine ⟨hPulled, ?_, hBuffer⟩
  calc
    after.stats =
        ⟨after.stats.frames, after.stats.discardedBytes,
          after.stats.oversized⟩ := rfl
    _ = ⟨frames.length, 0, 0⟩ := by
        rw [hCount, hDiscarded, hDropped]

end Scanner

------------------------------------------------------------
-- Scanning What Was Scanned
------------------------------------------------------------

namespace FrameReader

/- The frames that are handed out of a source are numbered. -/
theorem readAll_eq_numbered
    (source : ByteSource)
    (limit chunkSize : Nat) :
    let fs := (ofSource source limit chunkSize).readAll.frames
    fs = numbered 0 (fs.map ScannedFrame.data) :=
  eq_numbered (map_sequence_readAll _)

/-
  Whole frames one behind another are read as they are, in
  any chunks.
-/
theorem reads_whole
    {limit : Nat}
    {frames : List Bytes}
    (hWhole : ∀ frame ∈ frames, Marked.IsWhole frame)
    (hFits : ∀ frame ∈ frames, frame.length ≤ limit)
    {chunks : List Bytes}
    (hChunks : chunks.flatten = frames.flatten)
    (chunkSize : Nat) :
    let run :=
      (ofSource (chunks.map .data) limit chunkSize).readAll
    run.frames = numbered 0 frames ∧
      run.failure = none ∧
      run.after.stats = ⟨frames.length, 0, 0⟩ ∧
      run.after.scanner.buffered = 0 := by
  intro run
  rcases exists_feeds_of_data limit chunkSize chunks with
    ⟨pieces, hPieces, hFrames, hFailure, hAfter⟩
  rcases Scanner.scans_whole hWhole hFits
      (hPieces.trans hChunks) with
    ⟨hPulled, hStats, _⟩
  refine ⟨hFrames.trans hPulled, hFailure, ?_, ?_⟩
  · rw [stats, hAfter]
    exact hStats
  · rw [hAfter]
    rfl

/-
  The loop of a scan and its summary print the bytes of all
  frames that are handed out, in raw form.
-/
theorem printed_of_readAll
    {s : Session}
    (hRaw : s.format = .raw)
    (input : ScanInput)
    (r : FrameReader) :
    let scan : Action Unit := do
      let after ← Action.emitFrames none input none 0 r
      Action.printSummary "stats" after.stats.json
    (scan.run s).2.output =
      s.output ++
        (r.readAll.frames.map ScannedFrame.data).flatten := by
  intro scan
  have hLoop :
      (Action.emitFrames none input none 0 r).run s = _ :=
    Action.run_emitFrames r.gives_readAll hRaw
      (fun dir hOut => by cases hOut)
      (fun dir hOut => by cases hOut)
  cases hFailure : r.readAll.failure with
  | some e =>
      rw [hFailure] at hLoop
      simp only [scan, Action.run_bind_error hLoop,
        Session.output_withFrames]
  | none =>
      rw [hFailure] at hLoop
      have hKept :=
        (s.format_withFrames none r.readAll.frames).trans hRaw
      simp only [scan, Action.run_bind hLoop,
        Action.run_printSummary hKept, Session.output_print,
        Session.output_withFrames, List.append_nil]

/-
  What a scan hands out of a source is printed in raw form
  one behind another, and nothing else is.  If no frame of
  it is too large, a further scan of that, in any chunks,
  hands out the same frames with the same numbers, throws no
  byte away and drops no frame.  Nothing is left in the
  buffer when all bytes were fed, so that nothing is lost
  when the reader is at their end.
-/
theorem scans_own_output
    (source : ByteSource)
    (limit chunkSize : Nat)
    (hFits :
      ∀ f ∈ (ofSource source limit chunkSize).readAll.frames,
        f.data.length ≤ limit) :
    let r := ofSource source limit chunkSize
    let fs := r.readAll.frames
    let printed := (fs.map ScannedFrame.data).flatten
    (∀ (s : Session) (input : ScanInput), s.format = .raw →
      let scan : Action Unit := do
        let after ← Action.emitFrames none input none 0 r
        Action.printSummary "stats" after.stats.json
      (scan.run s).2.output = s.output ++ printed) ∧
    ∀ chunks : List Bytes, chunks.flatten = printed →
      (∀ chunkSize',
        let run :=
          (ofSource (chunks.map .data) limit chunkSize').readAll
        run.frames = fs ∧
          run.failure = none ∧
          run.after.stats = ⟨fs.length, 0, 0⟩ ∧
          run.after.scanner.buffered = 0) ∧
      let s := Scanner.withLimit limit
      let after := s.after (Scanner.feeds chunks)
      s.pulled (Scanner.feeds chunks) = fs ∧
        after.stats = ⟨fs.length, 0, 0⟩ ∧
        after.buffered = 0 := by
  intro r fs printed
  have hWhole :
      ∀ frame ∈ fs.map ScannedFrame.data,
        Marked.IsWhole frame := by
    rw [List.forall_mem_map]
    exact fun f hMem => isWhole_of_mem_readAll hMem
  have hFits' :
      ∀ frame ∈ fs.map ScannedFrame.data,
        frame.length ≤ limit := by
    rw [List.forall_mem_map]
    exact hFits
  have hNumbered := readAll_eq_numbered source limit chunkSize
  have hLength : (fs.map ScannedFrame.data).length = fs.length :=
    List.length_map _
  refine ⟨?_, ?_⟩
  · intro s input hRaw scan
    exact printed_of_readAll hRaw input r
  · intro chunks hChunks
    refine ⟨?_, ?_⟩
    · intro chunkSize' run
      have hRun := reads_whole hWhole hFits' hChunks chunkSize'
      rw [hLength, ← hNumbered] at hRun
      exact hRun
    · intro s after
      have hRun := Scanner.scans_whole hWhole hFits' hChunks
      rw [hLength, ← hNumbered] at hRun
      exact hRun

/-
  Two frames between junk, the first one with a start marker
  inside, are scanned again in chunks that are cut between
  and inside of their markers.
-/
theorem scans_own_output_between_junk :
    let first : Bytes :=
      [0xFF, 0xD8, 1, 0xFF, 0xD8, 2, 0xFF, 0xD9]
    let second : Bytes := [0xFF, 0xD8, 3, 0xFF, 0xD9]
    let source : ByteSource :=
      [.data (7 :: 0xFF :: first), .data (0xFF :: second),
        .data [0xD9, 0xFF, 0xD8, 4]]
    let chunks : List Bytes :=
      [first.take 7, [0xD9, 0xFF], [], second.tail]
    let fs := (ofSource source 8 3).readAll.frames
    let run := (ofSource (chunks.map .data) 8 2).readAll
    fs = [⟨0, first⟩, ⟨1, second⟩] ∧
      run.frames = [⟨0, first⟩, ⟨1, second⟩] ∧
      run.after.stats = ⟨2, 0, 0⟩ := by
  intro first second source chunks fs run
  have hReceived :
      ∀ frame ∈ Marked.frames source.received,
        frame.length ≤ 8 := by
    decide +kernel
  have hFrames :
      (ofSource source 8 3).readAll.frames =
        [⟨0, first⟩, ⟨1, second⟩] := by
    rw [frames_readAll_ofSource 3 hReceived]
    decide +kernel
  have hFits :
      ∀ f ∈ (ofSource source 8 3).readAll.frames,
        f.data.length ≤ 8 := by
    rw [hFrames]
    decide
  rcases scans_own_output source 8 3 hFits with
    ⟨_, hAgain⟩
  rw [hFrames] at hAgain
  rcases (hAgain chunks rfl).1 2 with ⟨hSame, _, hStats, _⟩
  exact ⟨hFrames, hSame, hStats⟩

end FrameReader

end Reframe
