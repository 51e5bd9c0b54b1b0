import Reframe.Scan.Codec
import Reframe.Proofs.Scan.Accounts
import Reframe.Proofs.Scan.Due
import Reframe.Proofs.Scan.Rescan

/-
  A reader that owns its buffer and a codec on a buffer of
  its caller hand out the same frames of the same chunks.

  Both come to what a scanner does that is fed with one
  chunk after another and cleared in the end.  A codec goes
  on from there with another stream as a new one would, but
  for the numbers and counts.

  Main declarations:
    * `BufferCodec.decodeAll`
    * `BufferCodec.decodeChunks`
    * `Scanner.feeds`
    * `BufferCodec.Matches`
    * `BufferCodec.Matches.decode`
    * `BufferCodec.Matches.decodeChunks`
    * `FrameReader.readAll_eq_feeds`
    * `FrameReader.agrees_with_codec`
-/

namespace Reframe

------------------------------------------------------------
-- Frames And Counts Further Back
------------------------------------------------------------

/- Counts of two parts of a life. -/
instance : Add ScanStats where
  add a b :=
    { frames := a.frames + b.frames
      discardedBytes := a.discardedBytes + b.discardedBytes
      oversized := a.oversized + b.oversized }

/- The counts of a part in which nothing happened. -/
theorem ScanStats.none_add
    (a : ScanStats) :
    {} + a = a := by
  have hFrames := Nat.zero_add a.frames
  have hDiscarded := Nat.zero_add a.discardedBytes
  have hOversized := Nat.zero_add a.oversized
  change ScanStats.mk (0 + a.frames) (0 + a.discardedBytes)
    (0 + a.oversized) = a
  rw [hFrames, hDiscarded, hOversized]

/- What is thrown away is counted on. -/
theorem ScanStats.add_discard
    (a b : ScanStats)
    (n : Nat) :
    (a + b).discard n = a + b.discard n := by
  have hSum :
      a.discardedBytes + b.discardedBytes + n =
        a.discardedBytes + (b.discardedBytes + n) :=
    Nat.add_assoc _ _ _
  exact
    congrArg
      (fun discarded =>
        ScanStats.mk (a.frames + b.frames) discarded
          (a.oversized + b.oversized))
      hSum

/- A search from scratch goes on counting. -/
theorem rescan_add
    (limit : Nat)
    (old stats : ScanStats)
    (bs : Bytes) :
    rescan limit (old + stats) bs =
      { rescan limit stats bs with
        stats := old + (rescan limit stats bs).stats } := by
  fun_induction rescan limit stats bs with
  | case1 stats bs hStart =>
      rw [rescan_of_start_none hStart,
        ScanStats.add_discard]
  | case2 stats bs i hStart opened stats' j hStop n =>
      rw [rescan_of_start hStart, hStop]
      simp only [ScanStats.add_discard]
      rfl
  | case3 stats bs i hStart opened stats' hStop hFits =>
      rw [rescan_of_start hStart, hStop]
      simp only [ScanStats.add_discard]
      rw [if_pos hFits]
  | case4 stats bs i hStart opened stats' hStop hExceeds ih =>
      rw [rescan_of_start hStart, hStop]
      simp only [ScanStats.add_discard]
      rw [if_neg hExceeds, ← ih]
      rfl

/- A frame that `n` frames come in front of. -/
def ScannedFrame.later
    (n : Nat)
    (f : ScannedFrame) : ScannedFrame :=
  { f with sequence := n + f.sequence }

/- A frame that no other frames come in front of. -/
theorem ScannedFrame.later_zero :
    ScannedFrame.later 0 = id := by
  funext f
  rw [ScannedFrame.later, Nat.zero_add]
  rfl

------------------------------------------------------------
-- Streams Through A Codec
------------------------------------------------------------

/-
  What several calls of a codec came to: the frames, and the
  buffer and the codec after them.
-/
structure CodecRun where
  frames : List ScannedFrame
  buffer : Bytes
  codec : BufferCodec

namespace BufferCodec

/- What a call of a codec comes to. -/
theorem decode_eq_extract
    (c : BufferCodec)
    (buffer : Bytes) :
    let x := c.state.extract (.ofList buffer)
    c.decode buffer =
      ⟨x.frame.map (ScannedFrame.mk c.nextSequence),
        x.rest.toList,
        { state := x.after
          nextSequence :=
            c.nextSequence + x.frame.toList.length }⟩ := by
  intro x
  rw [decode]
  cases x.frame with
  | none => rfl
  | some data => rfl

/- A frame is cut off the buffer. -/
theorem length_lt_of_decode
    {c : BufferCodec}
    {buffer : Bytes}
    {f : ScannedFrame}
    (hFrame : (c.decode buffer).frame = some f) :
    (c.decode buffer).buffer.length < buffer.length := by
  unfold decode at hFrame ⊢
  cases hData :
      (c.state.extract (.ofList buffer)).frame with
  | none => simp [hData] at hFrame
  | some data =>
      have hLess := FrameSearch.size_lt_of_extract hData
      simp only [hData, ByteQueue.length_toList]
      exact hLess

/- The last calls hand out what the others would. -/
theorem decode_of_decodeEnd
    {c : BufferCodec}
    {buffer : Bytes}
    {f : ScannedFrame}
    (hFrame : (c.decodeEnd buffer).frame = some f) :
    c.decodeEnd buffer = c.decode buffer ∧
      (c.decode buffer).frame = some f := by
  unfold decodeEnd at hFrame ⊢
  cases hDecode : (c.decode buffer).frame with
  | none => simp [hDecode] at hFrame
  | some g => simpa [hDecode] using hFrame

/- Decode until there is no frame. -/
def decodeAll
    (c : BufferCodec)
    (buffer : Bytes) : CodecRun :=
  let d := c.decode buffer
  match _hFrame : d.frame with
  | none => ⟨[], d.buffer, d.codec⟩
  | some f =>
      let run := d.codec.decodeAll d.buffer
      { run with frames := f :: run.frames }
termination_by buffer.length
decreasing_by exact length_lt_of_decode _hFrame

/- Decode for the last time, until there is no frame. -/
def decodeEndAll
    (c : BufferCodec)
    (buffer : Bytes) : CodecRun :=
  let d := c.decodeEnd buffer
  match _hFrame : d.frame with
  | none => ⟨[], d.buffer, d.codec⟩
  | some f =>
      let run := d.codec.decodeEndAll d.buffer
      { run with frames := f :: run.frames }
termination_by buffer.length
decreasing_by
  rcases decode_of_decodeEnd _hFrame with ⟨hSame, hDecode⟩
  rw [hSame]
  exact length_lt_of_decode hDecode

/-
  Append one chunk after another to the buffer, decode all
  frames behind each of them, and for the last time behind
  all.
-/
def decodeChunks
    (c : BufferCodec)
    (buffer : Bytes) : List Bytes → CodecRun
| [] => c.decodeEndAll buffer
| chunk :: chunks =>
    let first := c.decodeAll (buffer ++ chunk)
    let run := first.codec.decodeChunks first.buffer chunks
    { run with frames := first.frames ++ run.frames }

end BufferCodec

namespace Scanner

/- The events that feed chunks and pull all frames. -/
def feeds
    (chunks : List Bytes) : List Event :=
  chunks.map (fun chunk => .feed chunk none)

/- What a pull comes to. -/
theorem next_eq_extract
    (s : Scanner) :
    let x := s.state.extract s.buffer
    s.next =
      (x.frame.map (ScannedFrame.mk s.nextSequence),
        { buffer := x.rest
          state := x.after
          nextSequence :=
            s.nextSequence + x.frame.toList.length }) := by
  intro x
  rw [next]
  cases x.frame with
  | none => rfl
  | some data => rfl

/- Without a frame at hand no frame is handed out. -/
theorem drain_of_none
    {s after : Scanner}
    (hNext : s.next = (none, after)) :
    s.drain = ([], after) := by
  rw [drain]
  split
  · rename_i hSame
    rw [hNext] at hSame
    cases hSame
    rfl
  · rename_i hOther
    rw [hNext] at hOther
    cases hOther

/- The frame at hand is handed out first. -/
theorem drain_of_some
    {s after : Scanner}
    {f : ScannedFrame}
    (hNext : s.next = (some f, after)) :
    s.drain = (f :: after.drain.1, after.drain.2) := by
  rw [drain]
  split
  · rename_i hOther
    rw [hNext] at hOther
    cases hOther
  · rename_i hSame
    rw [hNext] at hSame
    cases hSame
    rfl

/- When all frames were handed out, there is none. -/
theorem next_drain
    (s : Scanner) :
    s.drain.2.next = (none, s.drain.2) := by
  fun_induction drain s with
  | case1 s after hNext => exact next_of_next_none hNext
  | case2 s f after hNext r ih => exact ih

/- A scanner that is cleared is between two streams. -/
theorem clear_eq
    {s : Scanner}
    {limit n : Nat}
    (hLimit : s.state.maxFrameSize = limit)
    (hNumber : s.nextSequence = n) :
    s.clear =
      { withLimit limit with
        state := { maxFrameSize := limit, stats := s.stats }
        nextSequence := n } := by
  rw [← hLimit, ← hNumber]
  rfl

/- A new scanner has no frame to hand out. -/
theorem next_withLimit
    (limit : Nat) :
    (withLimit limit).next = (none, withLimit limit) := by
  have hExtract :
      (withLimit limit).state.extract {} =
        ⟨none, {}, (withLimit limit).state⟩ :=
    FrameSearch.extract_of_look_waiting rfl
  rw [next]
  simp only [withLimit] at hExtract ⊢
  rw [hExtract]

end Scanner

namespace BufferCodec

------------------------------------------------------------
-- Codecs And Scanners
------------------------------------------------------------

/-
  A codec on a buffer stands where a scanner does, with `n`
  frames and some counts further back.
-/
structure Matches
    (n : Nat)
    (old : ScanStats)
    (s : Scanner)
    (c : BufferCodec)
    (buffer : Bytes) : Prop where
  buffer_eq : buffer = s.buffer.toList
  limit_eq : c.state.maxFrameSize = s.state.maxFrameSize
  stats_eq : c.stats = old + s.stats
  number_eq : c.nextSequence = n + s.nextSequence
  scanner_resumed : s.state.IsResumed s.buffer.toList
  codec_resumed : c.state.IsResumed buffer

section Matching

variable {n : Nat} {old : ScanStats} {s : Scanner}
variable {c : BufferCodec} {buffer : Bytes}

/- The same chunk is taken in. -/
theorem Matches.push
    (hMatches : Matches n old s c buffer)
    (chunk : Bytes) :
    Matches n old (s.push chunk) c (buffer ++ chunk) where
  buffer_eq := by
    rw [Scanner.push, ByteQueue.toList_append,
      hMatches.buffer_eq]
  limit_eq := hMatches.limit_eq
  stats_eq := hMatches.stats_eq
  number_eq := hMatches.number_eq
  scanner_resumed := by
    rw [Scanner.push, ByteQueue.toList_append]
    exact hMatches.scanner_resumed.append chunk
  codec_resumed := hMatches.codec_resumed.append chunk

/- The two extractions come to the same. -/
theorem Matches.extract
    (hMatches : Matches n old s c buffer) :
    let x := s.state.extract s.buffer
    let y := c.state.extract (.ofList buffer)
    y.frame = x.frame ∧
      y.rest.toList = x.rest.toList ∧
      y.after.stats = old + x.after.stats := by
  intro x y
  -- What each of them remembers does not show: both come to
  -- the search from scratch in the same bytes.
  have hScanner :=
    FrameSearch.observed_extract hMatches.scanner_resumed
  have hCodec :=
    @FrameSearch.observed_extract c.state (.ofList buffer)
      hMatches.codec_resumed
  have hStats : c.state.stats = old + s.state.stats :=
    hMatches.stats_eq
  rw [← hMatches.buffer_eq] at hScanner
  rw [hMatches.limit_eq, hStats, ByteQueue.toList_ofList,
    rescan_add, ← hScanner] at hCodec
  simp only [Extraction.observed, Rescan.mk.injEq] at hCodec
  exact hCodec

/-
  The codec hands out the frame that the scanner does, and
  they match behind it.
-/
theorem Matches.decode
    (hMatches : Matches n old s c buffer) :
    let d := c.decode buffer
    d.frame = s.next.1.map (ScannedFrame.later n) ∧
      Matches n old s.next.2 d.codec d.buffer := by
  intro d
  rcases hMatches.extract with ⟨hFrame, hRest, hStats⟩
  have hNext := s.next_eq_extract
  have hDecode := c.decode_eq_extract buffer
  have hNumber := hMatches.number_eq
  have hLimit :
      (c.state.extract
          (.ofList buffer)).after.maxFrameSize =
        (s.state.extract s.buffer).after.maxFrameSize := by
    rw [FrameSearch.maxFrameSize_extract,
      FrameSearch.maxFrameSize_extract, hMatches.limit_eq]
  simp only [d, hDecode, hNext, hFrame, hNumber]
  refine ⟨?_, ?_⟩
  · rw [Option.map_map]
    rfl
  · exact
      { buffer_eq := hRest
        limit_eq := hLimit
        stats_eq := hStats
        number_eq := Nat.add_assoc _ _ _
        scanner_resumed :=
          FrameSearch.isResumed_extract
            hMatches.scanner_resumed
        codec_resumed :=
          @FrameSearch.isResumed_extract c.state
            (.ofList buffer) hMatches.codec_resumed }

/- Decoding all frames is pulling all frames. -/
theorem Matches.decodeAll
    (hMatches : Matches n old s c buffer) :
    let run := c.decodeAll buffer
    run.frames =
        s.drain.1.map (ScannedFrame.later n) ∧
      Matches n old s.drain.2 run.codec run.buffer := by
  induction s using Scanner.drain.induct
    generalizing c buffer with
  | case1 s after hNext =>
      rcases hMatches.decode with ⟨hFrame, hAfter⟩
      rw [hNext] at hFrame hAfter
      rw [Scanner.drain_of_none hNext,
        BufferCodec.decodeAll]
      dsimp only
      split
      · exact ⟨rfl, hAfter⟩
      · rename_i hSome
        rw [hFrame] at hSome
        cases hSome
  | case2 s f after hNext ih =>
      rcases hMatches.decode with ⟨hFrame, hAfter⟩
      rw [hNext] at hFrame hAfter
      rw [Scanner.drain_of_some hNext,
        BufferCodec.decodeAll]
      dsimp only
      split
      · rename_i hNone
        rw [hFrame] at hNone
        cases hNone
      · rename_i g hSome
        rw [hFrame, Option.map_some, Option.some.injEq]
          at hSome
        rcases ih hAfter with ⟨hFrames, hRest⟩
        rw [hFrames, ← hSome]
        exact ⟨rfl, hRest⟩

/-
  When no frame is left, the last call drops what is in the
  buffer, as clearing the scanner does.
-/
theorem Matches.decodeEndAll
    (hMatches : Matches n old s c buffer)
    (hNext : s.next = (none, s)) :
    let run := c.decodeEndAll buffer
    run.frames = [] ∧
      run.codec.state.resumeAt = 0 ∧
      Matches n old s.clear run.codec run.buffer := by
  rcases hMatches.decode with ⟨hFrame, hAfter⟩
  rw [hNext] at hFrame hAfter
  rw [Option.map_none] at hFrame
  have hEnd :
      c.decodeEnd buffer =
        ⟨none, [],
          { (c.decode buffer).codec with
            state := (c.decode buffer).codec.state.reset }⟩ := by
    simp only [BufferCodec.decodeEnd, hFrame]
  -- The last call has no frame, so it is the only one.
  rw [BufferCodec.decodeEndAll]
  dsimp only
  rw [hEnd]
  refine ⟨rfl, rfl, ?_⟩
  exact
    { buffer_eq := rfl
      limit_eq := hAfter.limit_eq
      stats_eq := hAfter.stats_eq
      number_eq := hAfter.number_eq
      scanner_resumed := Or.inl rfl
      codec_resumed := Or.inl rfl }

/-
  Decoding chunks is feeding a scanner that has no frame to
  hand out, and clearing it.
-/
theorem Matches.decodeChunks
    (hMatches : Matches n old s c buffer)
    (hNext : s.next = (none, s))
    (chunks : List Bytes) :
    let es := Scanner.feeds chunks
    let run := c.decodeChunks buffer chunks
    run.frames =
        (s.pulled es).map (ScannedFrame.later n) ∧
      run.codec.state.resumeAt = 0 ∧
      Matches n old (s.after es).clear run.codec
        run.buffer := by
  induction chunks generalizing s c buffer with
  | nil => exact hMatches.decodeEndAll hNext
  | cons chunk chunks ih =>
      rcases (hMatches.push chunk).decodeAll with
        ⟨hFirst, hAfter⟩
      rcases ih hAfter (s.push chunk).next_drain with
        ⟨hRest, hReset, hEnd⟩
      have hPulled :
          s.pulled (Scanner.feeds (chunk :: chunks)) =
            (s.push chunk).drain.1 ++
              (s.push chunk).drain.2.pulled
                (Scanner.feeds chunks) :=
        rfl
      refine ⟨?_, hReset, hEnd⟩
      rw [BufferCodec.decodeChunks, hPulled,
        List.map_append, ← hFirst, ← hRest]

end Matching

/- Between two streams a codec is a new one but for counts. -/
theorem matches_between
    (limit n : Nat)
    (old : ScanStats) :
    Matches n old (Scanner.withLimit limit)
      { state := { maxFrameSize := limit, stats := old }
        nextSequence := n } [] where
  buffer_eq := rfl
  limit_eq := rfl
  stats_eq := rfl
  number_eq := rfl
  scanner_resumed := Or.inl rfl
  codec_resumed := Or.inl rfl

/- A codec with nothing open is between two streams. -/
theorem eq_between
    {c : BufferCodec}
    {limit n : Nat}
    {old : ScanStats}
    (hLimit : c.state.maxFrameSize = limit)
    (hReset : c.state.resumeAt = 0)
    (hStats : c.state.stats = old)
    (hNumber : c.nextSequence = n) :
    c =
      { state := { maxFrameSize := limit, stats := old }
        nextSequence := n } := by
  rcases c with ⟨⟨limit', resumeAt, stats⟩, number⟩
  cases hLimit
  cases hReset
  cases hStats
  cases hNumber
  rfl

/- One stream takes a codec from between streams to there. -/
theorem decodeChunks_between
    (limit n : Nat)
    (old : ScanStats)
    (chunks : List Bytes) :
    let s := Scanner.withLimit limit
    let es := Scanner.feeds chunks
    let codec : BufferCodec :=
      { state := { maxFrameSize := limit, stats := old }
        nextSequence := n }
    let run := codec.decodeChunks [] chunks
    run.frames = (s.pulled es).map (ScannedFrame.later n) ∧
      run.buffer = [] ∧
      run.codec =
        { state :=
            { maxFrameSize := limit
              stats := old + (s.after es).stats }
          nextSequence := n + run.frames.length } := by
  intro s es codec run
  rcases (matches_between limit n old).decodeChunks
      (Scanner.next_withLimit limit) chunks with
    ⟨hFrames, hReset, hMatches⟩
  have hLimit : run.codec.state.maxFrameSize = limit :=
    hMatches.limit_eq.trans (s.maxFrameSize_after es)
  have hStats :
      run.codec.state.stats = old + (s.after es).stats :=
    hMatches.stats_eq
  have hNumber :
      run.codec.nextSequence = n + run.frames.length := by
    have hAfter := (s.frames_after es).2
    rw [hFrames, List.length_map]
    exact
      hMatches.number_eq.trans
        (congrArg (n + ·) (hAfter.trans (Nat.zero_add _)))
  exact
    ⟨hFrames, hMatches.buffer_eq,
      eq_between hLimit hReset hStats hNumber⟩

/-
  A codec that is between two streams goes on as a new one
  would start, but for numbers and counts.
-/
theorem decodeChunks_further
    {c : BufferCodec}
    {buffer : Bytes}
    {limit n : Nat}
    {old : ScanStats}
    (hBetween :
      c =
        { state := { maxFrameSize := limit, stats := old }
          nextSequence := n })
    (hEmpty : buffer = [])
    (chunks : List Bytes) :
    let y := c.decodeChunks buffer chunks
    let z := (withLimit limit).decodeChunks [] chunks
    y.frames = z.frames.map (ScannedFrame.later n) ∧
      y.codec.stats = old + z.codec.stats ∧
      y.codec.nextSequence = n + z.frames.length ∧
      y.buffer = [] := by
  intro y z
  cases hBetween
  cases hEmpty
  rcases decodeChunks_between limit n old chunks with
    ⟨hFrames, hBuffer, hCodec⟩
  rcases decodeChunks_between limit 0 {} chunks with
    ⟨hNew, _, hNewCodec⟩
  rw [ScannedFrame.later_zero, List.map_id] at hNew
  rw [ScanStats.none_add] at hNewCodec
  have hFurther :
      y.frames = z.frames.map (ScannedFrame.later n) :=
    hFrames.trans (congrArg _ hNew.symm)
  have hStats : y.codec.stats = old + z.codec.stats :=
    (congrArg stats hCodec).trans
      (congrArg (fun c => old + c.stats) hNewCodec.symm)
  have hNumber :
      y.codec.nextSequence = n + z.frames.length := by
    have hLength := congrArg List.length hFurther
    rw [List.length_map] at hLength
    rw [← hLength]
    exact congrArg nextSequence hCodec
  exact ⟨hFurther, hStats, hNumber, hBuffer⟩

end BufferCodec

/- Chunks that may be read at once are read as they are. -/
theorem ByteSource.arrivals_of_chunks
    {capacity : Nat}
    (hCapacity : 0 < capacity)
    {chunks : List Bytes}
    (hChunks :
      ∀ chunk ∈ chunks,
        chunk ≠ [] ∧ chunk.length ≤ capacity) :
    ByteSource.arrivals capacity
        (chunks.map ReadEvent.data) =
      chunks.map Except.ok := by
  induction chunks with
  | nil => rfl
  | cons chunk chunks ih =>
      have hRest :=
        ih (fun c hc => hChunks c (List.mem_cons_of_mem _ hc))
      rcases hChunks chunk List.mem_cons_self with
        ⟨hSome, hFits⟩
      rw [arrivals] at hRest ⊢
      rw [List.map_cons, List.map_cons, List.flatMap_cons,
        hRest, arrivalsOf, pieces_of_ne_nil hCapacity hSome,
        List.take_of_length_le hFits,
        List.drop_eq_nil_of_le hFits, pieces_nil hCapacity]
      rfl

namespace FrameReader

------------------------------------------------------------
-- Readers And Scanners
------------------------------------------------------------

/- All calls are the first one and those behind it. -/
theorem readAll_eq
    (r : FrameReader) :
    r.readAll =
      match r.read with
      | (.error e, after) => ⟨[], some e, after⟩
      | (.ok none, after) => ⟨[], none, after⟩
      | (.ok (some f), after) =>
          { after.readAll with
            frames := f :: after.readAll.frames } := by
  rw [readAll]
  split
  · rename_i hRead
    rw [hRead]
  · rename_i hRead
    rw [hRead]
  · rename_i hRead
    rw [hRead]

/- A turn that reads on is made in front of all calls. -/
theorem readAll_of_again
    {r s : FrameReader}
    (hTurn : r.turn = .again s) :
    r.readAll = s.readAll := by
  have hRead : r.read = s.read := by
    rw [read_eq_turn, hTurn]
    rfl
  rw [readAll_eq, hRead, ← readAll_eq]

/- The frames at hand are handed out first. -/
theorem readAll_drain
    (r : FrameReader)
    (s : Scanner) :
    ({ r with scanner := s } : FrameReader).readAll =
      let run :=
        ({ r with scanner := s.drain.2 } :
          FrameReader).readAll
      { run with frames := s.drain.1 ++ run.frames } := by
  induction s using Scanner.drain.induct with
  | case1 s after hNext =>
      have hAgain := Scanner.next_of_next_none hNext
      have hRead :
          ({ r with scanner := s } : FrameReader).read =
            ({ r with scanner := after } :
              FrameReader).read := by
        simp only [read, hNext, hAgain]
      rw [Scanner.drain_of_none hNext, readAll_eq, hRead,
        ← readAll_eq]
      rfl
  | case2 s f after hNext ih =>
      have hRead :
          ({ r with scanner := s } : FrameReader).read =
            (.ok (some f), { r with scanner := after }) := by
        simp only [read, hNext]
      rw [Scanner.drain_of_some hNext, readAll_eq, hRead]
      simp only [ih, List.cons_append]

/- A turn that reads a chunk goes on. -/
theorem turn_of_chunk
    {r : FrameReader}
    {chunk : Bytes}
    {rest : List Arrival}
    (hNext : r.scanner.next = (none, r.scanner))
    (hOpen : r.ended = false)
    (hChunk : chunk ≠ [])
    (hPending : r.pending = .ok chunk :: rest) :
    r.turn =
      .again
        { r with
          pending := rest
          scanner := r.scanner.push chunk } := by
  simp only [turn, hNext, hOpen, hPending]
  cases chunk with
  | nil => exact absurd rfl hChunk
  | cons b bs => rfl

/-
  A reader that has no frame to hand out and reads chunks
  hands out what its scanner does that is fed with them, and
  clears it in the end.
-/
theorem readAll_eq_feeds
    {chunks : List Bytes}
    (hChunks : ∀ chunk ∈ chunks, chunk ≠ [])
    {r : FrameReader}
    (hPending : r.pending = chunks.map Except.ok)
    (hOpen : r.ended = false)
    (hNext : r.scanner.next = (none, r.scanner)) :
    let es := Scanner.feeds chunks
    r.readAll =
      ⟨r.scanner.pulled es, none,
        { r with
          pending := []
          scanner := (r.scanner.after es).clear
          ended := true }⟩ := by
  induction chunks generalizing r with
  | nil =>
      have hRead :
          r.read = (.ok none, r.finish []) := by
        simp only [read, hNext, hOpen, hPending,
          List.map_nil, readMore]
        rfl
      rw [readAll_eq, hRead]
      rfl
  | cons chunk chunks ih =>
      -- One turn reads the chunk.  The calls behind it hand
      -- out the frames in it before anything else is read.
      have hTurn :=
        turn_of_chunk hNext hOpen
          (hChunks chunk List.mem_cons_self) hPending
      have hDrain :=
        readAll_drain
          { r with pending := chunks.map Except.ok }
          (r.scanner.push chunk)
      have hRest :=
        @ih (fun c hc => hChunks c (List.mem_cons_of_mem _ hc))
          { r with
            pending := chunks.map Except.ok
            scanner := (r.scanner.push chunk).drain.2 }
          rfl hOpen (r.scanner.push chunk).next_drain
      dsimp only at hDrain hRest
      rw [hRest] at hDrain
      exact (readAll_of_again hTurn).trans hDrain

/- Reading chunks to the end is feeding a new scanner. -/
theorem readAll_ofSource
    (limit : Nat)
    {size : Nat}
    {chunks : List Bytes}
    (hChunks :
      ∀ chunk ∈ chunks,
        chunk ≠ [] ∧ chunk.length ≤ max size 1) :
    let es := Scanner.feeds chunks
    let s := Scanner.withLimit limit
    let run := (ofSource (chunks.map .data) limit size).readAll
    run.frames = s.pulled es ∧
      run.failure = none ∧
      run.after.scanner = (s.after es).clear := by
  intro es s run
  have hPending :=
    ByteSource.arrivals_of_chunks
      (Nat.lt_of_lt_of_le Nat.zero_lt_one (Nat.le_max_right _ _))
      hChunks
  have hRun :=
    readAll_eq_feeds (fun c hc => (hChunks c hc).1)
      (r := ofSource (chunks.map .data) limit size)
      hPending rfl (Scanner.next_withLimit limit)
  dsimp only at hRun
  simp only [run, hRun]
  exact ⟨rfl, trivial, rfl⟩

------------------------------------------------------------
-- Agreement
------------------------------------------------------------

/-
  A reader whose reads yield chunks, and a codec that is
  given the same chunks and then the end, hand out the same
  frames under the same numbers, with the same counts, and
  keep no bytes.  Both scan from there as new ones would:
  a codec that is given another stream hands out the frames
  that a new one would, numbered and counted on.
-/
theorem agrees_with_codec
    (limit size : Nat)
    (chunks more : List Bytes)
    (hChunks :
      ∀ chunk ∈ chunks,
        chunk ≠ [] ∧ chunk.length ≤ max size 1) :
    let run := (ofSource (chunks.map .data) limit size).readAll
    let new := BufferCodec.withLimit limit
    let x := new.decodeChunks [] chunks
    let y := x.codec.decodeChunks x.buffer more
    let z := new.decodeChunks [] more
    (run.failure = none ∧
        x.frames = run.frames ∧
        x.codec.stats = run.after.stats ∧
        x.buffer = [] ∧
        run.after.scanner.buffer.toList = []) ∧
      (x.codec =
          { state := { new.state with stats := x.codec.stats }
            nextSequence := x.frames.length } ∧
        run.after.scanner =
          { Scanner.withLimit limit with
            state :=
              { new.state with stats := run.after.stats }
            nextSequence := run.frames.length }) ∧
      y.frames =
          z.frames.map (ScannedFrame.later x.frames.length) ∧
        y.codec.stats = x.codec.stats + z.codec.stats ∧
        y.codec.nextSequence =
          x.frames.length + z.frames.length ∧
        y.buffer = [] := by
  intro run new x y z
  let s := Scanner.withLimit limit
  let es := Scanner.feeds chunks
  rcases readAll_ofSource limit hChunks with
    ⟨hFrames, hFailure, hScanner⟩
  rcases BufferCodec.decodeChunks_between limit 0 {} chunks
    with ⟨hFirst, hBuffer, hCodec⟩
  rw [ScannedFrame.later_zero, List.map_id] at hFirst
  rw [ScanStats.none_add, Nat.zero_add] at hCodec
  change x.frames = s.pulled es at hFirst
  change x.buffer = [] at hBuffer
  have hCount : x.codec.stats = (s.after es).stats :=
    congrArg BufferCodec.stats hCodec
  have hSame : x.codec.stats = run.after.stats :=
    hCount.trans (congrArg Scanner.stats hScanner).symm
  have hRested :
      x.codec =
        { state := { new.state with stats := x.codec.stats }
          nextSequence := x.frames.length } := by
    rw [hCount]
    exact hCodec
  have hCleared :
      run.after.scanner =
        { Scanner.withLimit limit with
          state :=
            { new.state with stats := run.after.stats }
          nextSequence := run.frames.length } := by
    have hLimit := s.maxFrameSize_after es
    have hNumber := (s.frames_after es).2
    rw [Nat.add_comm] at hNumber
    rw [← hSame, hCount, hFrames]
    exact
      hScanner.trans
        (Scanner.clear_eq hLimit hNumber)
  exact
    ⟨⟨hFailure, hFirst.trans hFrames.symm, hSame, hBuffer,
        congrArg (fun s => s.buffer.toList) hCleared⟩,
      ⟨hRested, hCleared⟩,
      BufferCodec.decodeChunks_further hRested hBuffer more⟩

/-
  Both markers of the first frame lie across chunks, the
  second frame grows too large, and the third one is open at
  the end.  Its end marker comes first in the other stream,
  where it is junk.
-/
theorem agrees_with_codec_across_chunks :
    let chunks : List Bytes :=
      [[7, 0xFF], [0xD8, 1, 0xFF], [0xD9, 0xFF, 0xD8, 2],
        [3, 3, 3, 3], [3, 0xFF, 0xD8, 4]]
    let more : List Bytes :=
      [[5, 0xFF, 0xD9, 0xFF], [0xD8, 6, 0xFF, 0xD9]]
    let run := (ofSource (chunks.map .data) 6 4).readAll
    let new := BufferCodec.withLimit 6
    let x := new.decodeChunks [] chunks
    let y := x.codec.decodeChunks x.buffer more
    (∀ chunk ∈ chunks,
        chunk ≠ [] ∧ chunk.length ≤ max 4 1) ∧
      x.frames = run.frames ∧
      x.codec.stats = run.after.stats ∧
      x.codec.stats = ⟨1, 9, 1⟩ ∧
      y.frames = [⟨1, [0xFF, 0xD8, 6, 0xFF, 0xD9]⟩] := by
  intro chunks more run new x y
  have hChunks :
      ∀ chunk ∈ chunks,
        chunk ≠ [] ∧ chunk.length ≤ max 4 1 := by
    decide
  rcases agrees_with_codec 6 4 chunks more hChunks with
    ⟨⟨_, hFrames, hStats, _, _⟩, _, _⟩
  exact
    ⟨hChunks, hFrames, hStats, by decide +kernel,
      by decide +kernel⟩

end FrameReader

end Reframe
