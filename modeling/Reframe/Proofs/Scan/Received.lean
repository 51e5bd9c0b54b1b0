import Reframe.Proofs.Scan.Due
import Reframe.Proofs.Scan.Retention

/-
  What a reader hands out of the bytes that it receives
  before its source ends or fails: all complete frames, as
  long as none of them exceeds the limit.

  An open frame that is given up for its size never comes to
  an end: a frame would come of it that exceeds the limit.

  Main declarations:
    * `ByteSource.received`
    * `ByteSource.received_ofArrivals`
    * `FrameSearch.frames_extract`
    * `FrameReader.outstanding`
    * `FrameReader.Delivers`
    * `FrameReader.delivers_read`
-/

namespace Reframe

namespace ByteSource

------------------------------------------------------------
-- Bytes That Are Received
------------------------------------------------------------

/-
  The bytes in front of the first end and of the first
  failure, interrupted reads apart.
-/
def received : ByteSource → Bytes
| [] => []
| .data bs :: source => bs ++ received source
| .finish :: _ => []
| .fail e :: source =>
    if e.kind = .interrupted then received source else []

/- Pieces in front are received first. -/
theorem received_pieces
    {ps : List Bytes}
    (hPieces : ∀ piece ∈ ps, piece ≠ [])
    (source : ByteSource) :
    received (ofArrivals (ps.map Except.ok) ++ source) =
      ps.flatten ++ source.received := by
  induction ps with
  | nil => rfl
  | cons piece ps ih =>
      have hHere :=
        Arrival.event_of_ne_nil (hPieces piece (by simp))
      have hRest :=
        ih (fun p hp => hPieces p (by simp [hp]))
      rw [ofArrivals] at hRest
      rw [ofArrivals, List.map_cons, List.map_cons,
        List.cons_append, hHere, received, hRest,
        List.flatten_cons, List.append_assoc]

/- However a source is read, the same is received. -/
theorem received_ofArrivals
    {capacity : Nat}
    (hCapacity : 0 < capacity)
    (source : ByteSource) :
    (ofArrivals (source.arrivals capacity)).received =
      source.received := by
  fun_induction received source with
  | case1 => rfl
  | case2 bs source ih =>
      rcases pieces_spec hCapacity bs with ⟨hAll, hEach⟩
      rw [ofArrivals_cons, arrivalsOf,
        received_pieces hEach, hAll, ih]
  | case3 source => rfl
  | case4 e source hKind ih =>
      rw [ofArrivals_cons, ← ih]
      exact if_pos hKind
  | case5 e source hKind => exact if_neg hKind

/- Bytes that are read are received. -/
theorem received_chunk
    {chunk : Bytes}
    (hChunk : chunk ≠ [])
    (rest : List Arrival) :
    (ofArrivals (.ok chunk :: rest)).received =
      chunk ++ (ofArrivals rest).received := by
  rw [ofArrivals, List.map_cons,
    Arrival.event_of_ne_nil hChunk]
  rfl

/- Reading goes on behind an interrupted read. -/
theorem received_interrupted
    {e : IoError}
    (hKind : e.kind = .interrupted)
    (rest : List Arrival) :
    (ofArrivals (.error e :: rest)).received =
      (ofArrivals rest).received :=
  if_pos hKind

/- Nothing is received behind a failure. -/
theorem received_failed
    {e : IoError}
    (hKind : e.kind ≠ .interrupted)
    (rest : List Arrival) :
    (ofArrivals (.error e :: rest)).received = [] :=
  if_neg hKind

end ByteSource

namespace Marked

------------------------------------------------------------
-- Bytes Without Frames
------------------------------------------------------------

/- Without an end marker there is no frame. -/
theorem frames_of_no_stop
    {bs : Bytes}
    (hStop :
      ∀ k, Marker.size ≤ k → ¬ Marker.stop.IsAt bs k) :
    frames bs = [] := by
  apply frames_of_first?_none
  rw [first?, fromStart?]
  cases hStart : Marker.start.find? bs 0 with
  | none => rfl
  | some i =>
      have hNone :
          Marker.stop.find? (bs.drop i) Marker.size =
            none := by
        rw [Marker.find?_eq_none_iff]
        intro k hBehind
        rw [Marker.isAt_drop_iff]
        exact hStop (i + k) (by omega)
      simp [hNone]

end Marked

namespace FrameSearch

/- There is no frame in a drained buffer. -/
theorem IsDrained.frames_eq
    {limit : Nat}
    {bs : Bytes}
    (hDrained : IsDrained limit bs) :
    Marked.frames bs = [] := by
  cases hDrained with
  | empty => exact Marked.frames_nil
  | half => exact Marked.frames_of_first?_none rfl
  | opened _ hStops _ => exact Marked.frames_of_no_stop hStops

------------------------------------------------------------
-- Frames That Are Given Up
------------------------------------------------------------

/-
  An open frame is dropped with its start marker, and up to
  its end at most.
-/
theorem exists_rest_of_dropped
    {s after : FrameSearch}
    {opened rest : ByteQueue}
    (hStarts : Marker.start.IsAt opened.toList 0)
    (hLook : s.lookForStop opened = .dropped rest after) :
    ∃ n, Marker.size ≤ n ∧ n ≤ opened.toList.length ∧
      rest.toList = opened.toList.drop n := by
  rcases lookForStop_of_dropped hLook with ⟨rfl, _⟩
  have hFront : opened.toList = opened.toList.drop 0 := rfl
  rcases drop_nextStart_cases hFront with
    ⟨k, hNext, hRest, _⟩ | ⟨_, hRest⟩
  · have hBounds := Marker.find?_bounds hNext
    exact ⟨k, by omega, by omega, hRest⟩
  · have hWithin := hStarts.lt_length
    refine
      ⟨opened.toList.length, ?_, Nat.le_refl _, ?_⟩
    · simp only [Marker.size]
      omega
    · rw [hRest, List.drop_length]

/-
  An open frame is given up for its size, and more bytes
  come.  If no frame of all these bytes exceeds the limit,
  there is none, and none in what is left either.
-/
theorem frames_of_lookForStop_dropped
    {s after : FrameSearch}
    {opened rest : ByteQueue}
    {more : Bytes}
    (hOpen : IsOpenUpTo opened.toList s.resumeAt)
    (hLook : s.lookForStop opened = .dropped rest after)
    (hFits :
      ∀ frame ∈ Marked.frames (opened.toList ++ more),
        frame.length ≤ s.maxFrameSize) :
    Marked.frames (opened.toList ++ more) = [] ∧
      Marked.frames (rest.toList ++ more) = [] := by
  have hStop :
      Marker.stop.find? opened.toList Marker.size = none := by
    rw [← hOpen.find?_eq]
    exact
      find?_stop_of_not_found s opened (by simp [hLook])
  have hFirst : Marked.first? opened.toList = none := by
    rw [Marked.first?_of_open hOpen.starts, hStop]
    rfl
  have hOpened := Marked.fromStart?_of_open hOpen.starts
  have hLarge := (lookForStop_of_dropped hLook).2.1
  rcases Marked.first?_append_of_open hFirst hOpened more
    with ⟨frame, behind, hSome, hLonger⟩ | ⟨hNone, _⟩
  · -- The end marker comes, but the frame is too large.
    have hFrame := hFits frame (by
      rw [Marked.frames_of_first? hSome]
      exact List.mem_cons_self)
    rw [opened.length_toList] at hLonger
    omega
  · -- The end marker never comes.
    refine ⟨Marked.frames_of_first?_none hNone, ?_⟩
    have hStarts := (hOpen.append more).starts
    rw [Marked.first?_of_open hStarts,
      Option.map_eq_none_iff,
      Marker.find?_eq_none_iff] at hNone
    rcases exists_rest_of_dropped hOpen.starts hLook with
      ⟨n, hBehind, hWithin, hRest⟩
    apply Marked.frames_of_no_stop
    intro k _
    rw [hRest, ← List.drop_append_of_le_length hWithin,
      Marker.isAt_drop_iff]
    exact hNone (n + k) (by omega)

/- The same for a look that drops junk in front. -/
theorem frames_of_look_dropped
    {s after : FrameSearch}
    {buffer rest : ByteQueue}
    {more : Bytes}
    (hResumed : s.IsResumed buffer.toList)
    (hLook : s.look buffer = .dropped rest after)
    (hFits :
      ∀ frame ∈ Marked.frames (buffer.toList ++ more),
        frame.length ≤ s.maxFrameSize) :
    Marked.frames (buffer.toList ++ more) = [] ∧
      Marked.frames (rest.toList ++ more) = [] := by
  rcases look_cases hResumed with
    ⟨i, t, opened, hStart, hBytes, hStop, hOpen, hLimit,
      _⟩ | ⟨_, _, hWaits⟩
  · have hJunk := yields_drop_of_find? hStart
    rw [← hBytes] at hJunk
    rw [hLook, eq_comm] at hStop
    rw [hJunk.frames_eq, List.nil_append, ← hLimit] at hFits
    rw [hJunk.frames_eq, List.nil_append]
    exact frames_of_lookForStop_dropped hOpen hStop hFits
  · rw [hLook] at hWaits
    cases hWaits

------------------------------------------------------------
-- Extraction
------------------------------------------------------------

/- A look that waits drops junk. -/
theorem yields_of_look_waiting
    {s after : FrameSearch}
    {buffer rest : ByteQueue}
    (hResumed : s.IsResumed buffer.toList)
    (hLook : s.look buffer = .waiting rest after) :
    Marked.Yields buffer.toList [] rest.toList := by
  rcases look_cases hResumed with
    ⟨i, t, opened, hStart, hBytes, hStop, _, _, _⟩ |
    ⟨hStart, _, hWaits⟩
  · rw [hLook, eq_comm] at hStop
    rcases lookForStop_of_waiting hStop with ⟨rfl, _, _⟩
    rw [hBytes]
    exact yields_drop_of_find? hStart
  · rw [hLook] at hWaits
    cases hWaits
    exact yields_drop_of_find?_none hStart

/-
  An extraction reads the first frame of the buffer and of
  the bytes that are still to come, if the buffer completes
  it, and no other.  This holds as long as no frame of all
  these bytes exceeds the limit, whatever is given up.
-/
theorem frames_extract
    {s : FrameSearch}
    {buffer : ByteQueue}
    {more : Bytes}
    (hResumed : s.IsResumed buffer.toList)
    (hFits :
      ∀ frame ∈ Marked.frames (buffer.toList ++ more),
        frame.length ≤ s.maxFrameSize) :
    Marked.frames (buffer.toList ++ more) =
      (s.extract buffer).frame.toList ++
        Marked.frames
          ((s.extract buffer).rest.toList ++ more) := by
  fun_induction extract s buffer with
  | case1 s buffer frame rest after hLook =>
      have hFirst := first?_of_look_found hResumed hLook
      exact (Marked.yields_of_first? hFirst).frames_eq more
  | case2 s buffer rest after hLook =>
      exact
        (yields_of_look_waiting hResumed hLook).frames_eq more
  | case3 s buffer rest after hLook ih =>
      have hAfter := isResumed_look hResumed
      rw [hLook] at hAfter
      rcases frames_of_look_dropped hResumed hLook hFits with
        ⟨hNone, hRest⟩
      rw [hRest] at ih
      rw [hNone]
      exact ih hAfter (by simp)

end FrameSearch

------------------------------------------------------------
-- Frames That Are Outstanding
------------------------------------------------------------

/- The first frame takes the first number. -/
theorem numbered_cons
    (n : Nat)
    (frame : Bytes)
    (fs : List Bytes) :
    numbered n (frame :: fs) =
      ⟨n, frame⟩ :: numbered (n + 1) fs := by
  rfl

/- Numbered frames are those frames. -/
theorem map_data_numbered
    (n : Nat)
    (fs : List Bytes) :
    (numbered n fs).map ScannedFrame.data = fs := by
  induction fs generalizing n with
  | nil => rfl
  | cons frame fs ih =>
      rw [numbered_cons, List.map_cons, ih]

namespace FrameReader

/-
  The frames that are left to hand out: those of the bytes
  at hand and of all that is still received.
-/
def outstanding
    (r : FrameReader) : List ScannedFrame :=
  numbered r.scanner.nextSequence
    (Marked.frames
      (r.scanner.buffer.toList ++
        (ByteSource.ofArrivals r.pending).received))

/-
  A reader whose source is not over, whose search is right
  about its buffer, and to which no frame is too large.
-/
structure Sound
    (r : FrameReader) : Prop where
  resumed :
    r.scanner.state.IsResumed r.scanner.buffer.toList
  fits :
    ∀ f ∈ r.outstanding,
      f.data.length ≤ r.scanner.state.maxFrameSize
  opened : r.ended = false

/- A pull hands out the first frame, or drops junk. -/
theorem Sound.pull
    {r : FrameReader}
    (hSound : r.Sound)
    {found : Option ScannedFrame}
    {scanner : Scanner}
    (hNext : r.scanner.next = (found, scanner)) :
    let s := { r with scanner := scanner }
    r.outstanding = found.toList ++ s.outstanding ∧
      s.Sound := by
  intro s
  have hFits :
      ∀ frame ∈ Marked.frames
          (r.scanner.buffer.toList ++
            (ByteSource.ofArrivals r.pending).received),
        frame.length ≤ r.scanner.state.maxFrameSize := by
    intro frame hFrame
    have hData :
        frame ∈ r.outstanding.map ScannedFrame.data := by
      rw [outstanding, map_data_numbered]
      exact hFrame
    rcases List.mem_map.mp hData with ⟨f, hMem, rfl⟩
    exact hSound.fits f hMem
  have hFrames :=
    FrameSearch.frames_extract hSound.resumed hFits
  have hResumed := Scanner.isResumed_next hSound.resumed
  have hLimit := r.scanner.maxFrameSize_next
  rcases r.scanner.next_eq with ⟨hBuffer, _, hData⟩
  rw [hNext] at hBuffer hData hResumed hLimit
  rw [← hBuffer, ← hData] at hFrames
  have hAll :
      r.outstanding = found.toList ++ s.outstanding := by
    rw [outstanding, hFrames]
    cases found with
    | none =>
        have hNumber :=
          Scanner.nextSequence_of_next_none hNext
        rw [← hNumber]
        rfl
    | some f =>
        rcases Scanner.sequence_of_next hNext with
          ⟨hHere, hAfter⟩
        rw [Option.map_some, Option.toList_some,
          List.singleton_append, numbered_cons, ← hHere,
          outstanding, hAfter, ← hHere]
        rfl
  refine ⟨hAll, hResumed, ?_, hSound.opened⟩
  intro f hMem
  rw [hLimit]
  apply hSound.fits
  rw [hAll]
  exact List.mem_append_right _ hMem

/-
  When no frame is at hand and nothing more is received, all
  frames were handed out.
-/
theorem Sound.outstanding_of_stopped
    {r : FrameReader}
    (hSound : r.Sound)
    {scanner : Scanner}
    (hNext : r.scanner.next = (none, scanner))
    (hNothing :
      (ByteSource.ofArrivals r.pending).received = []) :
    r.outstanding = [] := by
  have hDrained := Scanner.isDrained_next hSound.resumed hNext
  rw [(hSound.pull hNext).1, outstanding, hNothing,
    List.append_nil, hDrained.frames_eq]
  rfl

/- A read that is not the last one changes nothing. -/
theorem Sound.taken
    {r s : FrameReader}
    (hSound : r.Sound)
    (hBytes :
      s.scanner.buffer.toList ++
          (ByteSource.ofArrivals s.pending).received =
        r.scanner.buffer.toList ++
          (ByteSource.ofArrivals r.pending).received)
    (hNumber :
      s.scanner.nextSequence = r.scanner.nextSequence)
    (hState : s.scanner.state = r.scanner.state)
    (hResumed :
      s.scanner.state.IsResumed s.scanner.buffer.toList)
    (hEnded : s.ended = r.ended) :
    r.outstanding = s.outstanding ∧ s.Sound := by
  have hSame : r.outstanding = s.outstanding := by
    rw [outstanding, outstanding, hBytes, hNumber]
  refine ⟨hSame, hResumed, ?_, hEnded.trans hSound.opened⟩
  rw [← hSame, hState]
  exact hSound.fits

/- What a call comes to. -/
inductive Delivers
    (r : FrameReader) : ReadResult × FrameReader → Prop where
/- It hands out the first frame that is outstanding. -/
| frame
    {f : ScannedFrame}
    {after : FrameReader}
    (hFirst : r.outstanding = f :: after.outstanding)
    (hSound : after.Sound) :
    Delivers r (.ok (some f), after)
/- It hands out none, and none is outstanding. -/
| nothing
    {result : ReadResult}
    {after : FrameReader}
    (hResult : result.frame? = none)
    (hNone : r.outstanding = []) :
    Delivers r (result, after)

/- A turn that does not end a call changes nothing. -/
theorem Sound.again
    {r s : FrameReader}
    (hSound : r.Sound)
    (hTurn : r.turn = .again s) :
    r.outstanding = s.outstanding ∧ s.Sound := by
  have hTakes := r.takes_turn
  rw [hTurn] at hTakes
  cases hTakes with
  | @took scanner chunk rest hNext hOpen hChunk hPending =>
      rcases hSound.pull hNext with ⟨hPulled, hAfter⟩
      rw [hPulled]
      apply hAfter.taken
      · simp only [hPending, Scanner.push,
          ByteSource.received_chunk hChunk,
          ByteQueue.toList_append, List.append_assoc]
      · rfl
      · rfl
      · simp only [Scanner.push, ByteQueue.toList_append]
        exact hAfter.resumed.append chunk
      · rfl
  | @interrupted scanner e rest hNext hOpen hKind hPending =>
      rcases hSound.pull hNext with ⟨hPulled, hAfter⟩
      rw [hPulled]
      apply hAfter.taken
      · simp only [hPending,
          ByteSource.received_interrupted hKind]
      · rfl
      · rfl
      · exact hAfter.resumed
      · rfl

/- A turn that ends a call delivers a frame, or all are. -/
theorem Sound.answer
    {r after : FrameReader}
    {result : ReadResult}
    (hSound : r.Sound)
    (hTurn : r.turn = .answer result after) :
    r.Delivers (result, after) := by
  have hTakes := r.takes_turn
  rw [hTurn] at hTakes
  cases hTakes with
  | handed hNext =>
      rcases hSound.pull hNext with ⟨hFirst, hAfter⟩
      exact .frame hFirst hAfter
  | exhausted _ hEnded =>
      rw [hSound.opened] at hEnded
      cases hEnded
  | @finished scanner rest hNext _ hPending =>
      apply Delivers.nothing rfl
      apply hSound.outstanding_of_stopped hNext
      rcases hPending with ⟨hEmpty, _⟩ | hPending
      · rw [hEmpty]
        rfl
      · rw [hPending]
        rfl
  | @failed scanner e rest hNext _ hKind hPending =>
      apply Delivers.nothing rfl
      apply hSound.outstanding_of_stopped hNext
      rw [hPending]
      exact ByteSource.received_failed hKind rest

/- Every call delivers a frame, unless all are delivered. -/
theorem delivers_read
    {r : FrameReader}
    (hSound : r.Sound) :
    r.Delivers r.read := by
  revert hSound
  refine
    read_induction
      (motive := fun r p => r.Sound → r.Delivers p)
      ?_ ?_ r
  · intro r result after hTurn hSound
    exact hSound.answer hTurn
  · intro r s p hTurn hLater hSound
    rcases hSound.again hTurn with ⟨hSame, hAfter⟩
    cases hLater hAfter with
    | frame hFirst hNext =>
        exact .frame (hSame.trans hFirst) hNext
    | nothing hResult hNone =>
        exact .nothing hResult (hSame.trans hNone)

/-
  All frames of the bytes that are received of a source are
  outstanding of a new reader, if none is too large for it.
-/
theorem sound_ofSource
    {source : ByteSource}
    {limit : Nat}
    (chunkSize : Nat)
    (hFits :
      ∀ frame ∈ Marked.frames source.received,
        frame.length ≤ limit) :
    (ofSource source limit chunkSize).Sound ∧
      (ofSource source limit chunkSize).outstanding =
        numbered 0 (Marked.frames source.received) := by
  have hCapacity : 0 < max chunkSize 1 := by omega
  have hAll :
      (ofSource source limit chunkSize).outstanding =
        numbered 0 (Marked.frames source.received) := by
    rw [← ByteSource.received_ofArrivals hCapacity source]
    rfl
  refine ⟨⟨Or.inl rfl, ?_, rfl⟩, hAll⟩
  intro f hMem
  apply hFits
  rw [hAll] at hMem
  rw [← map_data_numbered 0 (Marked.frames source.received)]
  exact List.mem_map_of_mem hMem

end FrameReader

end Reframe
