import Reframe.Proofs.Scan.Due
import Reframe.Proofs.Scan.Resync

/-
  What successive calls of a reader come to, whatever its
  reads yield: the frames of the source and the failures
  between them, and nothing once an end was read.

  Each call answers the first result that is due and stands
  to the rest of the source as the call before.

  Main declarations:
    * `Scanner.pull`
    * `FrameReader.Steady`
    * `FrameReader.due`
    * `FrameReader.answered_read`
    * `FrameReader.HandsOut`
    * `FrameReader.frames_of_faulty_source`
-/

namespace Reframe

------------------------------------------------------------
-- Pulls Within The Limit
------------------------------------------------------------

namespace Scanner

/-
  What a pull comes to while no open frame is given up: it
  hands out the first frame of the buffer, or there is none.
-/
inductive Pull
    (s : Scanner) : Option ScannedFrame × Scanner → Prop where
| handed
    {data : Bytes}
    {after : Scanner}
    (hYields :
      Marked.Yields s.buffer.toList [data]
        after.buffer.toList)
    (hNumber : after.nextSequence = s.nextSequence + 1)
    (hResumed : after.state.IsResumed after.buffer.toList)
    (hLimit :
      after.state.maxFrameSize = s.state.maxFrameSize) :
    Pull s (some ⟨s.nextSequence, data⟩, after)
| drained
    {after : Scanner}
    (hFrames : Marked.frames s.buffer.toList = [])
    (hYields :
      Marked.Yields s.buffer.toList []
        after.buffer.toList)
    (hNumber : after.nextSequence = s.nextSequence)
    (hResumed : after.state.IsResumed after.buffer.toList)
    (hLimit :
      after.state.maxFrameSize = s.state.maxFrameSize) :
    Pull s (none, after)

/- Every pull within the limit is of this form. -/
theorem pull
    {s : Scanner}
    (hResumed : s.state.IsResumed s.buffer.toList)
    (hFits :
      (Marked.unfinished s.buffer.toList).length ≤
        s.state.maxFrameSize) :
    s.Pull s.next := by
  have hLimit := s.state.maxFrameSize_extract s.buffer
  rcases FrameSearch.extract_cases hResumed hFits with
    ⟨hAfter, hYields, hNone⟩
  unfold next
  cases hFrame : (s.state.extract s.buffer).frame with
  | none =>
      simp only [hFrame, Option.toList_none] at hYields ⊢
      exact .drained (hNone hFrame) hYields rfl hAfter hLimit
  | some data =>
      simp only [hFrame, Option.toList_some] at hYields ⊢
      exact .handed hYields rfl hAfter hLimit

/- A pull from an empty buffer leaves it empty. -/
theorem buffer_next_of_empty
    {s : Scanner}
    (hResumed : s.state.IsResumed s.buffer.toList)
    (hEmpty : s.buffer.toList = [])
    (hNone : s.next.1 = none) :
    s.next.2.buffer.toList = [] := by
  rcases s.next_eq with ⟨hBuffer, _, hData⟩
  rw [hNone, Option.map_none] at hData
  rw [hBuffer]
  have hNowhere :
      Marker.start.find? s.buffer.toList 0 = none := by
    rw [hEmpty]
    rfl
  cases FrameSearch.leaves_extract hResumed hData.symm with
  | junk _ hRest _ => rw [hRest, hEmpty, List.drop_nil]
  | waiting i hStart _ _ _ =>
      rw [hNowhere] at hStart
      cases hStart
  | dropped i hStart _ _ _ =>
      rw [hNowhere] at hStart
      cases hStart

end Scanner

------------------------------------------------------------
-- What A Reader Owes
------------------------------------------------------------

namespace FrameReader

/- What lies ahead of a reader. -/
def source
    (r : FrameReader) : ByteSource :=
  if r.ended then [] else ByteSource.ofArrivals r.pending

/- The results that are due of a reader. -/
def due
    (r : FrameReader) : List ReadResult :=
  r.source.due r.scanner.nextSequence
    r.scanner.buffer.toList

/-
  A reader whose search is right about its buffer, and which
  never has to give up a frame of what lies ahead.
-/
structure Steady
    (r : FrameReader) : Prop where
  resumed :
    r.scanner.state.IsResumed r.scanner.buffer.toList
  fits :
    Marked.Fits r.scanner.state.maxFrameSize
      (r.scanner.buffer.toList ++ r.source.ahead.bytes)
  empty_of_ended :
    r.ended = true → r.scanner.buffer.toList = []

/-
  Between two readers some reads were made.  Of the bytes at
  hand and those that were read, these frames were handed
  out, and what is left of them is at hand.
-/
def Keeps
    (r : FrameReader)
    (read : List Bytes)
    (after : FrameReader) : Prop :=
  ∃ taken,
    r.pending = taken ++ after.pending ∧
      Marked.Yields
        (r.scanner.buffer.toList ++
          (ByteSource.ofArrivals taken).bytes)
        read after.scanner.buffer.toList

/- No call was made. -/
theorem keeps_refl
    (r : FrameReader) : r.Keeps [] r := by
  refine ⟨[], rfl, ?_⟩
  simpa [ByteSource.ofArrivals, ByteSource.bytes] using
    Marked.yields_refl _

/- Further calls were made. -/
theorem Keeps.trans
    {r s t : FrameReader}
    {read read' : List Bytes}
    (hFirst : r.Keeps read s)
    (hNext : s.Keeps read' t) :
    r.Keeps (read ++ read') t := by
  rcases hFirst with ⟨taken, hPending, hYields⟩
  rcases hNext with ⟨taken', hPending', hYields'⟩
  refine ⟨taken ++ taken', ?_, ?_⟩
  · rw [hPending, hPending', List.append_assoc]
  · rw [ByteSource.ofArrivals, List.map_append,
      ByteSource.bytes_append, ← List.append_assoc]
    exact (hYields.append _).trans hYields'

/- What a call comes to. -/
inductive Answered
    (r : FrameReader) : ReadResult × FrameReader → Prop where
/- It answers the first result that is due. -/
| due
    {result : ReadResult}
    {after : FrameReader}
    (hDue : r.due = result :: after.due)
    (hSteady : after.Steady)
    (hOpen : after.ended = false)
    (hKeeps :
      r.Keeps
        (result.frame?.map ScannedFrame.data).toList after) :
    Answered r (result, after)
/- Nothing is due, and the source is over. -/
| exhausted
    {after : FrameReader}
    (hDue : r.due = [])
    (hSteady : after.Steady)
    (hEnded : after.ended = true) :
    Answered r (.ok none, after)

/-
  A reader that goes on from another one without a result
  answers for it.
-/
theorem Answered.behind
    {r s : FrameReader}
    {p : ReadResult × FrameReader}
    (hDue : r.due = s.due)
    (hKeeps : r.Keeps [] s)
    (hAnswered : s.Answered p) :
    r.Answered p := by
  cases hAnswered with
  | due hFirst hSteady hOpen hRest =>
      exact
        .due (hDue.trans hFirst) hSteady hOpen
          (hKeeps.trans hRest)
  | exhausted hNone hSteady hEnded =>
      exact .exhausted (hDue.trans hNone) hSteady hEnded

------------------------------------------------------------
-- Parts Of A Call
------------------------------------------------------------

/- An open reader has its pending reads ahead. -/
theorem source_of_open
    {r : FrameReader}
    (hOpen : r.ended = false) :
    r.source = ByteSource.ofArrivals r.pending := by
  simp [source, hOpen]

/- A reader whose source is over is steady. -/
theorem steady_finish
    (r : FrameReader)
    (pending : List Arrival) :
    (r.finish pending).Steady := by
  constructor
  · exact Or.inl rfl
  · exact Marked.fits_nil _
  · intro _
    rfl

/- A pull keeps a reader steady. -/
theorem Steady.of_pull
    {r : FrameReader}
    (hSteady : r.Steady)
    {scanner : Scanner}
    {read : List Bytes}
    (hYields :
      Marked.Yields r.scanner.buffer.toList read
        scanner.buffer.toList)
    (hResumed :
      scanner.state.IsResumed scanner.buffer.toList)
    (hLimit :
      scanner.state.maxFrameSize =
        r.scanner.state.maxFrameSize)
    (hEmpty :
      r.ended = true → scanner.buffer.toList = []) :
    ({ r with scanner := scanner } : FrameReader).Steady := by
  constructor
  · exact hResumed
  · simp only [hLimit]
    exact hSteady.fits.of_yields (hYields.append _)
  · exact hEmpty

/- A pull within the limit, for a steady reader. -/
theorem Steady.pull
    {r : FrameReader}
    (hSteady : r.Steady) :
    r.scanner.Pull r.scanner.next :=
  Scanner.pull hSteady.resumed
    hSteady.fits.of_append.unfinished_le

/- A frame at hand is the first result that is due. -/
theorem Steady.handed
    {r : FrameReader}
    (hSteady : r.Steady)
    {f : ScannedFrame}
    {scanner : Scanner}
    (hNext : r.scanner.next = (some f, scanner)) :
    r.Answered
      (.ok (some f), { r with scanner := scanner }) := by
  have hPull := hSteady.pull
  rw [hNext] at hPull
  cases hPull with
  | handed hYields hNumber hResumed hLimit =>
      have hOpen : r.ended = false := by
        cases hEnded : r.ended with
        | false => rfl
        | true =>
            have hFrames := hYields.frames_eq_rest
            rw [hSteady.empty_of_ended hEnded,
              Marked.frames_nil] at hFrames
            cases hFrames
      refine .due ?_ ?_ hOpen ?_
      · rw [FrameReader.due,
          ByteSource.due_of_yields hYields]
        simp only [FrameReader.due, source, hNumber]
        rfl
      · apply hSteady.of_pull hYields hResumed hLimit
        intro hEnded
        rw [hOpen] at hEnded
        cases hEnded
      · refine ⟨[], rfl, ?_⟩
        simpa [ByteSource.ofArrivals, ByteSource.bytes,
          ReadResult.frame?] using hYields

/- Without a frame at hand, junk is dropped. -/
theorem Steady.drained
    {r : FrameReader}
    (hSteady : r.Steady)
    {scanner : Scanner}
    (hNext : r.scanner.next = (none, scanner)) :
    let s := { r with scanner := scanner }
    s.Steady ∧ r.due = s.due ∧ r.Keeps [] s ∧
      Marked.frames scanner.buffer.toList = [] := by
  intro s
  have hPull := hSteady.pull
  have hEmpty :
      r.ended = true → scanner.buffer.toList = [] := by
    intro hEnded
    have hStays :=
      Scanner.buffer_next_of_empty hSteady.resumed
        (hSteady.empty_of_ended hEnded)
    rw [hNext] at hStays
    exact hStays rfl
  rw [hNext] at hPull
  cases hPull with
  | drained hFrames hYields hNumber hResumed hLimit =>
      refine ⟨?_, ?_, ?_, ?_⟩
      · exact
          hSteady.of_pull hYields hResumed hLimit hEmpty
      · rw [FrameReader.due,
          ByteSource.due_of_yields hYields]
        simp only [s, FrameReader.due, source, hNumber]
        rfl
      · refine ⟨[], rfl, ?_⟩
        simpa [s, ByteSource.ofArrivals, ByteSource.bytes]
          using hYields
      · rw [hYields.frames_eq_rest] at hFrames
        exact hFrames

/- Bytes that are read are at hand. -/
theorem Steady.push
    {r : FrameReader}
    {chunk : Bytes}
    {rest : List Arrival}
    (hSteady : r.Steady)
    (hOpen : r.ended = false)
    (hChunk : chunk ≠ [])
    (hPending : r.pending = .ok chunk :: rest) :
    let s :=
      { r with
        pending := rest
        scanner := r.scanner.push chunk }
    s.Steady ∧ r.due = s.due ∧ r.Keeps [] s := by
  intro s
  have hSource :
      r.source = .data chunk :: s.source := by
    rw [source_of_open hOpen, source_of_open (r := s) hOpen,
      hPending, ByteSource.ofArrivals, List.map_cons,
      Arrival.event_of_ne_nil hChunk]
    rfl
  have hBuffer :
      s.scanner.buffer.toList =
        r.scanner.buffer.toList ++ chunk := by
    simp [s, Scanner.push]
  refine ⟨?_, ?_, ?_⟩
  · constructor
    · rw [hBuffer]
      exact hSteady.resumed.append chunk
    · have hFits := hSteady.fits
      rw [hSource, ByteSource.ahead_data,
        ByteSource.bytes_cons, ← List.append_assoc]
        at hFits
      rw [hBuffer]
      exact hFits
    · intro hEnded
      rw [show s.ended = r.ended from rfl, hOpen] at hEnded
      cases hEnded
  · rw [FrameReader.due, hSource, ByteSource.due,
      FrameReader.due, hBuffer]
    rfl
  · refine ⟨[.ok chunk], by rw [hPending]; rfl, ?_⟩
    rw [ByteSource.ofArrivals, List.map_singleton,
      Arrival.event_of_ne_nil hChunk, hBuffer]
    simpa [ByteSource.bytes, ReadEvent.chunk] using
      Marked.yields_refl _

/- A failed read leaves what is at hand. -/
theorem Steady.failed
    {r : FrameReader}
    {e : IoError}
    {rest : List Arrival}
    (hSteady : r.Steady)
    (hOpen : r.ended = false)
    (hPending : r.pending = .error e :: rest) :
    let s := { r with pending := rest }
    r.source = .fail e :: s.source ∧
      s.Steady ∧ r.Keeps [] s := by
  intro s
  have hSource : r.source = .fail e :: s.source := by
    rw [source_of_open hOpen, source_of_open (r := s) hOpen,
      hPending]
    rfl
  refine ⟨hSource, ?_, ?_⟩
  · constructor
    · exact hSteady.resumed
    · have hFits := hSteady.fits
      rw [hSource, ByteSource.ahead_fail,
        ByteSource.bytes_cons] at hFits
      exact hFits
    · exact hSteady.empty_of_ended
  · refine ⟨[.error e], by rw [hPending]; rfl, ?_⟩
    simpa [ByteSource.ofArrivals, ByteSource.bytes,
      Arrival.event, ReadEvent.chunk] using
      Marked.yields_refl _

------------------------------------------------------------
-- One Call
------------------------------------------------------------

/-
  Reading on without a frame at hand answers the first
  result that is due.
-/
theorem answered_readMore
    {r : FrameReader}
    {as : List Arrival}
    (hSteady :
      ({ r with pending := as } : FrameReader).Steady)
    (hOpen : r.ended = false)
    (hFrames :
      Marked.frames r.scanner.buffer.toList = []) :
    ({ r with pending := as } : FrameReader).Answered
      (r.readMore as) := by
  fun_induction readMore r as with
  | case1 r =>
      refine .exhausted ?_ (r.steady_finish []) rfl
      simp [FrameReader.due, source, hOpen, hFrames,
        ByteSource.ofArrivals, ByteSource.due]
  | case2 r rest =>
      refine .exhausted ?_ (r.steady_finish rest) rfl
      simp [FrameReader.due, source, hOpen, hFrames,
        ByteSource.ofArrivals, Arrival.event,
        ByteSource.due]
  | case3 r rest chunk hChunk f scanner hNext =>
      rcases hSteady.push hOpen hChunk rfl with
        ⟨hAfter, hDue, hKeeps⟩
      exact (hAfter.handed hNext).behind hDue hKeeps
  | case4 r rest chunk hChunk scanner hNext ih =>
      rcases hSteady.push hOpen hChunk rfl with
        ⟨hPushed, hDue, hKeeps⟩
      rcases hPushed.drained hNext with
        ⟨hAfter, hDue', hKeeps', hNone⟩
      exact
        ((ih hAfter hOpen hNone).behind hDue' hKeeps').behind
          hDue hKeeps
  | case5 r e rest hKind ih =>
      rcases hSteady.failed hOpen rfl with
        ⟨hSource, hAfter, hKeeps⟩
      refine (ih hAfter hOpen hFrames).behind ?_ hKeeps
      rw [FrameReader.due, hSource, ByteSource.due,
        if_pos hKind]
      rfl
  | case6 r e rest hKind =>
      rcases hSteady.failed hOpen rfl with
        ⟨hSource, hAfter, hKeeps⟩
      refine .due ?_ hAfter hOpen hKeeps
      have hRest :=
        Marked.remainder_of_first?_none
          (Marked.first?_of_frames_eq_nil hFrames)
      rw [FrameReader.due, hSource, ByteSource.due,
        if_neg hKind, hFrames, hRest]
      rfl

/- Every call answers the first result that is due. -/
theorem answered_read
    {r : FrameReader}
    (hSteady : r.Steady) :
    r.Answered r.read := by
  unfold read
  split
  · rename_i f scanner hNext
    exact hSteady.handed hNext
  · rename_i scanner hNext
    rcases hSteady.drained hNext with
      ⟨hAfter, hDue, hKeeps, hNone⟩
    dsimp only
    split
    · rename_i hEnded
      refine .exhausted ?_ hAfter hEnded
      rw [hDue, FrameReader.due]
      simp [source, hEnded, ByteSource.due, hNone]
    · rename_i hOpen
      rw [Bool.not_eq_true] at hOpen
      have hRest :=
        answered_readMore (r := { r with scanner := scanner })
          hAfter hOpen hNone
      exact hRest.behind hDue hKeeps

/- A complete frame at hand is handed out without a read. -/
theorem read_of_at_hand
    {r : FrameReader}
    (hSteady : r.Steady)
    {frame : Bytes}
    {fs : List Bytes}
    (hFrames :
      Marked.frames r.scanner.buffer.toList = frame :: fs) :
    r.read.1.frame?.map ScannedFrame.data = some frame ∧
      r.read.2.pending = r.pending := by
  have hPull := hSteady.pull
  unfold read
  split
  · rename_i f scanner hNext
    rw [hNext] at hPull
    cases hPull with
    | handed hYields _ _ _ =>
        rw [hYields.frames_eq_rest] at hFrames
        cases hFrames
        exact ⟨rfl, rfl⟩
  · rename_i scanner hNext
    rw [hNext] at hPull
    cases hPull with
    | drained hNone _ _ _ _ =>
        rw [hNone] at hFrames
        cases hFrames

/- Once the source is over, nothing more is read. -/
theorem pending_read_of_ended
    {r : FrameReader}
    (hEnded : r.ended = true) :
    r.read.2.pending = r.pending := by
  unfold read
  split
  · rfl
  · simp [hEnded]

------------------------------------------------------------
-- Successive Calls
------------------------------------------------------------

/- The results of successive calls. -/
def results
    (r : FrameReader) : Nat → List ReadResult
| 0 => []
| n + 1 => r.read.1 :: r.read.2.results n

/- The reader after a number of calls. -/
def afterCalls
    (r : FrameReader) : Nat → FrameReader
| 0 => r
| n + 1 => r.read.2.afterCalls n

/- The reader after one more call. -/
theorem afterCalls_succ
    (r : FrameReader)
    (n : Nat) :
    r.afterCalls (n + 1) = (r.afterCalls n).read.2 := by
  induction n generalizing r with
  | zero => rfl
  | succ n ih => exact ih r.read.2

/-
  The results of a reader are those that are due, and then
  nothing for ever.  The end of the source is read when
  nothing is due any more, and only once; then nothing is at
  hand.  Until then, each frame at hand is handed out
  without a read, and no byte of a frame is lost.
-/
structure HandsOut
    (r : FrameReader)
    (due : List ReadResult) : Prop where
  results_eq :
    ∀ n, r.results n =
      due.take n ++ List.replicate (n - due.length) (.ok none)
  ended_iff :
    ∀ n, (r.afterCalls n).ended = true ↔ due.length < n
  exhausted :
    ∀ n, (r.afterCalls n).ended = true →
      (r.afterCalls n).scanner.buffer.toList = [] ∧
        (r.afterCalls (n + 1)).pending =
          (r.afterCalls n).pending
  at_hand :
    ∀ n frame fs,
      Marked.frames (r.afterCalls n).scanner.buffer.toList =
          frame :: fs →
        (r.afterCalls n).read.1.frame?.map
            ScannedFrame.data = some frame ∧
          (r.afterCalls (n + 1)).pending =
            (r.afterCalls n).pending
  keeps :
    ∀ n, (r.afterCalls n).ended = false →
      r.Keeps
        ((deliveries (r.results n)).map ScannedFrame.data)
        (r.afterCalls n)

/- A steady reader stays so. -/
theorem Steady.afterCalls
    {r : FrameReader}
    (hSteady : r.Steady)
    (n : Nat) :
    (r.afterCalls n).Steady := by
  induction n generalizing r with
  | zero => exact hSteady
  | succ n ih =>
      have hAnswered := answered_read hSteady
      apply ih
      cases hRead : r.read with
      | mk result after =>
          rw [hRead] at hAnswered
          cases hAnswered with
          | due _ hAfter _ _ => exact hAfter
          | exhausted _ hAfter _ => exact hAfter

/- Nothing is due of a reader whose source is over. -/
theorem due_of_ended
    {r : FrameReader}
    (hSteady : r.Steady)
    (hEnded : r.ended = true) :
    r.due = [] := by
  rw [FrameReader.due, hSteady.empty_of_ended hEnded]
  simp [source, hEnded, ByteSource.due]

/-
  The results of a steady reader are those that are due, and
  its source is over once they are used up.
-/
theorem Steady.results_eq
    {r : FrameReader}
    (hSteady : r.Steady)
    (n : Nat) :
    r.results n =
        r.due.take n ++
          List.replicate (n - r.due.length) (.ok none) ∧
      ((r.afterCalls n).ended = true ↔
        r.ended = true ∨ r.due.length < n) := by
  induction n generalizing r with
  | zero => simp [results, FrameReader.afterCalls]
  | succ n ih =>
      have hAnswered := answered_read hSteady
      cases hRead : r.read with
      | mk result after =>
          rw [hRead] at hAnswered
          simp only [results, FrameReader.afterCalls, hRead]
          cases hAnswered with
          | due hDue hAfter hOpen _ =>
              rcases ih hAfter with ⟨hResults, hOver⟩
              have hStill : r.ended = false := by
                cases hEnded : r.ended with
                | false => rfl
                | true =>
                    rw [due_of_ended hSteady hEnded] at hDue
                    cases hDue
              refine ⟨?_, ?_⟩
              · rw [hDue, hResults, List.take_succ_cons,
                  List.cons_append, List.length_cons,
                  Nat.add_sub_add_right]
              · rw [hOver, hDue, hOpen, hStill]
                simp
          | exhausted hDue hAfter hEnded =>
              rcases ih hAfter with ⟨hResults, hOver⟩
              rw [due_of_ended hAfter hEnded] at hResults
              refine ⟨?_, ?_⟩
              · rw [hDue, hResults]
                simp [List.replicate_succ]
              · rw [hOver, hDue]
                simp [hEnded]

/- What a steady reader keeps until its source is over. -/
theorem Steady.keeps
    {r : FrameReader}
    (hSteady : r.Steady)
    (n : Nat)
    (hOpen : (r.afterCalls n).ended = false) :
    r.Keeps
      ((deliveries (r.results n)).map ScannedFrame.data)
      (r.afterCalls n) := by
  induction n generalizing r with
  | zero => exact r.keeps_refl
  | succ n ih =>
      have hAnswered := answered_read hSteady
      cases hRead : r.read with
      | mk result after =>
          rw [hRead] at hAnswered
          simp only [results, FrameReader.afterCalls, hRead]
            at hOpen ⊢
          cases hAnswered with
          | due _ hAfter _ hKeeps =>
              have hAll := hKeeps.trans (ih hAfter hOpen)
              rw [deliveries_cons, List.map_append,
                ← Option.toList_map]
              exact hAll
          | exhausted _ hAfter hEnded =>
              have hOver :=
                (hAfter.results_eq n).2.mpr (Or.inl hEnded)
              rw [hOver] at hOpen
              cases hOpen

/-
  A steady reader whose source is not over hands out what is
  due.
-/
theorem Steady.handsOut
    {r : FrameReader}
    (hSteady : r.Steady)
    (hOpen : r.ended = false) :
    r.HandsOut r.due := by
  constructor
  · intro n
    exact (hSteady.results_eq n).1
  · intro n
    rw [(hSteady.results_eq n).2, hOpen]
    simp
  · intro n hEnded
    refine
      ⟨(hSteady.afterCalls n).empty_of_ended hEnded, ?_⟩
    rw [afterCalls_succ]
    exact pending_read_of_ended hEnded
  · intro n frame fs hFrames
    rw [afterCalls_succ]
    exact read_of_at_hand (hSteady.afterCalls n) hFrames
  · intro n hStill
    exact hSteady.keeps n hStill

------------------------------------------------------------
-- Faulty Sources
------------------------------------------------------------

/-
  A reader of a source is steady, if no frame in front of
  the first end exceeds its limit, and the same is due
  whatever the size of its chunks.
-/
theorem steady_ofSource
    {source : ByteSource}
    {limit : Nat}
    (chunkSize : Nat)
    (hFits : Marked.Fits limit source.ahead.bytes) :
    (ofSource source limit chunkSize).Steady ∧
      (ofSource source limit chunkSize).due =
        ByteSource.due 0 [] source := by
  have hCapacity : 0 < max chunkSize 1 := by omega
  have hAhead :
      (ofSource source limit chunkSize).source =
        ByteSource.ofArrivals
          (source.arrivals (max chunkSize 1)) :=
    source_of_open rfl
  refine ⟨?_, ?_⟩
  · constructor
    · exact Or.inl rfl
    · rw [hAhead,
        ByteSource.bytes_ahead_ofArrivals hCapacity]
      exact hFits
    · intro hEnded
      cases hEnded
  · rw [FrameReader.due, hAhead]
    exact ByteSource.due_ofArrivals hCapacity 0 [] source

/-
  Whatever the reads of a source yield, successive calls
  hand out the frames of all its bytes in front of the first
  end, numbered from zero, and tell of each failure once,
  behind the frames that end in front of it.  The size of
  the chunks and reads that are interrupted make no
  difference.  This holds as long as no frame exceeds the
  limit.
-/
theorem frames_of_faulty_source
    (source : ByteSource) :
    ∃ due, source.ahead.IsDue due ∧
      ∀ limit chunkSize,
        Marked.Fits limit source.ahead.bytes →
          let r := ofSource source limit chunkSize
          r.HandsOut due ∧
            ∀ n,
              (ofSource source.uninterrupted limit
                chunkSize).results n = r.results n := by
  refine
    ⟨ByteSource.due 0 [] source, source.isDue_due_ahead, ?_⟩
  intro limit chunkSize hFits r
  rcases steady_ofSource chunkSize hFits with
    ⟨hSteady, hDue⟩
  have hHands := hSteady.handsOut rfl
  rw [hDue] at hHands
  refine ⟨hHands, ?_⟩
  intro n
  rw [← ByteSource.bytes_ahead_uninterrupted] at hFits
  rcases steady_ofSource chunkSize hFits with
    ⟨hSteady', hDue'⟩
  rw [(hSteady'.results_eq n).1, hDue',
    ByteSource.due_uninterrupted, hHands.results_eq]

/-
  A frame straddles an interrupted read and a failure, and
  is handed out behind the failure and in front of the next
  frame.  What lies behind the end does not close the frame
  that is open there.
-/
theorem frames_of_faulty_source_straddled :
    let reset : IoError := ⟨.connectionReset, "reset"⟩
    let source : ByteSource :=
      [.data [7, 0xFF, 0xD8, 1],
        .fail ⟨.interrupted, "signal"⟩, .data [2, 0xFF],
        .fail reset,
        .data [0xD9, 0xFF, 0xD8, 3, 0xFF, 0xD9, 0xFF, 0xD8],
        .finish, .data [0xFF, 0xD9]]
    let r := ofSource source 6 3
    Marked.Fits 6 source.ahead.bytes ∧
      r.results 4 =
        [.error (.io reset),
          .ok (some ⟨0, [0xFF, 0xD8, 1, 2, 0xFF, 0xD9]⟩),
          .ok (some ⟨1, [0xFF, 0xD8, 3, 0xFF, 0xD9]⟩),
          .ok none] ∧
      ∃ due, source.ahead.IsDue due ∧
        r.HandsOut due ∧
        ∀ n,
          (ofSource source.uninterrupted 6 3).results n =
            r.results n := by
  intro reset source r
  have hFits : Marked.Fits 6 source.ahead.bytes := by
    constructor
    · decide +kernel
    · decide +kernel
  rcases frames_of_faulty_source source with
    ⟨due, hDue, hAll⟩
  exact
    ⟨hFits, by decide +kernel, due, hDue, hAll 6 3 hFits⟩

end FrameReader

end Reframe
