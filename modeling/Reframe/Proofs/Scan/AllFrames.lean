import Reframe.Proofs.Scan.Agreement
import Reframe.Proofs.Scan.Received

/-
  All that a reader hands out until a call of it returns
  nothing or fails.

  Main declarations:
    * `FrameReader.Sound.frames_readAll`
    * `FrameReader.frames_readAll_ofSource`
    * `FrameReader.isWhole_of_mem_readAll`
    * `FrameReader.Gives`
    * `FrameReader.gives_readMost`
    * `FrameReader.Gives.eq_take`
    * `ByteSource.arrivals_of_data`
    * `FrameReader.exists_feeds_of_data`
-/

namespace Reframe

------------------------------------------------------------
-- Numbered Frames
------------------------------------------------------------

/- The first of numbered frames are numbered themselves. -/
theorem take_numbered
    (n : Nat)
    (fs : List Bytes)
    (m : Nat) :
    (numbered n fs).take m = numbered n (fs.take m) := by
  induction fs generalizing n m with
  | nil => simp [numbered]
  | cons f fs ih =>
      cases m with
      | zero => rfl
      | succ m =>
          rw [numbered_cons, List.take_succ_cons,
            List.take_succ_cons, numbered_cons, ih]

/- The numbers of frames that are numbered. -/
theorem map_sequence_numbered
    (n : Nat)
    (fs : List Bytes) :
    (numbered n fs).map ScannedFrame.sequence =
      List.range' n fs.length := by
  rw [numbered, List.map_map]
  exact List.zipIdx_map_snd n fs

/- Frames whose numbers go on are numbered. -/
theorem eq_numbered
    {n : Nat}
    {fs : List ScannedFrame}
    (hNumbers :
      fs.map ScannedFrame.sequence =
        List.range' n fs.length) :
    fs = numbered n (fs.map ScannedFrame.data) := by
  induction fs generalizing n with
  | nil => rfl
  | cons f fs ih =>
      rw [List.map_cons, List.length_cons, List.range'_succ,
        List.cons.injEq] at hNumbers
      rw [List.map_cons, numbered_cons, ← ih hNumbers.2,
        ← hNumbers.1]

namespace FrameReader

------------------------------------------------------------
-- All Calls
------------------------------------------------------------

/- All frames that are outstanding are handed out. -/
theorem Sound.frames_readAll
    {r : FrameReader}
    (hSound : r.Sound) :
    r.readAll.frames = r.outstanding := by
  fun_induction readAll r with
  | case1 r e after hRead =>
      have hDelivers := delivers_read hSound
      rw [hRead] at hDelivers
      cases hDelivers with
      | nothing _ hNone => exact hNone.symm
  | case2 r after hRead =>
      have hDelivers := delivers_read hSound
      rw [hRead] at hDelivers
      cases hDelivers with
      | nothing _ hNone => exact hNone.symm
  | case3 r f after hRead run ih =>
      have hDelivers := delivers_read hSound
      rw [hRead] at hDelivers
      cases hDelivers with
      | frame hFirst hAfter => rw [hFirst, ← ih hAfter]
      | nothing hResult _ => cases hResult

/-
  All frames of the bytes that are received of a source are
  handed out, if none is too large.
-/
theorem frames_readAll_ofSource
    {source : ByteSource}
    {limit : Nat}
    (chunkSize : Nat)
    (hFits :
      ∀ frame ∈ Marked.frames source.received,
        frame.length ≤ limit) :
    (ofSource source limit chunkSize).readAll.frames =
      numbered 0 (Marked.frames source.received) := by
  rcases sound_ofSource chunkSize hFits with
    ⟨hSound, hDue⟩
  rw [hSound.frames_readAll, hDue]

/- Each call of all calls is one of a reader that is seen. -/
theorem exists_read_of_mem_readAll
    {r : FrameReader}
    {f : ScannedFrame}
    (hMem : f ∈ r.readAll.frames) :
    ∃ s, r.Visits s ∧ s.read.1 = .ok (some f) := by
  fun_induction readAll r with
  | case1 r e after hRead => cases hMem
  | case2 r after hRead => cases hMem
  | case3 r g after hRead run ih =>
      rcases List.mem_cons.mp hMem with rfl | hLater
      · exact ⟨r, .start, by rw [hRead]⟩
      · rcases ih hLater with ⟨s, hVisits, hFrame⟩
        have hFirst := r.visits_read
        rw [hRead] at hFirst
        exact ⟨s, hFirst.trans hVisits, hFrame⟩

/- All frames that are handed out of a source are whole. -/
theorem isWhole_of_mem_readAll
    {source : ByteSource}
    {limit chunkSize : Nat}
    {f : ScannedFrame}
    (hMem :
      f ∈ (ofSource source limit chunkSize).readAll.frames) :
    Marked.IsWhole f.data := by
  rcases exists_read_of_mem_readAll hMem with
    ⟨s, hVisits, hFrame⟩
  rcases s.visits_answer_of_read with
    ⟨t, hLater, hAnswer⟩
  have hNew := holds_ofSource source limit chunkSize
  have hHolds := hNew.of_visits (hVisits.trans hLater)
  rw [hFrame] at hAnswer
  exact (hHolds.isWhole_of_turn hAnswer).1

------------------------------------------------------------
-- Some Calls
------------------------------------------------------------

/- Hand out at most a number of frames, or all there are. -/
def readMost
    (r : FrameReader) : Option Nat → ReadRun
| none => r.readAll
| some n => r.readUpTo n

/-
  What calls come to that are made until one of them fails or
  returns nothing, or the limit is reached.
-/
inductive Gives :
    FrameReader → Option Nat → ReadRun → Prop where
| failed
    {r after : FrameReader}
    {limit : Option Nat}
    {e : FrameError}
    (hRead : r.read = (.error e, after)) :
    Gives r limit ⟨[], some e, after⟩
| ended
    {r after : FrameReader}
    {limit : Option Nat}
    (hRead : r.read = (.ok none, after)) :
    Gives r limit ⟨[], none, after⟩
| last
    {r after : FrameReader}
    {f : ScannedFrame}
    (hRead : r.read = (.ok (some f), after)) :
    Gives r (some 1) ⟨[f], none, after⟩
| further
    {r after : FrameReader}
    {limit : Option Nat}
    {f : ScannedFrame}
    {run : ReadRun}
    (hRead : r.read = (.ok (some f), after))
    (hLimit : ∀ n, limit = some n → 1 < n)
    (hRest : Gives after (limit.map Nat.pred) run) :
    Gives r limit { run with frames := f :: run.frames }

/- All calls give all frames. -/
theorem gives_readAll
    (r : FrameReader) : r.Gives none r.readAll := by
  fun_induction readAll r with
  | case1 r e after hRead => exact .failed hRead
  | case2 r after hRead => exact .ended hRead
  | case3 r f after hRead run ih =>
      exact .further hRead (fun n hNone => by cases hNone) ih

/- A number of calls gives as many frames. -/
theorem gives_readUpTo
    (r : FrameReader)
    (n : Nat) :
    r.Gives (some (n + 1)) (r.readUpTo (n + 1)) := by
  induction n generalizing r with
  | zero =>
      rw [readUpTo]
      split
      · rename_i hRead
        exact .failed hRead
      · rename_i hRead
        exact .ended hRead
      · rename_i hRead
        exact .last hRead
  | succ n ih =>
      rw [readUpTo]
      split
      · rename_i hRead
        exact .failed hRead
      · rename_i hRead
        exact .ended hRead
      · rename_i after hRead
        refine .further hRead ?_ (ih after)
        rintro m ⟨⟩
        omega

/- Calls up to a limit that is not zero give frames. -/
theorem gives_readMost
    (r : FrameReader)
    {limit : Option Nat}
    (hLimit : limit ≠ some 0) :
    r.Gives limit (r.readMost limit) := by
  match limit with
  | none => exact r.gives_readAll
  | some 0 => exact absurd rfl hLimit
  | some (n + 1) => exact r.gives_readUpTo n

/-
  Calls up to a limit hand out the first frames of all, and
  fail only if all calls do.
-/
theorem Gives.eq_take
    {r : FrameReader}
    {limit : Option Nat}
    {run : ReadRun}
    (hGives : r.Gives limit run) :
    let all := r.readAll
    run.frames =
        all.frames.take (limit.getD all.frames.length) ∧
      (all.failure = none → run.failure = none) := by
  induction hGives with
  | failed hRead =>
      rw [readAll_eq, hRead]
      exact ⟨List.take_nil.symm, fun hNone => hNone⟩
  | ended hRead =>
      rw [readAll_eq, hRead]
      exact ⟨List.take_nil.symm, fun hNone => hNone⟩
  | last hRead =>
      rw [readAll_eq, hRead]
      exact ⟨rfl, fun _ => rfl⟩
  | @further r after limit f run hRead hLimit hRest ih =>
      rcases ih with ⟨hFrames, hFailure⟩
      rw [readAll_eq, hRead]
      refine ⟨?_, hFailure⟩
      cases limit with
      | none =>
          rw [hFrames]
          rfl
      | some n =>
          have hMore := hLimit n rfl
          obtain ⟨m, rfl⟩ : ∃ m, n = m + 1 :=
            ⟨n - 1, by omega⟩
          rw [hFrames]
          rfl

------------------------------------------------------------
-- Numbers Of All Frames
------------------------------------------------------------

/- A call numbers the frame on that it hands out. -/
theorem sequence_of_read
    {r after : FrameReader}
    {f : ScannedFrame}
    (hRead : r.read = (.ok (some f), after)) :
    f.sequence = r.scanner.nextSequence ∧
      after.scanner.nextSequence =
        r.scanner.nextSequence + 1 := by
  suffices hAll :
      ∀ f, r.read.1 = .ok (some f) →
        f.sequence = r.scanner.nextSequence ∧
          r.read.2.scanner.nextSequence =
            r.scanner.nextSequence + 1 by
    have hThis := hAll f (by rw [hRead])
    rw [hRead] at hThis
    exact hThis
  refine
    read_induction
      (motive := fun r p =>
        ∀ f, p.1 = .ok (some f) →
          f.sequence = r.scanner.nextSequence ∧
            p.2.scanner.nextSequence =
              r.scanner.nextSequence + 1)
      ?_ ?_ r
  · intro r result after hTurn f hFrame
    have hTakes := r.takes_turn
    rw [hTurn] at hTakes
    cases hTakes with
    | handed hNext =>
        cases hFrame
        exact Scanner.sequence_of_next hNext
    | exhausted => cases hFrame
    | finished => cases hFrame
    | failed => cases hFrame
  · intro r s p hTurn hLater f hFrame
    have hTakes := r.takes_turn
    rw [hTurn] at hTakes
    have hSame :
        s.scanner.nextSequence = r.scanner.nextSequence := by
      cases hTakes with
      | took hNext =>
          have hKept := Scanner.nextSequence_of_next_none hNext
          exact hKept
      | interrupted hNext =>
          exact Scanner.nextSequence_of_next_none hNext
    rw [← hSame]
    exact hLater f hFrame

/- All frames are numbered on. -/
theorem map_sequence_readAll
    (r : FrameReader) :
    r.readAll.frames.map ScannedFrame.sequence =
      List.range' r.scanner.nextSequence
        r.readAll.frames.length := by
  fun_induction readAll r with
  | case1 r e after hRead => rfl
  | case2 r after hRead => rfl
  | case3 r f after hRead run ih =>
      rcases sequence_of_read hRead with ⟨hHere, hAfter⟩
      rw [List.map_cons, List.length_cons, List.range'_succ,
        ih, hHere, hAfter]

end FrameReader

------------------------------------------------------------
-- Sources That Do Not Fail
------------------------------------------------------------

/- Data are read piece by piece. -/
theorem ByteSource.arrivals_of_data
    (capacity : Nat)
    (chunks : List Bytes) :
    arrivals capacity (chunks.map .data) =
      (chunks.flatMap (pieces capacity)).map Except.ok := by
  rw [arrivals, List.flatMap_map, List.map_flatMap]
  rfl

/- All data are received. -/
theorem ByteSource.received_of_data
    (chunks : List Bytes) :
    received (chunks.map .data) = chunks.flatten := by
  induction chunks with
  | nil => rfl
  | cons chunk chunks ih =>
      rw [List.map_cons, received, ih, List.flatten_cons]

/- The stream of what is fed is all that is fed. -/
theorem Scanner.stream_feeds
    (pieces : List Bytes) :
    stream (feeds pieces) = pieces.flatten := by
  rw [stream, feeds, List.flatMap_map]
  exact List.flatMap_id'

/-
  Reading data to the end is feeding them to a new scanner,
  in pieces, and clearing it.
-/
theorem FrameReader.exists_feeds_of_data
    (limit chunkSize : Nat)
    (chunks : List Bytes) :
    ∃ pieces,
      let es := Scanner.feeds pieces
      let s := Scanner.withLimit limit
      let run :=
        (ofSource (chunks.map .data) limit chunkSize).readAll
      pieces.flatten = chunks.flatten ∧
        run.frames = s.pulled es ∧
        run.failure = none ∧
        run.after.scanner = (s.after es).clear := by
  have hCapacity : 0 < max chunkSize 1 := by omega
  have hPieces :=
    fun chunk => ByteSource.pieces_spec hCapacity chunk
  refine
    ⟨chunks.flatMap (ByteSource.pieces (max chunkSize 1)),
      ?_⟩
  intro es s run
  have hSome :
      ∀ piece ∈ chunks.flatMap
          (ByteSource.pieces (max chunkSize 1)),
        piece ≠ [] := by
    intro piece hMember
    rcases List.mem_flatMap.mp hMember with
      ⟨chunk, _, hPiece⟩
    exact (hPieces chunk).2 piece hPiece
  have hRun :=
    readAll_eq_feeds
      (r := ofSource (chunks.map .data) limit chunkSize)
      hSome (ByteSource.arrivals_of_data _ _) rfl
      (Scanner.next_withLimit limit)
  dsimp only at hRun
  refine ⟨?_, ?_⟩
  · rw [List.flatMap, List.flatten_flatten, List.map_map]
    congr 1
    exact List.map_id'' (fun chunk => (hPieces chunk).1) _
  · simp only [run, hRun]
    exact ⟨rfl, trivial, rfl⟩

end Reframe
