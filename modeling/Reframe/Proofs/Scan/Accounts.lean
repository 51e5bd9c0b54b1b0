import Reframe.Proofs.Scan.Resync

/-
  What becomes of the bytes that a scanner takes in.

  Bytes leave the buffer only at its front, as a frame or as
  bytes that are thrown away and counted.  So the bytes of a
  stream are, in order, the frames that were handed out,
  what was thrown away in front of them and between them,
  and what is in the buffer.

  Main declarations:
    * `Accounts`
    * `Accounts.trans`
    * `Spends`
    * `FrameSearch.spends_look`
    * `FrameSearch.spends_extract`
    * `Scanner.spends_step`
    * `Scanner.spends_run`
    * `Scanner.length_stream`
    * `Scanner.every_byte_is_accounted_for`
-/

namespace Reframe

------------------------------------------------------------
-- Stretches Of Bytes
------------------------------------------------------------

/-
  Bytes are, in order, some frames, a number of bytes that
  are thrown away in front of the frames, between them and
  behind them, and a rest.
-/
inductive Accounts :
    Bytes → List Bytes → Nat → Bytes → Prop where
| rest (bs : Bytes) :
    Accounts bs [] 0 bs
| junk
    (stretch : Bytes)
    {bs rest : Bytes}
    {fs : List Bytes}
    {n : Nat}
    (hBehind : Accounts bs fs n rest) :
    Accounts (stretch ++ bs) fs (stretch.length + n) rest
| frame
    (f : Bytes)
    {bs rest : Bytes}
    {fs : List Bytes}
    {n : Nat}
    (hBehind : Accounts bs fs n rest) :
    Accounts (f ++ bs) (f :: fs) n rest

section Stretches

variable {bs rest : Bytes} {fs : List Bytes} {n : Nat}

/- No byte is lost. -/
theorem Accounts.length_eq
    (hAccounts : Accounts bs fs n rest) :
    bs.length = fs.flatten.length + n + rest.length := by
  induction hAccounts with
  | rest bs => simp
  | junk stretch _ ih =>
      rw [List.length_append, ih]
      omega
  | frame f _ ih =>
      rw [List.length_append, ih, List.flatten_cons,
        List.length_append]
      omega

/- More bytes are added to the rest. -/
theorem Accounts.append
    (hAccounts : Accounts bs fs n rest)
    (more : Bytes) :
    Accounts (bs ++ more) fs n (rest ++ more) := by
  induction hAccounts with
  | rest bs => exact .rest _
  | junk stretch _ ih =>
      rw [List.append_assoc]
      exact ih.junk stretch
  | frame f _ ih =>
      rw [List.append_assoc]
      exact ih.frame f

/- The rest is taken apart in turn. -/
theorem Accounts.trans
    (hFirst : Accounts bs fs n rest)
    {fs' : List Bytes}
    {n' : Nat}
    {rest' : Bytes}
    (hNext : Accounts rest fs' n' rest') :
    Accounts bs (fs ++ fs') (n + n') rest' := by
  induction hFirst with
  | rest bs =>
      rw [Nat.zero_add]
      exact hNext
  | junk stretch _ ih =>
      rw [Nat.add_assoc]
      exact (ih hNext).junk stretch
  | frame f _ ih => exact (ih hNext).frame f

/- Bytes at the front are thrown away. -/
theorem accounts_drop
    (hWithin : n ≤ bs.length) :
    Accounts bs [] n (bs.drop n) := by
  have hJunk :=
    (Accounts.rest (bs.drop n)).junk (bs.take n)
  rw [List.take_append_drop, List.length_take,
    Nat.min_eq_left hWithin] at hJunk
  exact hJunk

/- The bytes at the front are a frame. -/
theorem accounts_take
    (bs : Bytes)
    (n : Nat) :
    Accounts bs [bs.take n] 0 (bs.drop n) := by
  have hFrame :=
    (Accounts.rest (bs.drop n)).frame (bs.take n)
  rw [List.take_append_drop] at hFrame
  exact hFrame

end Stretches

------------------------------------------------------------
-- Stretches And Counts
------------------------------------------------------------

/-
  The frames of some bytes and those that are thrown away
  are counted.
-/
structure Spends
    (old new : ScanStats)
    (bs : Bytes)
    (fs : List Bytes)
    (rest : Bytes) : Prop where
  frames_eq : new.frames = old.frames + fs.length
  exists_junk :
    ∃ n, new.discardedBytes = old.discardedBytes + n ∧
      Accounts bs fs n rest

/- Nothing is spent. -/
theorem spends_refl
    (stats : ScanStats)
    (bs : Bytes) :
    Spends stats stats bs [] bs where
  frames_eq := rfl
  exists_junk := ⟨0, rfl, .rest bs⟩

section Counts

variable {old mid new : ScanStats} {bs rest rest' : Bytes}
variable {fs fs' : List Bytes}

/- More bytes are added to the rest. -/
theorem Spends.append
    (hSpends : Spends old new bs fs rest)
    (more : Bytes) :
    Spends old new (bs ++ more) fs (rest ++ more) := by
  rcases hSpends.exists_junk with ⟨n, hJunk, hAccounts⟩
  exact
    ⟨hSpends.frames_eq, n, hJunk, hAccounts.append more⟩

/- The rest is spent in turn. -/
theorem Spends.trans
    (hFirst : Spends old mid bs fs rest)
    (hNext : Spends mid new rest fs' rest') :
    Spends old new bs (fs ++ fs') rest' := by
  rcases hFirst.exists_junk with ⟨n, hJunk, hAccounts⟩
  rcases hNext.exists_junk with ⟨n', hJunk', hAccounts'⟩
  constructor
  · rw [hNext.frames_eq, hFirst.frames_eq,
      List.length_append, Nat.add_assoc]
  · refine ⟨n + n', ?_, hAccounts.trans hAccounts'⟩
    rw [hJunk', hJunk, Nat.add_assoc]

/- No byte is lost, and none counted twice. -/
theorem Spends.length_eq
    (hSpends : Spends old new bs fs rest) :
    bs.length + old.discardedBytes =
      fs.flatten.length + new.discardedBytes +
        rest.length := by
  rcases hSpends.exists_junk with ⟨n, hJunk, hAccounts⟩
  rw [hAccounts.length_eq, hJunk]
  omega

end Counts

/- The frame that a look found. -/
def Look.frame? : Look → Option Bytes
| .found frame _ _ => some frame
| .waiting _ _ => none
| .dropped _ _ => none

namespace FrameSearch

------------------------------------------------------------
-- One Look
------------------------------------------------------------

/- No more is given up for than there is. -/
theorem nextStart_le
    (opened : ByteQueue) :
    nextStart opened ≤ opened.size := by
  unfold nextStart
  cases hNext :
      Marker.start.findIn? opened Marker.size with
  | none => exact Nat.le_refl _
  | some k =>
      have hBounds := (Marker.findIn?_bounds hNext).2
      simp only [Option.getD_some]
      omega

/- Bytes that are thrown away at the front are counted. -/
theorem spends_discard
    (s : FrameSearch)
    {bs : Bytes}
    {n : Nat}
    (hWithin : n ≤ bs.length) :
    Spends s.stats (s.discard n).stats bs []
      (bs.drop n) where
  frames_eq := rfl
  exists_junk := ⟨n, rfl, accounts_drop hWithin⟩

/-
  The search for an end marker spends the bytes of a frame,
  or those that it gives up, wherever it starts.
-/
theorem spends_lookForStop
    (s : FrameSearch)
    (opened : ByteQueue) :
    let look := s.lookForStop opened
    Spends s.stats look.after.stats opened.toList
      look.frame?.toList look.rest.toList := by
  unfold lookForStop
  split
  · rename_i i hStop
    exact ⟨rfl, 0, rfl, accounts_take _ _⟩
  · split
    · exact spends_refl _ _
    · have hWithin := nextStart_le opened
      rw [← ByteQueue.length_toList] at hWithin
      have hSpends := s.spends_discard hWithin
      exact ⟨hSpends.frames_eq, hSpends.exists_junk⟩

/-
  A look spends the bytes that it takes off the buffer,
  whatever is remembered.
-/
theorem spends_look
    (s : FrameSearch)
    (buffer : ByteQueue) :
    let look := s.look buffer
    Spends s.stats look.after.stats buffer.toList
      look.frame?.toList look.rest.toList := by
  unfold look
  split
  · split
    · rename_i i hStart
      have hWithin := (Marker.findIn?_bounds hStart).2
      rw [← ByteQueue.length_toList] at hWithin
      have hJunk :
          Spends s.stats (s.discard i).stats buffer.toList
            [] (buffer.drop i).toList :=
        s.spends_discard (by omega)
      have hOpened :=
        spends_lookForStop
          { s.discard i with resumeAt := Marker.size }
          (buffer.drop i)
      exact hJunk.trans hOpened
    · have hWithin :
          buffer.size - kept buffer ≤
            buffer.toList.length := by
        rw [ByteQueue.length_toList]
        exact Nat.sub_le _ _
      exact s.spends_discard hWithin
  · exact s.spends_lookForStop buffer

------------------------------------------------------------
-- Extraction
------------------------------------------------------------

/-
  An extraction spends the bytes that it takes off the
  buffer, whatever is remembered.
-/
theorem spends_extract
    (s : FrameSearch)
    (buffer : ByteQueue) :
    let x := s.extract buffer
    Spends s.stats x.after.stats buffer.toList
      x.frame.toList x.rest.toList := by
  fun_induction extract s buffer with
  | case1 s buffer frame rest after hLook =>
      have hSpends := s.spends_look buffer
      rw [hLook] at hSpends
      exact hSpends
  | case2 s buffer rest after hLook =>
      have hSpends := s.spends_look buffer
      rw [hLook] at hSpends
      exact hSpends
  | case3 s buffer rest after hLook ih =>
      have hSpends := s.spends_look buffer
      rw [hLook] at hSpends
      exact hSpends.trans ih

end FrameSearch

namespace Scanner

------------------------------------------------------------
-- Pulls And Events
------------------------------------------------------------

/- A pull spends what it takes off the buffer. -/
theorem spends_next
    (s : Scanner) :
    Spends s.stats s.next.2.stats s.buffer.toList
      (s.next.1.map ScannedFrame.data).toList
      s.next.2.buffer.toList := by
  rcases s.next_eq with ⟨hBuffer, hState, hData⟩
  rw [stats, stats, hBuffer, hState, hData]
  exact s.state.spends_extract s.buffer

/- Pulls spend what they take off the buffer. -/
theorem Pulls.spends
    {s after : Scanner}
    {fs : List ScannedFrame}
    {isEnd : Bool}
    (hPulls : Pulls s fs after isEnd) :
    Spends s.stats after.stats s.buffer.toList
      (fs.map ScannedFrame.data) after.buffer.toList := by
  induction hPulls with
  | stopped s => exact spends_refl _ _
  | @ended s after hNext =>
      have hSpends := s.spends_next
      rw [hNext] at hSpends
      exact hSpends
  | @pulled s t after f fs isEnd hNext hRest ih =>
      have hSpends := s.spends_next
      rw [hNext] at hSpends
      exact hSpends.trans ih

/- An event spends what it takes off the buffer. -/
theorem spends_step
    (s : Scanner)
    {e : Event}
    (hClear : e ≠ .clear) :
    Spends s.stats (s.step e).2.stats
      (s.buffer.toList ++ e.chunk)
      ((s.step e).1.map ScannedFrame.data)
      (s.step e).2.buffer.toList := by
  rcases s.pulls_step hClear with ⟨isEnd, hPulls, _⟩
  have hSpends := hPulls.spends
  simp only [push, ByteQueue.toList_append] at hSpends
  exact hSpends

------------------------------------------------------------
-- Runs
------------------------------------------------------------

/-
  A run in which the scanner is not cleared spends what it
  takes off the buffer.
-/
theorem spends_run
    (s : Scanner)
    {es : List Event}
    (hClear : .clear ∉ es) :
    Spends s.stats (s.after es).stats
      (s.buffer.toList ++ stream es)
      ((s.pulled es).map ScannedFrame.data)
      (s.after es).buffer.toList := by
  induction es using List.reverseRecOn with
  | nil =>
      rw [stream, List.flatMap_nil, List.append_nil]
      exact spends_refl _ _
  | append_singleton es e ih =>
      rw [List.mem_append, not_or, List.mem_singleton]
        at hClear
      have hBefore := (ih hClear.1).append e.chunk
      have hLast :=
        (s.after es).spends_step (Ne.symm hClear.2)
      rw [after_concat, stream_concat, pulled_concat,
        List.map_append, ← List.append_assoc]
      exact hBefore.trans hLast

/- The bytes that each clearing of a run drops. -/
def cleared
    (s : Scanner) : List Event → List Bytes
| [] => []
| .clear :: es => s.buffer.toList :: cleared s.clear es
| e :: es => cleared (s.step e).2 es

/-
  Of the bytes that are taken in, those of an event that
  does not clear are handed out, thrown away or kept.
-/
theorem length_chunk
    (s : Scanner)
    {e : Event}
    (hClear : e ≠ .clear) :
    s.buffered + e.chunk.length + s.stats.discardedBytes =
      ((s.step e).1.flatMap ScannedFrame.data).length +
        (s.step e).2.stats.discardedBytes +
        (s.step e).2.buffered := by
  have hLength := (s.spends_step hClear).length_eq
  rw [List.length_append, ByteQueue.length_toList,
    ByteQueue.length_toList, ← List.flatMap_def] at hLength
  exact hLength

/-
  Of the bytes that are taken in, those of a run are handed
  out, thrown away, cleared or kept.
-/
theorem length_stream
    (s : Scanner)
    (es : List Event) :
    s.buffered + (stream es).length +
        s.stats.discardedBytes =
      ((s.pulled es).flatMap ScannedFrame.data).length +
        (s.after es).stats.discardedBytes +
        (s.after es).buffered +
        (s.cleared es).flatten.length := by
  induction es generalizing s with
  | nil =>
      simp [stream, pulled, run, after, cleared,
        Nat.add_comm]
  | cons e es ih =>
      have hRest := ih (s.step e).2
      have hStream :
          stream (e :: es) = e.chunk ++ stream es := rfl
      have hPulled :
          s.pulled (e :: es) =
            (s.step e).1 ++ (s.step e).2.pulled es := rfl
      have hAfter :
          s.after (e :: es) = (s.step e).2.after es := rfl
      rw [hStream, hPulled, hAfter, List.length_append,
        List.flatMap_append, List.length_append]
      -- Only clearing drops bytes that are not counted.
      by_cases hClear : e = .clear
      · subst hClear
        rw [cleared, List.flatten_cons, List.length_append,
          ByteQueue.length_toList]
        simp only [step, clear, buffered, stats,
          FrameSearch.reset, Event.chunk, List.flatMap_nil,
          List.length_nil] at hRest ⊢
        omega
      · have hCleared :
            s.cleared (e :: es) =
              (s.step e).2.cleared es := by
          cases e with
          | clear => exact absurd rfl hClear
          | feed | push | next => rfl
        have hHere := s.length_chunk hClear
        rw [hCleared]
        omega

/- An event counts the frames that it hands out. -/
theorem frames_step
    (s : Scanner)
    (e : Event) :
    (s.step e).2.stats.frames =
      s.stats.frames + (s.step e).1.length := by
  by_cases hClear : e = .clear
  · subst hClear
    rfl
  · have hFrames := (s.spends_step hClear).frames_eq
    rw [List.length_map] at hFrames
    exact hFrames

/-
  A run counts the frames that it hands out, twice over: in
  the counts, and in the number of the next frame.
-/
theorem frames_after
    (s : Scanner)
    (es : List Event) :
    (s.after es).stats.frames =
        s.stats.frames + (s.pulled es).length ∧
      (s.after es).nextSequence =
        s.nextSequence + (s.pulled es).length := by
  induction es using List.reverseRecOn with
  | nil => exact ⟨rfl, rfl⟩
  | append_singleton es e ih =>
      have hNumber := ((s.after es).sequence_step e).2
      rw [after_concat, pulled_concat, List.length_append,
        frames_step, hNumber, ih.1, ih.2]
      omega

/-
  In any run, every byte that is taken in is part of a frame
  that is handed out, or thrown away, or in the buffer, or
  was in it when it was cleared.  Since the last clearing,
  these are in the order in which they were taken in.
-/
theorem every_byte_is_accounted_for
    (limit : Nat) :
    (∀ es : List Event,
      let s := (withLimit limit).after es
      let fs := (withLimit limit).pulled es
      (stream es).length =
          (fs.flatMap ScannedFrame.data).length +
            s.stats.discardedBytes + s.buffered +
            ((withLimit limit).cleared es).flatten.length ∧
        s.stats.frames = fs.length ∧
        s.nextSequence = fs.length) ∧
      ∀ before since : List Event,
        (before = [] ∨ before.getLast? = some .clear) →
          .clear ∉ since →
            let s := (withLimit limit).after before
            let t := (withLimit limit).after (before ++ since)
            ∃ n,
              t.stats.discardedBytes =
                  s.stats.discardedBytes + n ∧
                Accounts (stream since)
                  ((s.pulled since).map ScannedFrame.data) n
                  t.buffer.toList := by
  refine ⟨?_, ?_⟩
  · intro es s fs
    have hLength := (withLimit limit).length_stream es
    rcases (withLimit limit).frames_after es with
      ⟨hFrames, hNumber⟩
    simp only [withLimit, buffered, stats, Nat.zero_add,
      Nat.add_zero] at hLength hFrames hNumber
    exact ⟨hLength, hFrames, hNumber⟩
  · intro before since hBefore hClear s t
    have hEmpty : s.buffer.toList = [] := by
      rcases hBefore with hNil | hLast
      · simp only [s, hNil]
        rfl
      · rcases List.getLast?_eq_some_iff.mp hLast with
          ⟨es, rfl⟩
        simp only [s, after_concat]
        rfl
    have hSpends := s.spends_run hClear
    have hAfter : s.after since = t := by
      simp only [s, t, after, List.foldl_append]
    rw [hEmpty, List.nil_append, hAfter] at hSpends
    exact hSpends.exists_junk

/-
  A frame is handed out behind junk and an open one is
  cleared away.  Then a frame arrives in pieces, another one
  grows too large, and one is left open.
-/
theorem every_byte_is_accounted_for_after_clear :
    let before : List Event :=
      [.feed [7, 0xFF, 0xD8, 1, 0xFF, 0xD9, 0xFF, 0xD8] none,
        .clear]
    let since : List Event :=
      [.feed [8, 8, 0xFF] none, .push [0xD8, 2, 0xFF], .next,
        .feed [0xD9, 9, 0xFF, 0xD8, 3, 3, 3, 3] (some 1),
        .push [0xFF, 0xD8, 4], .next]
    let s := (withLimit 5).after before
    let t := (withLimit 5).after (before ++ since)
    (before = [] ∨ before.getLast? = some .clear) ∧
      .clear ∉ since ∧
      t.stats = ⟨2, 10, 1⟩ ∧
      t.buffer.toList = [0xFF, 0xD8, 4] ∧
      ∃ n,
        t.stats.discardedBytes =
            s.stats.discardedBytes + n ∧
          Accounts (stream since)
            ((s.pulled since).map ScannedFrame.data) n
            t.buffer.toList := by
  intro before since s t
  have hBefore : before.getLast? = some .clear := rfl
  have hClear : .clear ∉ since := by
    decide
  rcases every_byte_is_accounted_for 5 with ⟨_, hSince⟩
  exact
    ⟨Or.inr hBefore, hClear, by decide +kernel,
      by decide +kernel,
      hSince before since (Or.inr hBefore) hClear⟩

end Scanner

end Reframe
