import Reframe.Scan.Reader
import Reframe.Proofs.Scan.Search

/-
  A call of a reader as a row of turns: each turn hands out
  a frame that is at hand, or reads once.

  Main declarations:
    * `FrameSearch.extract_of_extract_none`
    * `FrameReader.turn`
    * `FrameReader.read_eq_turn`
    * `FrameReader.Takes`
    * `FrameReader.takes_turn`
    * `FrameReader.read_induction`
-/

namespace Reframe

namespace FrameSearch

------------------------------------------------------------
-- Looking Twice
------------------------------------------------------------

/-
  Without a start marker at most half of one is kept, and
  all of that is kept again.
-/
theorem toList_drop_kept
    (buffer : ByteQueue) :
    let rest := buffer.drop (buffer.size - kept buffer)
    (rest.toList = [] ∨
        rest.toList = [Marker.start.first]) ∧
      rest.size = kept rest := by
  intro rest
  have hRest :
      rest.toList =
        buffer.toList.drop (buffer.size - kept buffer) :=
    buffer.toList_drop _
  by_cases hLast :
      buffer.toList.getLast? = some Marker.start.first
  · rcases List.getLast?_eq_some_iff.mp hLast with
      ⟨front, hSplit⟩
    have hSize : buffer.size = front.length + 1 := by
      rw [← buffer.length_toList, hSplit]
      simp
    rw [kept, if_pos hLast, hSplit, hSize,
      Nat.add_sub_cancel, List.drop_left] at hRest
    refine ⟨Or.inr hRest, ?_⟩
    rw [← rest.length_toList, kept, hRest]
    rfl
  · rw [kept, if_neg hLast, Nat.sub_zero,
      ← buffer.length_toList, List.drop_length] at hRest
    refine ⟨Or.inl hRest, ?_⟩
    rw [← rest.length_toList, kept, hRest]
    rfl

/- A look that keeps an open frame would keep it again. -/
theorem look_of_lookForStop_waiting
    {s after : FrameSearch}
    {opened rest : ByteQueue}
    (hLook : s.lookForStop opened = .waiting rest after) :
    after.look rest = .waiting rest after := by
  unfold lookForStop at hLook
  split at hLook
  · cases hLook
  · split at hLook
    · rename_i hFits
      cases hLook
      -- Behind the last byte but one there is no room.
      have hNone :
          Marker.stop.findIn? opened
              (max (opened.size - 1) Marker.size) =
            none := by
        rw [Option.eq_none_iff_forall_ne_some]
        intro i hFound
        have hBounds := Marker.findIn?_bounds hFound
        simp only [Marker.size] at hBounds
        omega
      have hOpen :
          max (opened.size - 1) Marker.size ≠ 0 := by
        simp only [Marker.size]
        omega
      simp only [look, if_neg hOpen, lookForStop, hNone,
        if_pos hFits]
    · cases hLook

/- A look that waits would wait again. -/
theorem look_of_look_waiting
    {s after : FrameSearch}
    {buffer rest : ByteQueue}
    (hLook : s.look buffer = .waiting rest after) :
    after.look rest = .waiting rest after := by
  unfold look at hLook
  split at hLook
  · rename_i hZero
    split at hLook
    · exact look_of_lookForStop_waiting hLook
    · cases hLook
      rcases toList_drop_kept buffer with ⟨hShort, hKept⟩
      have hNone :
          Marker.start.find?
              (buffer.drop
                (buffer.size - kept buffer)).toList 0 =
            none := by
        rcases hShort with hEmpty | hHalf
        · rw [hEmpty]
          rfl
        · rw [hHalf]
          rfl
      have hAgain :=
        look_of_start_none
          (s := s.discard (buffer.size - kept buffer))
          hZero hNone
      rw [hKept, Nat.sub_self] at hAgain
      exact hAgain
  · exact look_of_lookForStop_waiting hLook

/- A look that waits ends an extraction. -/
theorem extract_of_look_waiting
    {s after : FrameSearch}
    {buffer rest : ByteQueue}
    (hLook : s.look buffer = .waiting rest after) :
    s.extract buffer = ⟨none, rest, after⟩ := by
  rw [extract]
  split
  · rename_i hOther
    rw [hLook] at hOther
    cases hOther
  · rename_i hSame
    rw [hLook] at hSame
    cases hSame
    rfl
  · rename_i hOther
    rw [hLook] at hOther
    cases hOther

/- An extraction without a frame would come to the same. -/
theorem extract_of_extract_none
    {s : FrameSearch}
    {buffer : ByteQueue}
    (hNone : (s.extract buffer).frame = none) :
    (s.extract buffer).after.extract
        (s.extract buffer).rest =
      s.extract buffer := by
  fun_induction extract s buffer with
  | case1 s buffer frame rest after hLook => cases hNone
  | case2 s buffer rest after hLook =>
      have hAgain := look_of_look_waiting hLook
      exact extract_of_look_waiting hAgain
  | case3 s buffer rest after hLook ih => exact ih hNone

end FrameSearch

/- A pull that returns nothing would return it again. -/
theorem Scanner.next_of_next_none
    {s after : Scanner}
    (hNext : s.next = (none, after)) :
    after.next = (none, after) := by
  unfold Scanner.next at hNext
  cases hFrame : (s.state.extract s.buffer).frame with
  | some data => simp [hFrame] at hNext
  | none =>
      have hAgain :=
        FrameSearch.extract_of_extract_none hFrame
      simp only [hFrame, Prod.mk.injEq, true_and] at hNext
      rw [← hNext]
      simp only [Scanner.next, hAgain, hFrame]

------------------------------------------------------------
-- Turns Of A Call
------------------------------------------------------------

namespace FrameReader

/-
  What one turn of a call comes to: it ends the call, or the
  call goes on with another turn.
-/
inductive Turn where
| answer (result : ReadResult) (after : FrameReader)
| again (after : FrameReader)

/- The reader after a turn. -/
def Turn.after : Turn → FrameReader
| .answer _ after => after
| .again after => after

/- What the call comes to that goes on with a turn. -/
def Turn.outcome : Turn → ReadResult × FrameReader
| .answer result after => (result, after)
| .again after => after.read

/- Read once, when no frame is at hand. -/
def readOnce
    (r : FrameReader) : List Arrival → Turn
| [] => .answer (.ok none) (r.finish [])
| .ok [] :: rest => .answer (.ok none) (r.finish rest)
| .ok chunk :: rest =>
    .again
      { r with
        pending := rest
        scanner := r.scanner.push chunk }
| .error e :: rest =>
    let r := { r with pending := rest }
    if e.kind = .interrupted then .again r
    else .answer (.error (.io e)) r

/-
  One turn of a call: hand a frame out that is at hand, or
  read once.
-/
def turn
    (r : FrameReader) : Turn :=
  match r.scanner.next with
  | (some f, scanner) =>
      .answer (.ok (some f)) { r with scanner := scanner }
  | (none, scanner) =>
      let r := { r with scanner := scanner }
      if r.ended then .answer (.ok none) r
      else r.readOnce r.pending

/- Bytes that are read may complete a frame. -/
theorem readMore_chunk
    (r : FrameReader)
    {chunk : Bytes}
    (hChunk : chunk ≠ [])
    (rest : List Arrival) :
    r.readMore (.ok chunk :: rest) =
      match (r.scanner.push chunk).next with
      | (some f, scanner) =>
          (.ok (some f),
            { r with pending := rest, scanner := scanner })
      | (none, scanner) =>
          readMore { r with scanner := scanner } rest := by
  cases chunk with
  | nil => exact absurd rfl hChunk
  | cons b bs => rfl

/- Reading on does not depend on what was to be read. -/
theorem readMore_pending
    (r : FrameReader)
    (pending as : List Arrival) :
    ({ r with pending := pending } : FrameReader).readMore
        as =
      r.readMore as := by
  fun_induction readMore r as with
  | case1 r => rfl
  | case2 r rest => rfl
  | case3 r rest chunk hChunk f scanner hNext =>
      rw [readMore_chunk _ hChunk]
      simp only [hNext]
  | case4 r rest chunk hChunk scanner hNext ih =>
      rw [readMore_chunk _ hChunk]
      simp only [hNext]
      exact ih
  | case5 r e rest hKind ih =>
      rw [readMore, if_pos hKind]
      exact ih
  | case6 r e rest hKind =>
      rw [readMore, if_neg hKind]

/- To read on is to read once and to go on. -/
theorem readMore_eq_readOnce
    {r : FrameReader}
    (hNone : r.scanner.next = (none, r.scanner))
    (hOpen : r.ended = false)
    (as : List Arrival) :
    r.readMore as = (r.readOnce as).outcome := by
  fun_cases readOnce r as with
  | case1 => rfl
  | case2 rest => rfl
  | case3 chunk rest hChunk =>
      rw [readMore_chunk r hChunk, Turn.outcome, read]
      cases hNext : (r.scanner.push chunk).next with
      | mk found scanner =>
          cases found with
          | some f => rfl
          | none =>
              simp only [hOpen]
              exact (readMore_pending _ rest rest).symm
  | case4 e rest s hKind =>
      have hRead : s.read = s.readMore rest := by
        simp [read, s, hNone, hOpen]
      rw [readMore, if_pos hKind, Turn.outcome, hRead]
      exact (readMore_pending r rest rest).symm
  | case5 e rest s hKind =>
      rw [readMore, if_neg hKind]
      rfl

/- A call takes turns until one of them ends it. -/
theorem read_eq_turn
    (r : FrameReader) :
    r.read = r.turn.outcome := by
  rw [read, turn]
  cases hNext : r.scanner.next with
  | mk found scanner =>
      cases found with
      | some f => rfl
      | none =>
          dsimp only
          by_cases hEnded : r.ended = true
          · rw [if_pos hEnded, if_pos hEnded, Turn.outcome]
          · rw [if_neg hEnded, if_neg hEnded]
            rw [Bool.not_eq_true] at hEnded
            exact
              readMore_eq_readOnce
                (r := { r with scanner := scanner })
                (Scanner.next_of_next_none hNext) hEnded
                r.pending

/- All that a turn can come to. -/
inductive Takes
    (r : FrameReader) : Turn → Prop where
/- A frame at hand is handed out. -/
| handed
    {f : ScannedFrame}
    {scanner : Scanner}
    (hNext : r.scanner.next = (some f, scanner)) :
    Takes r
      (.answer (.ok (some f)) { r with scanner := scanner })
/- No frame is at hand, and the source is over. -/
| exhausted
    {scanner : Scanner}
    (hNext : r.scanner.next = (none, scanner))
    (hEnded : r.ended = true) :
    Takes r (.answer (.ok none) { r with scanner := scanner })
/- The end of the source is read. -/
| finished
    {scanner : Scanner}
    {rest : List Arrival}
    (hNext : r.scanner.next = (none, scanner))
    (hOpen : r.ended = false)
    (hPending :
      r.pending = [] ∧ rest = [] ∨
        r.pending = .ok [] :: rest) :
    Takes r
      (.answer (.ok none)
        (({ r with scanner := scanner } : FrameReader).finish
          rest))
/- Bytes are read. -/
| took
    {scanner : Scanner}
    {chunk : Bytes}
    {rest : List Arrival}
    (hNext : r.scanner.next = (none, scanner))
    (hOpen : r.ended = false)
    (hChunk : chunk ≠ [])
    (hPending : r.pending = .ok chunk :: rest) :
    Takes r
      (.again
        { r with
          pending := rest
          scanner := scanner.push chunk })
/- A read is interrupted. -/
| interrupted
    {scanner : Scanner}
    {e : IoError}
    {rest : List Arrival}
    (hNext : r.scanner.next = (none, scanner))
    (hOpen : r.ended = false)
    (hKind : e.kind = .interrupted)
    (hPending : r.pending = .error e :: rest) :
    Takes r
      (.again
        { r with pending := rest, scanner := scanner })
/- A read fails. -/
| failed
    {scanner : Scanner}
    {e : IoError}
    {rest : List Arrival}
    (hNext : r.scanner.next = (none, scanner))
    (hOpen : r.ended = false)
    (hKind : e.kind ≠ .interrupted)
    (hPending : r.pending = .error e :: rest) :
    Takes r
      (.answer (.error (.io e))
        { r with pending := rest, scanner := scanner })

/- Every turn comes to one of these. -/
theorem takes_turn
    (r : FrameReader) :
    r.Takes r.turn := by
  unfold turn
  split
  · rename_i f scanner hNext
    exact .handed hNext
  · rename_i scanner hNext
    dsimp only
    split
    · rename_i hEnded
      exact .exhausted hNext hEnded
    · rename_i hOpen
      rw [Bool.not_eq_true] at hOpen
      unfold readOnce
      split
      · rename_i hPending
        exact .finished hNext hOpen (Or.inl ⟨hPending, rfl⟩)
      · rename_i rest hPending
        exact .finished hNext hOpen (Or.inr hPending)
      · rename_i chunk rest hChunk hPending
        exact .took hNext hOpen hChunk hPending
      · rename_i e rest hPending
        dsimp only
        split
        · rename_i hKind
          exact .interrupted hNext hOpen hKind hPending
        · rename_i hKind
          exact .failed hNext hOpen hKind hPending

/- A turn that does not end a call reads once. -/
theorem length_pending_lt_of_again
    {r s : FrameReader}
    (hTurn : r.turn = .again s) :
    s.pending.length < r.pending.length := by
  have hTakes := r.takes_turn
  rw [hTurn] at hTakes
  cases hTakes with
  | took _ _ _ hPending =>
      rw [hPending]
      exact Nat.lt_succ_self _
  | interrupted _ _ _ hPending =>
      rw [hPending]
      exact Nat.lt_succ_self _

/-
  What holds of the turn that answers a call, and is passed
  back over the turns in front of it, holds of the call.
-/
theorem read_induction
    {motive :
      FrameReader → ReadResult × FrameReader → Prop}
    (hAnswer :
      ∀ r result after, r.turn = .answer result after →
        motive r (result, after))
    (hAgain :
      ∀ r s p, r.turn = .again s → motive s p → motive r p)
    (r : FrameReader) :
    motive r r.read := by
  induction hLength : r.pending.length using
    Nat.strongRecOn generalizing r with
  | ind n ih =>
      rw [read_eq_turn]
      cases hTurn : r.turn with
      | answer result after =>
          exact hAnswer r result after hTurn
      | again s =>
          have hLess := length_pending_lt_of_again hTurn
          apply hAgain r s _ hTurn
          exact ih s.pending.length (by omega) s rfl

end FrameReader

end Reframe
