import Reframe.Proofs.Scan.Agreement

/-
  A search stays within its buffer, whatever it remembers.

  A codec does not own its buffer.  The caller may change it
  between two calls, so that the place to look on at may lie
  anywhere, also behind the end.  Here an extraction is
  written down with operations that fail out of range, and
  with a loop that fails on a turn that takes nothing off
  the buffer.  It fails for no buffer, and comes to what the
  extraction of a codec comes to.

  Main declarations:
    * `RangeError`
    * `Checked.extract`
    * `Checked.find_eq`
    * `Checked.look_eq`
    * `Checked.extract_eq`
    * `Checked.run_eq`
    * `TakesOff`
    * `FrameSearch.takesOff_extract`
    * `BufferCodec.stays_within_any_buffer`
-/

namespace Reframe

------------------------------------------------------------
-- Operations That May Fail
------------------------------------------------------------

/- What can go wrong in a search. -/
inductive RangeError where
/- A number is subtracted from a smaller one. -/
| difference (n k : Nat)
/- A place is behind the end of the bytes. -/
| place (i size : Nat)
/- More bytes are dropped than there are. -/
| advance (n size : Nat)
/- More bytes are cut off than there are. -/
| split (n size : Nat)
/- A turn of the loop took nothing off the buffer. -/
| stuck (size : Nat)
deriving DecidableEq, Repr

namespace Checked

/- Subtract a number from one that is no smaller. -/
def difference
    (n k : Nat) : Except RangeError Nat :=
  if k ≤ n then .ok (n - k) else .error (.difference n k)

/- A place in the bytes, or right behind them. -/
def place
    (q : ByteQueue)
    (i : Nat) : Except RangeError Nat :=
  if i ≤ q.size then .ok i else .error (.place i q.size)

/- Drop bytes at the front. -/
def advance
    (q : ByteQueue)
    (n : Nat) : Except RangeError ByteQueue :=
  if n ≤ q.size then .ok (q.drop n)
  else .error (.advance n q.size)

/- Cut bytes off the front. -/
def splitTo
    (q : ByteQueue)
    (n : Nat) : Except RangeError (Bytes × ByteQueue) :=
  if n ≤ q.size then .ok (q.toList.take n, q.drop n)
  else .error (.split n q.size)

/- The bytes from a place on, if there is such a place. -/
def slice?
    (q : ByteQueue)
    (i : Nat) : Option Bytes :=
  if i ≤ q.size then some (q.toList.drop i) else none

/-
  The first place of a marker at or after a position.  It is
  counted from that position on, and then moved.
-/
def find
    (m : Marker)
    (q : ByteQueue)
    (i : Nat) : Except RangeError (Option Nat) :=
  match (slice? q i).bind (m.search? 0) with
  | none => .ok none
  | some k => return some (← place q (k + i))

------------------------------------------------------------
-- Searches That May Fail
------------------------------------------------------------

/- Count bytes at the front, and drop them. -/
def discard
    (s : FrameSearch)
    (buffer : ByteQueue)
    (n : Nat) : Except RangeError (FrameSearch × ByteQueue) :=
  return (s.discard n, ← advance buffer n)

/- Look for the end of the frame that is open. -/
def lookForStop
    (s : FrameSearch)
    (buffer : ByteQueue) : Except RangeError Look := do
  match ← find .stop buffer s.resumeAt with
  | some i =>
      let (frame, rest) ← splitTo buffer (i + Marker.size)
      return .found frame rest
        { s with
          resumeAt := 0
          stats :=
            { s.stats with frames := s.stats.frames + 1 } }
  | none =>
      if buffer.size ≤ s.maxFrameSize then
        -- An empty buffer counts as one of a single byte.
        return .waiting buffer
          { s with
            resumeAt := max (buffer.size - 1) Marker.size }
      else
        let next ← find .start buffer Marker.size
        let (after, rest) ←
          discard s.reset buffer (next.getD buffer.size)
        return .dropped rest
          { after with
            stats :=
              { after.stats with
                oversized := after.stats.oversized + 1 } }

/- Look for a frame once. -/
def look
    (s : FrameSearch)
    (buffer : ByteQueue) : Except RangeError Look := do
  if s.resumeAt = 0 then
    match ← find .start buffer 0 with
    | some i =>
        let (after, opened) ← discard s buffer i
        lookForStop
          { after with resumeAt := Marker.size } opened
    | none =>
        let n ←
          difference buffer.size (FrameSearch.kept buffer)
        let (after, rest) ← discard s buffer n
        return .waiting rest after
  else lookForStop s buffer

/-
  Look until there is a frame or nothing left to do.  Each
  further turn has to take something off the buffer.
-/
def extract
    (s : FrameSearch)
    (buffer : ByteQueue) : Except RangeError Extraction :=
  match look s buffer with
  | .error e => .error e
  | .ok (.found frame rest after) =>
      .ok ⟨some frame, rest, after⟩
  | .ok (.waiting rest after) => .ok ⟨none, rest, after⟩
  | .ok (.dropped rest after) =>
      if rest.size < buffer.size then extract after rest
      else .error (.stuck buffer.size)
termination_by buffer.size

/- Cut the next frame off the front of a buffer. -/
def decode
    (c : BufferCodec)
    (buffer : Bytes) : Except RangeError Decoding := do
  let x ← extract c.state (.ofList buffer)
  return ⟨x.frame.map (ScannedFrame.mk c.nextSequence),
    x.rest.toList,
    { state := x.after
      nextSequence :=
        c.nextSequence + x.frame.toList.length }⟩

/-
  Cut the next frame off a buffer to which nothing will be
  added.  If there is none, the buffer is emptied.
-/
def decodeEnd
    (c : BufferCodec)
    (buffer : Bytes) : Except RangeError Decoding := do
  let d ← decode c buffer
  match d.frame with
  | some _ => return d
  | none =>
      return ⟨none, [],
        { d.codec with state := d.codec.state.reset }⟩

/- Let one event happen.  The caller may do anything. -/
def step
    (c : BufferCodec)
    (buffer : Bytes) :
    BufferCodec.Event → Except RangeError Decoding
| .append bs => .ok ⟨none, buffer ++ bs, c⟩
| .truncate n => .ok ⟨none, buffer.take n, c⟩
| .advance n => .ok ⟨none, buffer.drop n, c⟩
| .decode => decode c buffer
| .decodeEnd => decodeEnd c buffer

/- Let events happen in order, as long as none fails. -/
def run
    (c : BufferCodec)
    (buffer : Bytes) :
    List BufferCodec.Event → Except RangeError (List Decoding)
| [] => .ok []
| e :: es => do
    let d ← step c buffer e
    return d :: (← run d.codec d.buffer es)

------------------------------------------------------------
-- Operations In Range
------------------------------------------------------------

section Operations

variable {q : ByteQueue} {n : Nat}

theorem advance_eq
    (hWithin : n ≤ q.size) :
    advance q n = .ok (q.drop n) :=
  if_pos hWithin

theorem splitTo_eq
    (hWithin : n ≤ q.size) :
    splitTo q n = .ok (q.toList.take n, q.drop n) :=
  if_pos hWithin

theorem discard_eq
    (s : FrameSearch)
    (hWithin : n ≤ q.size) :
    discard s q n = .ok (s.discard n, q.drop n) := by
  rw [discard, advance_eq hWithin]
  rfl

end Operations

/-
  What is found in a slice is found in the whole, further
  back.  Behind the end there is no slice, and nothing is
  found there either.
-/
theorem search?_slice?
    (m : Marker)
    (q : ByteQueue)
    (i : Nat) :
    (slice? q i).bind (m.search? 0) =
      (m.findIn? q i).map (fun j => j - i) := by
  by_cases hPlace : i ≤ q.size
  · rw [slice?, if_pos hPlace, Marker.findIn?_eq]
    exact m.find?_drop q.toList i 0
  · have hNone : m.findIn? q i = none := by
      rw [Option.eq_none_iff_forall_ne_some]
      intro j hFound
      have hBounds := Marker.findIn?_bounds hFound
      omega
    rw [slice?, if_neg hPlace, hNone]
    rfl

/- A marker is found at the same place, within the bytes. -/
theorem find_eq
    (m : Marker)
    (q : ByteQueue)
    (i : Nat) :
    find m q i = .ok (m.findIn? q i) := by
  rw [find, search?_slice?]
  cases hFound : m.findIn? q i with
  | none => rfl
  | some j =>
      have hBounds := Marker.findIn?_bounds hFound
      have hWithin : j ≤ q.size := by omega
      simp only [Option.map_some, place,
        Nat.sub_add_cancel hBounds.1, if_pos hWithin]
      rfl

------------------------------------------------------------
-- Searches In Range
------------------------------------------------------------

/-
  The search for an end marker stays within the buffer,
  wherever it starts.
-/
theorem lookForStop_eq
    (s : FrameSearch)
    (buffer : ByteQueue) :
    lookForStop s buffer = .ok (s.lookForStop buffer) := by
  rw [lookForStop, FrameSearch.lookForStop, find_eq]
  cases hStop :
      Marker.stop.findIn? buffer s.resumeAt with
  | some i =>
      have hWithin := (Marker.findIn?_bounds hStop).2
      simp only [bind, Except.bind, splitTo_eq hWithin]
      rfl
  | none =>
      by_cases hFits : buffer.size ≤ s.maxFrameSize
      · simp only [bind, Except.bind, if_pos hFits]
        rfl
      · have hWithin := FrameSearch.nextStart_le buffer
        have hDiscard := discard_eq s.reset hWithin
        simp only [FrameSearch.nextStart] at hDiscard
        simp only [bind, Except.bind, if_neg hFits, find_eq,
          hDiscard]
        rfl

/- A byte is only kept of a buffer that has a last one. -/
theorem kept_le
    (buffer : ByteQueue) :
    FrameSearch.kept buffer ≤ buffer.size := by
  unfold FrameSearch.kept
  split
  · rename_i hLast
    have hSome : buffer.toList ≠ [] := by
      intro hNil
      rw [hNil] at hLast
      cases hLast
    rw [← buffer.length_toList]
    exact List.length_pos_iff.mpr hSome
  · exact Nat.zero_le _

/- A look stays within the buffer, whatever is remembered. -/
theorem look_eq
    (s : FrameSearch)
    (buffer : ByteQueue) :
    look s buffer = .ok (s.look buffer) := by
  rw [look, FrameSearch.look]
  by_cases hZero : s.resumeAt = 0
  · rw [if_pos hZero, if_pos hZero, find_eq]
    cases hStart : Marker.start.findIn? buffer 0 with
    | some i =>
        have hBounds := (Marker.findIn?_bounds hStart).2
        have hWithin : i ≤ buffer.size := by omega
        simp only [bind, Except.bind, discard_eq s hWithin,
          lookForStop_eq]
    | none =>
        have hKept := kept_le buffer
        have hWithin :
            buffer.size - FrameSearch.kept buffer ≤
              buffer.size :=
          Nat.sub_le _ _
        simp only [bind, Except.bind, difference,
          if_pos hKept, discard_eq s hWithin]
        rfl
  · rw [if_neg hZero, if_neg hZero, lookForStop_eq]

/-
  An extraction stays within the buffer, and each further
  turn takes something off it, whatever is remembered.
-/
theorem extract_eq
    (s : FrameSearch)
    (buffer : ByteQueue) :
    extract s buffer = .ok (s.extract buffer) := by
  fun_induction FrameSearch.extract s buffer with
  | case1 s buffer frame rest after hLook =>
      rw [extract, look_eq, hLook]
  | case2 s buffer rest after hLook =>
      rw [extract, look_eq, hLook]
  | case3 s buffer rest after hLook ih =>
      have hLess :=
        FrameSearch.size_lt_of_look_dropped hLook
      rw [extract, look_eq, hLook]
      simp only [if_pos hLess, ih]

------------------------------------------------------------
-- Any Caller
------------------------------------------------------------

theorem decode_eq
    (c : BufferCodec)
    (buffer : Bytes) :
    decode c buffer = .ok (c.decode buffer) := by
  rw [decode, extract_eq, c.decode_eq_extract]
  rfl

theorem decodeEnd_eq
    (c : BufferCodec)
    (buffer : Bytes) :
    decodeEnd c buffer = .ok (c.decodeEnd buffer) := by
  rw [decodeEnd, decode_eq, BufferCodec.decodeEnd]
  cases hFrame : (c.decode buffer).frame with
  | some f => simp only [bind, Except.bind, hFrame]; rfl
  | none => simp only [bind, Except.bind, hFrame]; rfl

/- No event takes a call out of range. -/
theorem step_eq
    (c : BufferCodec)
    (buffer : Bytes)
    (e : BufferCodec.Event) :
    step c buffer e = .ok (c.step buffer e) := by
  cases e with
  | append | truncate | advance => rfl
  | decode => exact decode_eq c buffer
  | decodeEnd => exact decodeEnd_eq c buffer

/- No call of a run is out of range. -/
theorem run_eq
    (c : BufferCodec)
    (buffer : Bytes)
    (es : List BufferCodec.Event) :
    run c buffer es = .ok (c.run buffer es) := by
  induction es generalizing c buffer with
  | nil => rfl
  | cons e es ih =>
      rw [run, step_eq, BufferCodec.run]
      simp only [bind, Except.bind, ih]
      rfl

end Checked

------------------------------------------------------------
-- What Is Taken Off
------------------------------------------------------------

/-
  Bytes are thrown away at the front and counted, and a
  frame, if any, is cut off right behind them.
-/
def TakesOff
    (old new : ScanStats)
    (bs : Bytes)
    (frame : Option Bytes)
    (rest : Bytes) : Prop :=
  ∃ junk, bs = junk ++ frame.getD [] ++ rest ∧
    new.discardedBytes = old.discardedBytes + junk.length

section Front

variable {old mid new : ScanStats} {bs rest rest' : Bytes}

/- Without a frame all that is spent is thrown away. -/
theorem Accounts.exists_junk
    {n : Nat}
    (hAccounts : Accounts bs [] n rest) :
    ∃ junk, bs = junk ++ rest ∧ junk.length = n := by
  generalize hNone : ([] : List Bytes) = fs at hAccounts
  induction hAccounts with
  | rest bs => exact ⟨[], rfl, rfl⟩
  | junk stretch _ ih =>
      rcases ih hNone with ⟨junk, hBytes, hLength⟩
      refine ⟨stretch ++ junk, ?_, ?_⟩
      · rw [hBytes, List.append_assoc]
      · rw [List.length_append, hLength]
  | frame f _ _ => cases hNone

/- What is spent without a frame is taken off the front. -/
theorem Spends.takesOff
    (hSpends : Spends old new bs [] rest) :
    TakesOff old new bs none rest := by
  rcases hSpends.exists_junk with ⟨n, hCount, hAccounts⟩
  rcases hAccounts.exists_junk with ⟨junk, hBytes, rfl⟩
  refine ⟨junk, ?_, hCount⟩
  rw [Option.getD_none, List.append_nil]
  exact hBytes

/- More is thrown away in front. -/
theorem TakesOff.behind
    {frame : Option Bytes}
    (hFirst : TakesOff old mid bs none rest)
    (hNext : TakesOff mid new rest frame rest') :
    TakesOff old new bs frame rest' := by
  rcases hFirst with ⟨junk, hBytes, hCount⟩
  rcases hNext with ⟨junk', hBytes', hCount'⟩
  refine ⟨junk ++ junk', ?_, ?_⟩
  · rw [hBytes, hBytes', Option.getD_none,
      List.append_nil, List.append_assoc, List.append_assoc,
      List.append_assoc]
  · rw [hCount', hCount, List.length_append, Nat.add_assoc]

end Front

namespace FrameSearch

/- The frame that is open is cut off the front. -/
theorem takesOff_of_lookForStop_found
    {s after : FrameSearch}
    {opened rest : ByteQueue}
    {frame : Bytes}
    (hLook : s.lookForStop opened = .found frame rest after) :
    TakesOff s.stats after.stats opened.toList (some frame)
      rest.toList := by
  rcases lookForStop_of_found hLook with
    ⟨i, _, rfl, rfl, hStats⟩
  refine ⟨[], ?_, by rw [hStats]; rfl⟩
  rw [List.nil_append, Option.getD_some,
    ByteQueue.toList_drop, List.take_append_drop]

/- A frame is cut off behind what is thrown away. -/
theorem takesOff_of_look_found
    {s after : FrameSearch}
    {buffer rest : ByteQueue}
    {frame : Bytes}
    (hLook : s.look buffer = .found frame rest after) :
    TakesOff s.stats after.stats buffer.toList (some frame)
      rest.toList := by
  unfold look at hLook
  split at hLook
  · split at hLook
    · rename_i i hStart
      have hWithin := (Marker.findIn?_bounds hStart).2
      rw [← ByteQueue.length_toList] at hWithin
      have hJunk :
          TakesOff s.stats (s.discard i).stats buffer.toList
            none (buffer.drop i).toList :=
        (s.spends_discard (by omega)).takesOff
      have hFrame := takesOff_of_lookForStop_found hLook
      exact hJunk.behind hFrame
    · cases hLook
  · exact takesOff_of_lookForStop_found hLook

/-
  An extraction takes bytes off the front of the buffer, and
  nothing else, whatever is remembered.
-/
theorem takesOff_extract
    (s : FrameSearch)
    (buffer : ByteQueue) :
    let x := s.extract buffer
    TakesOff s.stats x.after.stats buffer.toList x.frame
      x.rest.toList := by
  fun_induction extract s buffer with
  | case1 s buffer frame rest after hLook =>
      exact takesOff_of_look_found hLook
  | case2 s buffer rest after hLook =>
      have hSpends := s.spends_look buffer
      rw [hLook] at hSpends
      exact hSpends.takesOff
  | case3 s buffer rest after hLook ih =>
      have hSpends := s.spends_look buffer
      rw [hLook] at hSpends
      exact hSpends.takesOff.behind ih

end FrameSearch

namespace BufferCodec

/-
  Whatever a codec remembers, and whatever its caller does
  to the buffer between the calls, no call of a run fails:
  every operation of an extraction is in range, and each
  further turn of its loop takes something off the buffer.
  What an extraction takes off stands at the front of the
  buffer: bytes that are counted as thrown away, and behind
  them the frame that is handed out.
-/
theorem stays_within_any_buffer :
    (∀ (c : BufferCodec) (buffer : Bytes)
        (es : List Event),
      Checked.run c buffer es = .ok (c.run buffer es)) ∧
    ∀ (s : FrameSearch) (buffer : ByteQueue),
      let x := s.extract buffer
      Checked.extract s buffer = .ok x ∧
        ∃ junk,
          buffer.toList =
              junk ++ x.frame.getD [] ++ x.rest.toList ∧
            x.after.stats.discardedBytes =
              s.stats.discardedBytes + junk.length := by
  refine ⟨Checked.run_eq, ?_⟩
  intro s buffer x
  exact
    ⟨Checked.extract_eq s buffer, s.takesOff_extract buffer⟩

/-
  The caller cuts an open frame short, so that the place to
  look on at is behind the end, and then adds so much that
  the frame is given up.
-/
example :
    let es : List Event :=
      [.append [0xFF, 0xD8, 0, 0], .decode, .truncate 1,
        .decode, .append [2, 0xFF, 0xD8, 3], .decode]
    let ds := (withLimit 4).run [] es
    ds.map (fun d => (d.buffer.length, d.codec.state)) =
      [(4, ⟨4, 0, ⟨0, 0, 0⟩⟩), (4, ⟨4, 3, ⟨0, 0, 0⟩⟩),
        (1, ⟨4, 3, ⟨0, 0, 0⟩⟩), (1, ⟨4, 2, ⟨0, 0, 0⟩⟩),
        (5, ⟨4, 2, ⟨0, 0, 0⟩⟩), (3, ⟨4, 2, ⟨0, 2, 1⟩⟩)] := by
  decide +kernel

end BufferCodec

end Reframe
