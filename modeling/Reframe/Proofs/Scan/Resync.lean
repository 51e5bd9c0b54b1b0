import Reframe.Proofs.Scan.Chunking

/-
  Where a scanner goes on after it dropped open frames for
  their size.

  The search goes on at the first start marker inside of the
  dropped frames from which on the bytes are within the
  limit.  Without one nothing is kept, not even a last byte
  that may be the first one of a marker.

  Main declarations:
    * `FrameSearch.isResumed_extract`
    * `Scanner.isResumed_after`
    * `FrameSearch.resumption`
    * `FrameSearch.leaves_extract`
    * `Scanner.resumes_at_start_within_limit`
-/

namespace Reframe

/- The bytes that stay in the buffer after a look. -/
def Look.rest : Look → ByteQueue
| .found _ rest _ => rest
| .waiting rest _ => rest
| .dropped rest _ => rest

namespace FrameSearch

------------------------------------------------------------
-- What Is Remembered At Any Size
------------------------------------------------------------

/- What the search for an end marker remembers is right. -/
theorem isResumed_lookForStop
    {s : FrameSearch}
    {buffer : ByteQueue}
    (hOpen : IsOpenUpTo buffer.toList s.resumeAt) :
    (s.lookForStop buffer).after.IsResumed
      (s.lookForStop buffer).rest.toList := by
  unfold lookForStop
  split
  · exact Or.inl rfl
  · rename_i hStop
    rw [Marker.findIn?_eq, hOpen.find?_eq] at hStop
    split
    · exact Or.inr
        (isOpenUpTo_of_find?_none hOpen.starts hStop)
    · exact Or.inl rfl

/- What a look remembers is right. -/
theorem isResumed_look
    {s : FrameSearch}
    {buffer : ByteQueue}
    (hResumed : s.IsResumed buffer.toList) :
    (s.look buffer).after.IsResumed
      (s.look buffer).rest.toList := by
  rcases look_cases hResumed with
    ⟨i, t, opened, _, _, hLook, hOpen, _, _⟩ |
    ⟨_, hZero, hLook⟩
  · rw [hLook]
    exact isResumed_lookForStop hOpen
  · rw [hLook]
    exact Or.inl hZero

/- What an extraction remembers is right. -/
theorem isResumed_extract
    {s : FrameSearch}
    {buffer : ByteQueue}
    (hResumed : s.IsResumed buffer.toList) :
    (s.extract buffer).after.IsResumed
      (s.extract buffer).rest.toList := by
  fun_induction extract s buffer with
  | case1 s buffer frame rest after hLook =>
      have hAfter := isResumed_look hResumed
      rw [hLook] at hAfter
      exact hAfter
  | case2 s buffer rest after hLook =>
      have hAfter := isResumed_look hResumed
      rw [hLook] at hAfter
      exact hAfter
  | case3 s buffer rest after hLook ih =>
      have hAfter := isResumed_look hResumed
      rw [hLook] at hAfter
      exact ih hAfter

end FrameSearch

namespace Scanner

/- What a scanner remembers is right after a pull. -/
theorem isResumed_next
    {s : Scanner}
    (hResumed : s.state.IsResumed s.buffer.toList) :
    s.next.2.state.IsResumed s.next.2.buffer.toList := by
  rcases s.next_eq with ⟨hBuffer, hState, _⟩
  rw [hBuffer, hState]
  exact FrameSearch.isResumed_extract hResumed

/- What a scanner remembers is right after pulls. -/
theorem Pulls.isResumed
    {s after : Scanner}
    {fs : List ScannedFrame}
    {isEnd : Bool}
    (hPulls : Pulls s fs after isEnd)
    (hResumed : s.state.IsResumed s.buffer.toList) :
    after.state.IsResumed after.buffer.toList := by
  induction hPulls with
  | stopped s => exact hResumed
  | ended hNext =>
      have hAfter := isResumed_next hResumed
      rw [hNext] at hAfter
      exact hAfter
  | pulled hNext hRest ih =>
      have hAfter := isResumed_next hResumed
      rw [hNext] at hAfter
      exact ih hAfter

/- What a scanner remembers is right after every run. -/
theorem isResumed_after
    (limit : Nat)
    (es : List Event) :
    let s := (withLimit limit).after es
    s.state.IsResumed s.buffer.toList := by
  intro s
  induction es using List.reverseRecOn with
  | nil => exact Or.inl rfl
  | append_singleton es e ih =>
      simp only [s, after_concat]
      by_cases hClear : e = .clear
      · subst hClear
        exact Or.inl rfl
      · rcases pulls_step _ hClear with ⟨_, hPulls, _⟩
        apply hPulls.isResumed
        simp only [push, ByteQueue.toList_append]
        exact ih.append e.chunk

end Scanner

namespace FrameSearch

------------------------------------------------------------
-- Where The Search Goes On
------------------------------------------------------------

/-
  What is left of bytes in which the frame at a place is too
  large: the bytes from the first start marker on behind it
  that leaves no more of them than the limit, or nothing.
-/
def resumption
    (limit : Nat)
    (bs : Bytes)
    (i : Nat) : Bytes :=
  match
    Marker.start.find? bs
      (max (i + Marker.size) (bs.length - limit)) with
  | none => []
  | some k => bs.drop k

section Resumed

variable {limit : Nat} {bs : Bytes} {i k : Nat}

/- The next start marker leaves no more than the limit. -/
theorem resumption_of_fits
    (hNext :
      Marker.start.find? bs (i + Marker.size) = some k)
    (hFits : bs.length - k ≤ limit) :
    resumption limit bs i = bs.drop k := by
  have hFound :
      Marker.start.find? bs
          (max (i + Marker.size) (bs.length - limit)) =
        some k := by
    rw [Marker.find?_eq_some_iff] at hNext ⊢
    rcases hNext with ⟨hBehind, hAt, hFirst⟩
    have hWithin := hAt.lt_length
    refine ⟨by omega, hAt, ?_⟩
    intro j hLow hHigh
    exact hFirst j (by omega) hHigh
  simp only [resumption, hFound]

/- The next start marker leaves too much as well. -/
theorem resumption_of_exceeds
    (hNext :
      Marker.start.find? bs (i + Marker.size) = some k)
    (hExceeds : limit < bs.length - k) :
    resumption limit bs i =
      resumption limit (bs.drop k) 0 := by
  rw [Marker.find?_eq_some_iff] at hNext
  rcases hNext with ⟨hBehind, hAt, hFirst⟩
  have hPlace :
      k + max (0 + Marker.size)
          ((bs.drop k).length - limit) =
        max (k + Marker.size) (bs.length - limit) := by
    rw [List.length_drop]
    omega
  -- Behind the marker itself there is none for two bytes.
  have hSame :
      Marker.start.find? bs
          (max (k + Marker.size) (bs.length - limit)) =
        Marker.start.find? bs
          (max (i + Marker.size) (bs.length - limit)) := by
    apply Marker.find?_resume (by omega)
    intro j hLow hHigh
    have hNot := Marker.not_isAt_start_succ hAt
    simp only [Marker.size] at hLow hHigh
    by_cases hOne : j = k + 1
    · rw [hOne]
      exact hNot
    · omega
  simp only [resumption, Marker.find?_drop, hPlace, hSame]
  cases hFound :
      Marker.start.find? bs
        (max (i + Marker.size) (bs.length - limit)) with
  | none => rfl
  | some j =>
      rw [Marker.find?_eq_some_iff] at hFound
      have hOrder : k ≤ j := by omega
      simp only [Option.map_some, List.drop_drop,
        Nat.add_sub_of_le hOrder]

/- No start marker is left. -/
theorem resumption_of_none
    (hNone :
      Marker.start.find? bs (i + Marker.size) = none) :
    resumption limit bs i = [] := by
  have hNowhere :
      Marker.start.find? bs
          (max (i + Marker.size) (bs.length - limit)) =
        none := by
    rw [Marker.find?_eq_none_iff] at hNone ⊢
    intro j hLow
    exact hNone j (by omega)
  simp only [resumption, hNowhere]

/-
  What is left starts at the first start marker that leaves
  no more than the limit, or there is no such marker.
-/
theorem resumption_cases
    (limit : Nat)
    (bs : Bytes)
    (i : Nat) :
    (∃ k, i + Marker.size ≤ k ∧ Marker.start.IsAt bs k ∧
      bs.length - k ≤ limit ∧
      (∀ j, i + Marker.size ≤ j → j < k →
        Marker.start.IsAt bs j → limit < bs.length - j) ∧
      resumption limit bs i = bs.drop k) ∨
    ((∀ j, i + Marker.size ≤ j →
        Marker.start.IsAt bs j → limit < bs.length - j) ∧
      resumption limit bs i = []) := by
  rcases Marker.start.find?_cases bs
      (max (i + Marker.size) (bs.length - limit)) with
    ⟨k, hFound, hLow, hAt, hFirst⟩ | ⟨hNone, hAll⟩
  · apply Or.inl
    refine
      ⟨k, by omega, hAt, by omega, ?_, by
        simp only [resumption, hFound]⟩
    intro j hBehind hBefore hHere
    by_contra hFits
    exact hFirst j (by omega) hBefore hHere
  · apply Or.inr
    refine ⟨?_, by simp only [resumption, hNone]⟩
    intro j hBehind hHere
    by_contra hFits
    exact hAll j (by omega) hHere

end Resumed

------------------------------------------------------------
-- Extractions Without A Frame
------------------------------------------------------------

/- A frame that is open is kept when it is small enough. -/
theorem lookForStop_of_waiting
    {s after : FrameSearch}
    {opened rest : ByteQueue}
    (hLook : s.lookForStop opened = .waiting rest after) :
    rest = opened ∧
      opened.size ≤ s.maxFrameSize ∧
      after.stats = s.stats := by
  unfold lookForStop at hLook
  split at hLook
  · cases hLook
  · split at hLook
    · rename_i hFits
      cases hLook
      exact ⟨rfl, hFits, rfl⟩
    · cases hLook

/-
  A frame that is open is dropped up to the next start
  marker when it is too large.
-/
theorem lookForStop_of_dropped
    {s after : FrameSearch}
    {opened rest : ByteQueue}
    (hLook : s.lookForStop opened = .dropped rest after) :
    rest = opened.drop (nextStart opened) ∧
      s.maxFrameSize < opened.size ∧
      after.maxFrameSize = s.maxFrameSize ∧
      after.resumeAt = 0 ∧
      after.stats =
        { (s.discard (nextStart opened)).stats with
          oversized := s.stats.oversized + 1 } := by
  unfold lookForStop at hLook
  split at hLook
  · cases hLook
  · split at hLook
    · cases hLook
    · rename_i hExceeds
      cases hLook
      exact
        ⟨rfl, Nat.lt_of_not_le hExceeds, rfl, rfl, rfl⟩

/-
  Dropping the frame that is open at a place leaves the
  bytes from the next start marker on, or none.
-/
theorem drop_nextStart_cases
    {opened : ByteQueue}
    {bs : Bytes}
    {i : Nat}
    (hBytes : opened.toList = bs.drop i) :
    let rest := opened.drop (nextStart opened)
    (∃ k, Marker.start.find? bs (i + Marker.size) = some k ∧
      rest.toList = bs.drop k ∧
      Marker.start.find? rest.toList 0 = some 0) ∨
    (Marker.start.find? bs (i + Marker.size) = none ∧
      rest.toList = []) := by
  intro rest
  have hRest :
      rest.toList = opened.toList.drop (nextStart opened) :=
    opened.toList_drop _
  cases hNext :
      Marker.start.find? bs (i + Marker.size) with
  | none =>
      apply Or.inr
      refine ⟨rfl, ?_⟩
      rw [hRest, nextStart, Marker.findIn?_eq, hBytes,
        Marker.find?_drop, hNext, ← hBytes]
      simp
  | some k =>
      apply Or.inl
      rw [Marker.find?_eq_some_iff] at hNext
      have hOrder : i ≤ k := by omega
      have hBytes' : rest.toList = bs.drop k := by
        rw [← Marker.find?_eq_some_iff] at hNext
        rw [hRest, nextStart, Marker.findIn?_eq, hBytes,
          Marker.find?_drop, hNext]
        simp [Nat.add_sub_of_le hOrder]
      refine ⟨k, rfl, hBytes', ?_⟩
      rw [hBytes', Marker.find?_eq_some_iff,
        Marker.isAt_drop_iff]
      refine ⟨Nat.le_refl 0, hNext.2.1, ?_⟩
      intro j _ hLess
      exact absurd hLess (Nat.not_lt_zero j)

/- What an extraction without a frame leaves of a buffer. -/
inductive Leaves
    (s : FrameSearch)
    (buffer : ByteQueue)
    (x : Extraction) : Prop where
/- No frame is open.  A last byte may be kept. -/
| junk
    (hStart : Marker.start.find? buffer.toList 0 = none)
    (hRest :
      x.rest.toList =
        buffer.toList.drop (buffer.size - kept buffer))
    (hSame :
      x.after.stats.oversized = s.stats.oversized)
/- The frame that is open is within the limit. -/
| waiting
    (i : Nat)
    (hStart : Marker.start.find? buffer.toList 0 = some i)
    (hFits : buffer.toList.length - i ≤ s.maxFrameSize)
    (hRest : x.rest.toList = buffer.toList.drop i)
    (hSame :
      x.after.stats.oversized = s.stats.oversized)
/- The frame that is open is dropped for its size. -/
| dropped
    (i : Nat)
    (hStart : Marker.start.find? buffer.toList 0 = some i)
    (hExceeds :
      s.maxFrameSize < buffer.toList.length - i)
    (hRest :
      x.rest.toList =
        resumption s.maxFrameSize buffer.toList i)
    (hMore :
      s.stats.oversized < x.after.stats.oversized)

/- A look that waits leaves the open frame or junk. -/
theorem leaves_of_waiting
    {s after : FrameSearch}
    {buffer rest : ByteQueue}
    (hResumed : s.IsResumed buffer.toList)
    (hLook : s.look buffer = .waiting rest after) :
    s.Leaves buffer ⟨none, rest, after⟩ := by
  rcases look_cases hResumed with
    ⟨i, t, opened, hStart, hBytes, hStop, _, hLimit,
      hCounts⟩ | ⟨hStart, _, hWaits⟩
  · rw [hLook, eq_comm] at hStop
    rcases lookForStop_of_waiting hStop with
      ⟨rfl, hFits, hStats⟩
    apply Leaves.waiting i hStart
    · rw [← hLimit, ← List.length_drop, ← hBytes,
        ByteQueue.length_toList]
      exact hFits
    · exact hBytes
    · rw [hStats, hCounts]
      rfl
  · rw [hLook] at hWaits
    cases hWaits
    exact .junk hStart (buffer.toList_drop _) rfl

/-
  A look that drops the open frame goes on behind it, and
  what that leaves is left in the end.
-/
theorem leaves_of_dropped
    {s after : FrameSearch}
    {buffer rest : ByteQueue}
    {x : Extraction}
    (hResumed : s.IsResumed buffer.toList)
    (hLook : s.look buffer = .dropped rest after)
    (hRest : after.resumeAt = 0 → after.Leaves rest x) :
    s.Leaves buffer x := by
  rcases look_cases hResumed with
    ⟨i, t, opened, hStart, hBytes, hStop, _, hLimit,
      hCounts⟩ | ⟨_, _, hWaits⟩
  · rw [hLook, eq_comm] at hStop
    rcases lookForStop_of_dropped hStop with
      ⟨rfl, hExceeds, hSame, hZero, hStats⟩
    have hMore :
        after.stats.oversized = s.stats.oversized + 1 := by
      rw [hStats, hCounts]
      rfl
    rw [← opened.length_toList, hBytes, List.length_drop,
      hLimit] at hExceeds
    rw [hLimit] at hSame
    have hAfter := hRest hZero
    rcases drop_nextStart_cases hBytes with
      ⟨k, hNext, hLeft, hFront⟩ | ⟨hNext, hLeft⟩
    · -- The rest starts with a marker of its own.
      cases hAfter with
      | junk hNowhere _ _ =>
          rw [hFront] at hNowhere
          cases hNowhere
      | waiting j hFirst hFits hEnd hSteps =>
          rw [hFront, Option.some.injEq] at hFirst
          subst hFirst
          rw [hLeft, hSame, List.length_drop] at hFits
          rw [hLeft] at hEnd
          apply Leaves.dropped i hStart hExceeds
          · rw [resumption_of_fits hNext hFits]
            exact hEnd
          · omega
      | dropped j hFirst hLarge hEnd hSteps =>
          rw [hFront, Option.some.injEq] at hFirst
          subst hFirst
          rw [hLeft, hSame, List.length_drop] at hLarge
          rw [hLeft, hSame] at hEnd
          apply Leaves.dropped i hStart hExceeds
          · rw [resumption_of_exceeds hNext hLarge]
            exact hEnd
          · omega
    · -- Nothing is left to look at.
      cases hAfter with
      | junk _ hEnd hSteps =>
          apply Leaves.dropped i hStart hExceeds
          · rw [resumption_of_none hNext, hEnd, hLeft,
              List.drop_nil]
          · omega
      | waiting j hFirst _ _ _ =>
          have hWithin := Marker.find?_bounds hFirst
          simp [hLeft, Marker.size] at hWithin
      | dropped j hFirst _ _ _ =>
          have hWithin := Marker.find?_bounds hFirst
          simp [hLeft, Marker.size] at hWithin
  · rw [hLook] at hWaits
    cases hWaits

/- What every extraction without a frame leaves is known. -/
theorem leaves_extract
    {s : FrameSearch}
    {buffer : ByteQueue}
    (hResumed : s.IsResumed buffer.toList)
    (hNone : (s.extract buffer).frame = none) :
    s.Leaves buffer (s.extract buffer) := by
  fun_induction extract s buffer with
  | case1 s buffer frame rest after hLook => cases hNone
  | case2 s buffer rest after hLook =>
      exact leaves_of_waiting hResumed hLook
  | case3 s buffer rest after hLook ih =>
      apply leaves_of_dropped hResumed hLook
      intro hZero
      exact ih (Or.inl hZero) hNone

end FrameSearch

namespace Scanner

------------------------------------------------------------
-- Any Run
------------------------------------------------------------

/-
  In any run, a pull that drops open frames for their size
  and returns nothing goes on at the first start marker
  inside of them from which on the bytes are within the
  limit.  If there is none, it keeps nothing.
-/
theorem resumes_at_start_within_limit
    (limit : Nat)
    (es : List Event)
    (hNone : ((withLimit limit).after es).next.1 = none)
    (hDrops :
      ((withLimit limit).after es).stats.oversized <
        ((withLimit limit).after
          es).next.2.stats.oversized) :
    let s := (withLimit limit).after es
    let bs := s.buffer.toList
    let left := s.next.2.buffer.toList
    ∃ i, Marker.start.find? bs 0 = some i ∧
      limit < bs.length - i ∧
      ((∃ k, i + Marker.size ≤ k ∧
          Marker.start.IsAt bs k ∧
          bs.length - k ≤ limit ∧
          (∀ j, i + Marker.size ≤ j → j < k →
            Marker.start.IsAt bs j →
              limit < bs.length - j) ∧
          left = bs.drop k) ∨
        (∀ j, i + Marker.size ≤ j →
            Marker.start.IsAt bs j →
              limit < bs.length - j) ∧
          left = []) := by
  intro s bs left
  have hLimit : s.state.maxFrameSize = limit := by
    rw [maxFrameSize_after]
    rfl
  rcases s.next_eq with ⟨hBuffer, hState, hData⟩
  rw [hNone, Option.map_none] at hData
  have hMore :
      s.state.stats.oversized <
        (s.state.extract s.buffer).after.stats.oversized := by
    rw [← hState]
    exact hDrops
  cases FrameSearch.leaves_extract
      (isResumed_after limit es) hData.symm with
  | junk _ _ hSame =>
      rw [hSame] at hMore
      exact absurd hMore (Nat.lt_irrefl _)
  | waiting _ _ _ _ hSame =>
      rw [hSame] at hMore
      exact absurd hMore (Nat.lt_irrefl _)
  | dropped i hStart hExceeds hRest _ =>
      rw [← hBuffer, hLimit] at hRest
      rw [hLimit] at hExceeds
      refine ⟨i, hStart, hExceeds, ?_⟩
      simp only [left, hRest]
      exact FrameSearch.resumption_cases limit bs i

/-
  Of three open frames in one chunk the first two are too
  large, and the third one is kept.
-/
theorem resumes_at_start_within_limit_cascade :
    let es : List Event :=
      [.push
        [0xFF, 0xD8, 1, 0xFF, 0xD8, 2, 0xFF, 0xD8, 3]]
    let s := (withLimit 4).after es
    s.next.1 = none ∧
      s.stats.oversized < s.next.2.stats.oversized ∧
      ∃ i, Marker.start.find? s.buffer.toList 0 = some i ∧
        4 < s.buffer.toList.length - i ∧
        ((∃ k, i + Marker.size ≤ k ∧
            Marker.start.IsAt s.buffer.toList k ∧
            s.buffer.toList.length - k ≤ 4 ∧
            (∀ j, i + Marker.size ≤ j → j < k →
              Marker.start.IsAt s.buffer.toList j →
                4 < s.buffer.toList.length - j) ∧
            s.next.2.buffer.toList =
              s.buffer.toList.drop k) ∨
          (∀ j, i + Marker.size ≤ j →
              Marker.start.IsAt s.buffer.toList j →
                4 < s.buffer.toList.length - j) ∧
            s.next.2.buffer.toList = []) := by
  intro es s
  have hNone : s.next.1 = none := by
    decide +kernel
  have hDrops :
      s.stats.oversized < s.next.2.stats.oversized := by
    decide +kernel
  exact
    ⟨hNone, hDrops,
      resumes_at_start_within_limit 4 es hNone hDrops⟩

/-
  A last byte that may be the first one of a start marker is
  lost together with the frame that is dropped in front.
-/
theorem not_keeps_split_start :
    ¬ ∀ (limit : Nat) (es : List Event),
        let s := (withLimit limit).after es
        let bs := s.buffer.toList
        let left := s.next.2.buffer.toList
        s.next.1 = none →
          s.stats.oversized < s.next.2.stats.oversized →
            ∃ i, Marker.start.find? bs 0 = some i ∧
              ((∃ k, i + Marker.size ≤ k ∧
                  Marker.start.IsAt bs k ∧
                  bs.length - k ≤ limit ∧
                  (∀ j, i + Marker.size ≤ j → j < k →
                    Marker.start.IsAt bs j →
                      limit < bs.length - j) ∧
                  left = bs.drop k) ∨
                (∀ j, i + Marker.size ≤ j →
                    Marker.start.IsAt bs j →
                      limit < bs.length - j) ∧
                  left =
                    if bs.getLast? =
                        some Marker.start.first then
                      [Marker.start.first]
                    else []) := by
  intro hAll
  have hLeft :
      ((withLimit 5).after
          [.push [0xFF, 0xD8, 0, 0, 0, 0xFF]]
        ).next.2.buffer.toList = [] := by
    decide +kernel
  rcases hAll 5 [.push [0xFF, 0xD8, 0, 0, 0, 0xFF]]
      (by decide +kernel) (by decide +kernel) with
    ⟨i, _, ⟨k, _, hAt, _, _, hKept⟩ | ⟨_, hKept⟩⟩
  · -- Nothing is left, but a whole marker would be.
    have hWithin := hAt.lt_length
    rw [hLeft, eq_comm, List.drop_eq_nil_iff] at hKept
    omega
  · rw [hLeft] at hKept
    revert hKept
    decide

end Scanner

end Reframe
