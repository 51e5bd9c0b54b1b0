import Mathlib.Data.List.Induction
import Reframe.Scan.Scanner
import Reframe.Proofs.Scan.Search

/-
  The frames that a scanner hands out do not depend on how
  the stream is cut into chunks, nor on when frames are
  pulled.

  At every moment the frames of the stream are those that
  were pulled and those of the buffer, whatever may still
  come behind.

  Main declarations:
    * `Scanner.Pulls`
    * `Scanner.Pulls.sequence_eq`
    * `Scanner.Reads`
    * `Scanner.Reads.of_pulls`
    * `Scanner.Reads.of_run`
    * `Scanner.pulled_eq_frames_of_stream`
-/

namespace Reframe

namespace Scanner

------------------------------------------------------------
-- Pulls
------------------------------------------------------------

/-
  Some frames are pulled one after another.  The last flag
  says whether a pull returned nothing in the end.
-/
inductive Pulls :
    Scanner → List ScannedFrame → Scanner → Bool → Prop where
| stopped (s : Scanner) :
    Pulls s [] s false
| ended {s after : Scanner}
    (hNext : s.next = (none, after)) :
    Pulls s [] after true
| pulled {s t after : Scanner}
    {f : ScannedFrame}
    {fs : List ScannedFrame}
    {isEnd : Bool}
    (hNext : s.next = (some f, t))
    (hRest : Pulls t fs after isEnd) :
    Pulls s (f :: fs) after isEnd

/- Frames are pulled until a pull returns nothing. -/
theorem pulls_drain
    (s : Scanner) :
    Pulls s s.drain.1 s.drain.2 true := by
  fun_induction drain s with
  | case1 s after hNext => exact .ended hNext
  | case2 s f after hNext r ih => exact .pulled hNext ih

/-
  Frames are pulled up to a number of them.  When there are
  fewer, a pull returned nothing.
-/
theorem pulls_take
    (s : Scanner)
    (n : Nat) :
    ∃ isEnd, Pulls s (s.take n).1 (s.take n).2 isEnd ∧
      ((s.take n).1.length < n → isEnd = true) := by
  fun_induction take s n with
  | case1 s =>
      refine ⟨false, .stopped s, ?_⟩
      intro hLess
      simp at hLess
  | case2 s n after hNext =>
      exact ⟨true, .ended hNext, fun _ => rfl⟩
  | case3 s n f after hNext r ih =>
      rcases ih with ⟨isEnd, hPulls, hEnd⟩
      refine ⟨isEnd, .pulled hNext hPulls, ?_⟩
      intro hLess
      apply hEnd
      exact Nat.lt_of_succ_lt_succ hLess

/- What a pull does to the scanner. -/
theorem next_eq
    (s : Scanner) :
    (s.next.2.buffer = (s.state.extract s.buffer).rest ∧
      s.next.2.state = (s.state.extract s.buffer).after ∧
      s.next.1.map ScannedFrame.data =
        (s.state.extract s.buffer).frame) := by
  unfold next
  cases hFrame : (s.state.extract s.buffer).frame with
  | none => simp [hFrame]
  | some data => simp [hFrame]

/- Pulls do not change the limit. -/
theorem Pulls.maxFrameSize_eq
    {s after : Scanner}
    {fs : List ScannedFrame}
    {isEnd : Bool}
    (hPulls : Pulls s fs after isEnd) :
    after.state.maxFrameSize = s.state.maxFrameSize := by
  induction hPulls with
  | stopped s => rfl
  | @ended s after hNext =>
      have hState := s.next_eq.2.1
      rw [hNext] at hState
      rw [hState, FrameSearch.maxFrameSize_extract]
  | @pulled s t after f fs isEnd hNext hRest ih =>
      have hState := s.next_eq.2.1
      rw [hNext] at hState
      rw [ih, hState, FrameSearch.maxFrameSize_extract]

/- The number of the frame that a pull hands out. -/
theorem sequence_of_next
    {s after : Scanner}
    {f : ScannedFrame}
    (hNext : s.next = (some f, after)) :
    f.sequence = s.nextSequence ∧
      after.nextSequence = s.nextSequence + 1 := by
  unfold next at hNext
  cases hFrame : (s.state.extract s.buffer).frame with
  | none => simp [hFrame] at hNext
  | some data =>
      simp only [hFrame, Prod.mk.injEq,
        Option.some.injEq] at hNext
      rw [← hNext.1, ← hNext.2]
      exact ⟨rfl, rfl⟩

/- A pull that returns nothing counts nothing. -/
theorem nextSequence_of_next_none
    {s after : Scanner}
    (hNext : s.next = (none, after)) :
    after.nextSequence = s.nextSequence := by
  unfold next at hNext
  cases hFrame : (s.state.extract s.buffer).frame with
  | none =>
      simp only [hFrame, Prod.mk.injEq, true_and] at hNext
      rw [← hNext]
  | some data => simp [hFrame] at hNext

/- Frames that are pulled are numbered one after another. -/
theorem Pulls.sequence_eq
    {s after : Scanner}
    {fs : List ScannedFrame}
    {isEnd : Bool}
    (hPulls : Pulls s fs after isEnd) :
    fs.map ScannedFrame.sequence =
        List.range' s.nextSequence fs.length ∧
      after.nextSequence = s.nextSequence + fs.length := by
  induction hPulls with
  | stopped s => exact ⟨rfl, rfl⟩
  | ended hNext =>
      exact ⟨rfl, nextSequence_of_next_none hNext⟩
  | pulled hNext hRest ih =>
      rcases sequence_of_next hNext with ⟨hHere, hAfter⟩
      rcases ih with ⟨hSequences, hLast⟩
      rw [hAfter] at hSequences hLast
      refine ⟨?_, ?_⟩
      · rw [List.map_cons, hSequences, hHere,
          List.length_cons, List.range'_succ]
      · rw [hLast, List.length_cons]
        omega

------------------------------------------------------------
-- Events
------------------------------------------------------------

/- The bytes that an event adds to the stream. -/
def Event.chunk : Event → Bytes
| .feed chunk _ => chunk
| .push chunk => chunk
| .next => []
| .clear => []

/-
  A pull of the event returned nothing, when it handed these
  frames out.
-/
def Event.SawNone
    (e : Event)
    (fs : List ScannedFrame) : Prop :=
  match e with
  | .feed _ none => True
  | .feed _ (some n) => fs.length < n
  | .push _ => False
  | .next => fs = []
  | .clear => False

/- An event adds its bytes and then pulls frames. -/
theorem pulls_step
    (s : Scanner)
    {e : Event}
    (hClear : e ≠ .clear) :
    ∃ isEnd,
      Pulls (s.push e.chunk) (s.step e).1 (s.step e).2
          isEnd ∧
        (e.SawNone (s.step e).1 → isEnd = true) := by
  cases e with
  | feed chunk most =>
      cases most with
      | none =>
          exact ⟨true, (s.push chunk).pulls_drain,
            fun _ => rfl⟩
      | some n => exact (s.push chunk).pulls_take n
  | push chunk =>
      exact ⟨false, .stopped (s.push chunk), False.elim⟩
  | next =>
      cases hNext : s.next with
      | mk result after =>
          cases result with
          | none =>
              simp only [step, hNext]
              exact ⟨true, .ended hNext, fun _ => rfl⟩
          | some f =>
              simp only [step, hNext]
              refine
                ⟨false, .pulled hNext (.stopped after), ?_⟩
              intro hNone
              cases hNone
  | clear => exact absurd rfl hClear

/- No event changes the limit. -/
theorem maxFrameSize_step
    (s : Scanner)
    (e : Event) :
    (s.step e).2.state.maxFrameSize =
      s.state.maxFrameSize := by
  by_cases hClear : e = .clear
  · subst hClear
    rfl
  · rcases s.pulls_step hClear with ⟨isEnd, hPulls, _⟩
    exact hPulls.maxFrameSize_eq

/- The frames of an event are numbered on. -/
theorem sequence_step
    (s : Scanner)
    (e : Event) :
    (s.step e).1.map ScannedFrame.sequence =
        List.range' s.nextSequence (s.step e).1.length ∧
      (s.step e).2.nextSequence =
        s.nextSequence + (s.step e).1.length := by
  by_cases hClear : e = .clear
  · subst hClear
    exact ⟨rfl, rfl⟩
  · rcases s.pulls_step hClear with ⟨isEnd, hPulls, _⟩
    exact hPulls.sequence_eq

------------------------------------------------------------
-- Runs
------------------------------------------------------------

/- The scanner after all events. -/
def after
    (s : Scanner)
    (es : List Event) : Scanner :=
  es.foldl (fun s e => (s.step e).2) s

/- The frames that are pulled in a run. -/
def pulled
    (s : Scanner)
    (es : List Event) : List ScannedFrame :=
  (s.run es).flatMap Prod.fst

/- The bytes that a run adds to the stream. -/
def stream
    (es : List Event) : Bytes :=
  es.flatMap Event.chunk

/- The frames of two parts of a run. -/
theorem pulled_append
    (s : Scanner)
    (es es' : List Event) :
    s.pulled (es ++ es') =
      s.pulled es ++ (s.after es).pulled es' := by
  induction es generalizing s with
  | nil => rfl
  | cons e es ih =>
      have hRest := ih (s.step e).2
      simp only [pulled] at hRest
      simp only [pulled, List.cons_append, run,
        List.flatMap_cons, hRest, List.append_assoc]
      rfl

/- The frames of a run and one more event. -/
theorem pulled_concat
    (s : Scanner)
    (es : List Event)
    (e : Event) :
    s.pulled (es ++ [e]) =
      s.pulled es ++ ((s.after es).step e).1 := by
  rw [pulled_append]
  simp [pulled, run]

/- The scanner after a run and one more event. -/
theorem after_concat
    (s : Scanner)
    (es : List Event)
    (e : Event) :
    s.after (es ++ [e]) = ((s.after es).step e).2 := by
  simp [after]

/- The stream of a run and one more event. -/
theorem stream_concat
    (es : List Event)
    (e : Event) :
    stream (es ++ [e]) = stream es ++ e.chunk := by
  simp [stream]

/- No run changes the limit. -/
theorem maxFrameSize_after
    (s : Scanner)
    (es : List Event) :
    (s.after es).state.maxFrameSize =
      s.state.maxFrameSize := by
  induction es using List.reverseRecOn with
  | nil => rfl
  | append_singleton es e ih =>
      rw [after_concat, maxFrameSize_step, ih]

/- The frames of a run are numbered one after another. -/
theorem sequence_pulled
    (s : Scanner)
    (es : List Event) :
    (s.pulled es).map ScannedFrame.sequence =
      List.range' s.nextSequence (s.pulled es).length := by
  induction es generalizing s with
  | nil => rfl
  | cons e es ih =>
      have hHere := s.sequence_step e
      have hRest := ih (s.step e).2
      have hPulled :
          s.pulled (e :: es) =
            (s.step e).1 ++ (s.step e).2.pulled es := by
        simp [pulled, run]
      rw [hPulled, List.map_append, hHere.1, hRest,
        hHere.2, List.length_append, List.range'_append_1]

------------------------------------------------------------
-- What Was Read Of The Stream
------------------------------------------------------------

/-
  These bytes of the stream were taken in and these frames
  of it were pulled, and the rest is in the buffer.
-/
structure Reads
    (s : Scanner)
    (bytes : Bytes)
    (read : List Bytes) : Prop where
  resumed : s.state.IsResumed s.buffer.toList
  yields : Marked.Yields bytes read s.buffer.toList

/- A scanner that was cleared has read nothing. -/
theorem reads_of_empty
    {s : Scanner}
    (hBuffer : s.buffer.toList = [])
    (hResume : s.state.resumeAt = 0) :
    s.Reads [] [] := by
  constructor
  · exact Or.inl hResume
  · rw [hBuffer]
    exact Marked.yields_refl []

/- Bytes that are taken in are in the buffer. -/
theorem Reads.push
    {s : Scanner}
    {bytes : Bytes}
    {read : List Bytes}
    (hReads : s.Reads bytes read)
    (chunk : Bytes) :
    (s.push chunk).Reads (bytes ++ chunk) read := by
  constructor
  · simp only [Scanner.push, ByteQueue.toList_append]
    exact hReads.resumed.append chunk
  · simp only [Scanner.push, ByteQueue.toList_append]
    exact hReads.yields.append chunk

/-
  A pull reads the next frame of the stream.  When it
  returns nothing, all frames were read.
-/
theorem Reads.next
    {s : Scanner}
    {bytes : Bytes}
    {read : List Bytes}
    (hReads : s.Reads bytes read)
    (hFits :
      (Marked.unfinished bytes).length ≤
        s.state.maxFrameSize) :
    s.next.2.Reads bytes
        (read ++
          (s.next.1.map ScannedFrame.data).toList) ∧
      (s.next.1 = none → Marked.frames bytes = read) := by
  rw [hReads.yields.unfinished_eq_rest] at hFits
  rcases s.next_eq with ⟨hBuffer, hState, hData⟩
  rcases FrameSearch.extract_cases hReads.resumed hFits with
    ⟨hResumed, hYields, hNone⟩
  refine ⟨?_, ?_⟩
  · constructor
    · rw [hState, hBuffer]
      exact hResumed
    · rw [hBuffer, hData]
      exact hReads.yields.trans hYields
  · intro hEnd
    rw [hEnd, Option.map_none] at hData
    rw [hReads.yields.frames_eq_rest, hNone hData.symm,
      List.append_nil]

/- Pulls read the frames that they hand out. -/
theorem Reads.of_pulls
    {s after : Scanner}
    {fs : List ScannedFrame}
    {isEnd : Bool}
    (hPulls : Pulls s fs after isEnd)
    {bytes : Bytes}
    {read : List Bytes}
    (hReads : s.Reads bytes read)
    (hFits :
      (Marked.unfinished bytes).length ≤
        s.state.maxFrameSize) :
    after.Reads bytes
        (read ++ fs.map ScannedFrame.data) ∧
      (isEnd = true →
        Marked.frames bytes =
          read ++ fs.map ScannedFrame.data) := by
  induction hPulls generalizing read with
  | stopped s =>
      rw [List.map_nil, List.append_nil]
      refine ⟨hReads, ?_⟩
      intro hEnd
      cases hEnd
  | ended hNext =>
      have hPull := hReads.next hFits
      rw [hNext] at hPull
      rw [List.map_nil, List.append_nil]
      refine ⟨?_, fun _ => hPull.2 rfl⟩
      simpa using hPull.1
  | @pulled s t after f fs isEnd hNext hRest ih =>
      have hPull := (hReads.next hFits).1
      have hLimit :
          t.state.maxFrameSize = s.state.maxFrameSize := by
        have hOne := Pulls.pulled hNext (.stopped t)
        exact hOne.maxFrameSize_eq
      rw [hNext] at hPull
      rw [← hLimit] at hFits
      have hAll := ih hPull hFits
      rw [List.append_assoc] at hAll
      exact hAll

/-
  An event reads the frames that it hands out.  When a pull
  of it returns nothing, all frames were read.
-/
theorem Reads.step
    {s : Scanner}
    {bytes : Bytes}
    {read : List Bytes}
    (hReads : s.Reads bytes read)
    {e : Event}
    (hClear : e ≠ .clear)
    (hFits :
      (Marked.unfinished (bytes ++ e.chunk)).length ≤
        s.state.maxFrameSize) :
    let fs := (s.step e).1
    (s.step e).2.Reads (bytes ++ e.chunk)
        (read ++ fs.map ScannedFrame.data) ∧
      (e.SawNone fs →
        Marked.frames (bytes ++ e.chunk) =
          read ++ fs.map ScannedFrame.data) := by
  intro fs
  rcases s.pulls_step hClear with ⟨isEnd, hPulls, hEnd⟩
  rcases Reads.of_pulls hPulls (hReads.push e.chunk) hFits
    with ⟨hAfter, hAll⟩
  exact ⟨hAfter, fun hNone => hAll (hEnd hNone)⟩

/- A run reads the frames that it hands out. -/
theorem Reads.of_run
    {s : Scanner}
    (hReads : s.Reads [] [])
    {es : List Event}
    (hClear : .clear ∉ es)
    (hFits :
      ∀ seen, seen <+: es →
        (Marked.unfinished (stream seen)).length ≤
          s.state.maxFrameSize) :
    (s.after es).Reads (stream es)
      ((s.pulled es).map ScannedFrame.data) := by
  induction es using List.reverseRecOn with
  | nil => exact hReads
  | append_singleton es e ih =>
      rw [List.mem_append, not_or, List.mem_singleton]
        at hClear
      have hBefore :=
        ih hClear.1
          (fun seen hSeen =>
            hFits seen
              (hSeen.trans (List.prefix_append _ _)))
      have hLast := hFits (es ++ [e]) (List.prefix_refl _)
      rw [stream_concat, ← s.maxFrameSize_after es] at hLast
      have hStep :=
        (hBefore.step (Ne.symm hClear.2) hLast).1
      rw [after_concat, stream_concat, pulled_concat,
        List.map_append]
      exact hStep

------------------------------------------------------------
-- Any Chunks And Any Pulls
------------------------------------------------------------

/-
  In any run, the frames that are pulled since the scanner
  was last cleared are a prefix of the frames of the bytes
  since then, and all of them when the last event saw a pull
  return nothing.  This holds as long as what is open at the
  end of the bytes stays within the limit.  The frames of
  the whole run are numbered from zero.
-/
theorem pulled_eq_frames_of_stream
    (limit : Nat)
    (before since : List Event)
    (hBefore :
      before = [] ∨ before.getLast? = some .clear)
    (hClear : .clear ∉ since)
    (hFits :
      ∀ seen, seen <+: since →
        (Marked.unfinished (stream seen)).length ≤ limit) :
    let s := (withLimit limit).after before
    let all := (withLimit limit).pulled (before ++ since)
    (s.pulled since).map ScannedFrame.data <+:
        Marked.frames (stream since) ∧
      (∀ es e, since = es ++ [e] →
        e.SawNone ((s.after es).step e).1 →
          (s.pulled since).map ScannedFrame.data =
            Marked.frames (stream since)) ∧
      all.map ScannedFrame.sequence =
        List.range all.length := by
  intro s all
  have hLimit : s.state.maxFrameSize = limit := by
    rw [maxFrameSize_after]
    rfl
  have hEmpty : s.Reads [] [] := by
    rcases hBefore with hNil | hLast
    · simp only [s, hNil]
      exact reads_of_empty rfl rfl
    · rcases List.getLast?_eq_some_iff.mp hLast with
        ⟨es, rfl⟩
      simp only [s, after_concat]
      exact reads_of_empty rfl rfl
  rw [← hLimit] at hFits
  refine ⟨?_, ?_, ?_⟩
  · have hReads := hEmpty.of_run hClear hFits
    rw [hReads.yields.frames_eq_rest]
    exact List.prefix_append _ _
  · rintro es e rfl hNone
    rw [List.mem_append, not_or, List.mem_singleton]
      at hClear
    have hReads :=
      hEmpty.of_run hClear.1
        (fun seen hSeen =>
          hFits seen (hSeen.trans (List.prefix_append _ _)))
    have hLast := hFits (es ++ [e]) (List.prefix_refl _)
    rw [stream_concat, ← s.maxFrameSize_after es] at hLast
    have hAll :=
      (hReads.step (Ne.symm hClear.2) hLast).2 hNone
    rw [pulled_concat, stream_concat, List.map_append, hAll]
  · rw [sequence_pulled, List.range_eq_range']
    rfl

/-
  A frame is pulled and an open one is cleared away.  Then
  two frames arrive behind junk, cut inside of their markers
  and pulled by and by.
-/
theorem pulled_eq_frames_of_stream_after_clear :
    let before : List Event :=
      [.feed [0xFF, 0xD8, 1, 0xFF, 0xD9, 0xFF, 0xD8] none,
        .clear]
    let since : List Event :=
      [.feed [7, 0xFF] none, .push [0xD8, 2, 0xFF], .next,
        .feed [0xD9, 0xFF, 0xD8, 3, 0xFF, 0xD9] (some 1),
        .next, .next]
    let s := (withLimit 11).after before
    let all := (withLimit 11).pulled (before ++ since)
    Marked.frames (stream since) =
        [[0xFF, 0xD8, 2, 0xFF, 0xD9],
          [0xFF, 0xD8, 3, 0xFF, 0xD9]] ∧
      (s.pulled since).map ScannedFrame.data <+:
        Marked.frames (stream since) ∧
      (∀ es e, since = es ++ [e] →
        e.SawNone ((s.after es).step e).1 →
          (s.pulled since).map ScannedFrame.data =
            Marked.frames (stream since)) ∧
      all.map ScannedFrame.sequence =
        List.range all.length := by
  intro before since
  have hFits :
      ∀ seen, seen <+: since →
        (Marked.unfinished (stream seen)).length ≤ 11 := by
    rintro seen ⟨later, hSplit⟩
    have hOpen :=
      Marked.length_unfinished_le (stream seen)
    have hAll : (stream since).length = 11 := by
      rfl
    rw [← hSplit, stream, List.flatMap_append,
      List.length_append] at hAll
    rw [stream] at hOpen ⊢
    omega
  exact
    ⟨by decide +kernel,
      pulled_eq_frames_of_stream 11 before since
        (Or.inr rfl) (by decide) hFits⟩

end Scanner

end Reframe
