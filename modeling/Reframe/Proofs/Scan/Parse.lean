import Reframe.Scan.Parse
import Reframe.Proofs.Scan.Marker

/-
  How the frames of a byte string are taken off its front,
  and how they stay the same when more bytes come behind.

  Main declarations:
    * `Marked.first?_drop`
    * `Marked.first?_append`
    * `Marked.first?_of_open`
    * `Marked.Yields`
    * `Marked.yields_of_first?`
    * `Marked.yields_drop`
    * `Marked.yields_remainder`
    * `Marked.Fits`
    * `Marked.Fits.of_append`
-/

namespace Reframe

namespace Marked

------------------------------------------------------------
-- One Frame At A Time
------------------------------------------------------------

/- The first frame is followed by those behind it. -/
theorem frames_of_first?
    {bs frame rest : Bytes}
    (hFirst : first? bs = some (frame, rest)) :
    frames bs = frame :: frames rest := by
  rw [frames]
  split
  · rename_i hNone
    rw [hNone] at hFirst
    cases hFirst
  · rename_i frame' rest' hSome
    rw [hSome, Option.some.injEq, Prod.mk.injEq] at hFirst
    rw [hFirst.1, hFirst.2]

/- Without a first frame there is none. -/
theorem frames_of_first?_none
    {bs : Bytes}
    (hFirst : first? bs = none) :
    frames bs = [] := by
  rw [frames]
  split
  · rfl
  · rename_i hSome
    rw [hSome] at hFirst
    cases hFirst

/- There is no frame in no bytes. -/
@[simp]
theorem frames_nil : frames [] = [] :=
  frames_of_first?_none rfl

/- What is open at the end is so behind the first frame. -/
theorem unfinished_of_first?
    {bs frame rest : Bytes}
    (hFirst : first? bs = some (frame, rest)) :
    unfinished bs = unfinished rest := by
  rw [unfinished, remainder]
  split
  · rename_i hNone
    rw [hNone] at hFirst
    cases hFirst
  · rename_i frame' rest' hSome
    rw [hSome, Option.some.injEq, Prod.mk.injEq] at hFirst
    rw [hFirst.2, unfinished]

/- Without a first frame, what was started is open. -/
theorem unfinished_of_first?_none
    {bs : Bytes}
    (hFirst : first? bs = none) :
    unfinished bs = (fromStart? bs).getD [] := by
  rw [unfinished, remainder]
  split
  · rfl
  · rename_i hSome
    rw [hSome] at hFirst
    cases hFirst

/- No more is open than there is. -/
theorem length_unfinished_le
    (bs : Bytes) :
    (unfinished bs).length ≤ bs.length := by
  fun_induction frames bs with
  | case1 bs hFirst =>
      rw [unfinished_of_first?_none hFirst, fromStart?]
      cases Marker.start.find? bs 0 with
      | none => exact Nat.zero_le _
      | some i => simp
  | case2 bs frame rest hFirst ih =>
      have hLess := length_lt_of_first? hFirst
      rw [unfinished_of_first? hFirst]
      omega

------------------------------------------------------------
-- Junk In Front
------------------------------------------------------------

/- Junk in front does not change where a frame starts. -/
theorem fromStart?_drop
    {bs : Bytes}
    {n : Nat}
    (hJunk : ∀ k < n, ¬ Marker.start.IsAt bs k) :
    fromStart? (bs.drop n) = fromStart? bs := by
  have hResume :
      Marker.start.find? bs n = Marker.start.find? bs 0 :=
    Marker.find?_resume (Nat.zero_le n)
      (fun k _ hk => hJunk k hk)
  rw [fromStart?, fromStart?, Marker.find?_drop,
    Nat.add_zero, hResume, Option.map_map]
  apply Option.map_congr
  intro j hFound
  rw [← hResume, Marker.find?_eq_some_iff] at hFound
  rw [Function.comp_apply, List.drop_drop,
    Nat.add_sub_of_le hFound.1]

/- Junk in front does not change the first frame. -/
theorem first?_drop
    {bs : Bytes}
    {n : Nat}
    (hJunk : ∀ k < n, ¬ Marker.start.IsAt bs k) :
    first? (bs.drop n) = first? bs := by
  rw [first?, first?, fromStart?_drop hJunk]

/- Junk in front does not change what is open. -/
theorem unfinished_drop
    {bs : Bytes}
    {n : Nat}
    (hJunk : ∀ k < n, ¬ Marker.start.IsAt bs k) :
    unfinished (bs.drop n) = unfinished bs := by
  have hSame := first?_drop hJunk
  cases hFirst : first? bs with
  | none =>
      rw [unfinished_of_first?_none hFirst,
        unfinished_of_first?_none (hSame.trans hFirst),
        fromStart?_drop hJunk]
  | some p =>
      rw [unfinished_of_first? hFirst,
        unfinished_of_first? (hSame.trans hFirst)]

/- Junk in front does not change the frames. -/
theorem frames_drop
    {bs : Bytes}
    {n : Nat}
    (hJunk : ∀ k < n, ¬ Marker.start.IsAt bs k) :
    frames (bs.drop n) = frames bs := by
  have hSame := first?_drop hJunk
  cases hFirst : first? bs with
  | none =>
      rw [frames_of_first?_none hFirst,
        frames_of_first?_none (hSame.trans hFirst)]
  | some p =>
      rw [frames_of_first? hFirst,
        frames_of_first? (hSame.trans hFirst)]

------------------------------------------------------------
-- A Frame At The Front
------------------------------------------------------------

/- Bytes with a start marker in front start there. -/
theorem fromStart?_of_open
    {bs : Bytes}
    (hOpen : Marker.start.IsAt bs 0) :
    fromStart? bs = some bs := by
  have hFound : Marker.start.find? bs 0 = some 0 := by
    rw [Marker.find?_eq_some_iff]
    refine ⟨Nat.le_refl 0, hOpen, ?_⟩
    intro k _ hk
    omega
  rw [fromStart?, hFound]
  rfl

/- The frame in front runs up to the first end marker. -/
theorem first?_of_open
    {bs : Bytes}
    (hOpen : Marker.start.IsAt bs 0) :
    first? bs =
      (Marker.stop.find? bs Marker.size).map
        (fun j =>
          (bs.take (j + Marker.size),
            bs.drop (j + Marker.size))) := by
  rw [first?, fromStart?_of_open hOpen]
  cases hFound : Marker.stop.find? bs Marker.size with
  | none => simp only [hFound, Option.map_none]
  | some j => simp only [hFound, Option.map_some]

/- The first frame stays when more bytes come behind. -/
theorem first?_append
    {bs frame rest : Bytes}
    (hFirst : first? bs = some (frame, rest))
    (more : Bytes) :
    first? (bs ++ more) = some (frame, rest ++ more) := by
  unfold first? fromStart? at hFirst ⊢
  cases hStart : Marker.start.find? bs 0 with
  | none => simp [hStart] at hFirst
  | some i =>
      rw [hStart, Option.map_some] at hFirst
      rw [Marker.find?_append hStart more, Option.map_some]
      rw [Marker.find?_eq_some_iff] at hStart
      have hWithin := hStart.2.1.lt_length
      cases hStop :
          Marker.stop.find? (bs.drop i) Marker.size with
      | none => simp [hStop] at hFirst
      | some j =>
          have hLength := (Marker.find?_bounds hStop).2
          have hGrown :
              (bs ++ more).drop i = bs.drop i ++ more :=
            List.drop_append_of_le_length (by omega)
          simp only [hStop, Option.some.injEq,
            Prod.mk.injEq] at hFirst
          simp only [hGrown,
            Marker.find?_append hStop more,
            Option.some.injEq, Prod.mk.injEq]
          rw [List.take_append_of_le_length hLength,
            List.drop_append_of_le_length hLength]
          exact ⟨hFirst.1, by rw [hFirst.2]⟩

------------------------------------------------------------
-- Reading From The Front
------------------------------------------------------------

/-
  Reading bytes from the front yields frames and leaves
  bytes behind: whatever comes behind, the frames of all are
  those that were read and those of what was left, and the
  same is open at the end.
-/
structure Yields
    (bs : Bytes)
    (read : List Bytes)
    (rest : Bytes) : Prop where
  frames_eq :
    ∀ more,
      frames (bs ++ more) = read ++ frames (rest ++ more)
  unfinished_eq :
    ∀ more,
      unfinished (bs ++ more) = unfinished (rest ++ more)

/- The frames when nothing more comes behind. -/
theorem Yields.frames_eq_rest
    {bs rest : Bytes}
    {read : List Bytes}
    (hYields : Yields bs read rest) :
    frames bs = read ++ frames rest := by
  simpa using hYields.frames_eq []

/- What is open when nothing more comes behind. -/
theorem Yields.unfinished_eq_rest
    {bs rest : Bytes}
    {read : List Bytes}
    (hYields : Yields bs read rest) :
    unfinished bs = unfinished rest := by
  simpa using hYields.unfinished_eq []

/- Nothing is read. -/
theorem yields_refl
    (bs : Bytes) : Yields bs [] bs := by
  constructor
  · intro more
    rfl
  · intro more
    rfl

/- Reading on. -/
theorem Yields.trans
    {bs rest rest' : Bytes}
    {read read' : List Bytes}
    (hFirst : Yields bs read rest)
    (hNext : Yields rest read' rest') :
    Yields bs (read ++ read') rest' := by
  constructor
  · intro more
    rw [hFirst.frames_eq, hNext.frames_eq,
      List.append_assoc]
  · intro more
    rw [hFirst.unfinished_eq, hNext.unfinished_eq]

/- More bytes stay behind. -/
theorem Yields.append
    {bs rest : Bytes}
    {read : List Bytes}
    (hYields : Yields bs read rest)
    (chunk : Bytes) :
    Yields (bs ++ chunk) read (rest ++ chunk) := by
  constructor
  · intro more
    rw [List.append_assoc, List.append_assoc,
      hYields.frames_eq]
  · intro more
    rw [List.append_assoc, List.append_assoc,
      hYields.unfinished_eq]

/- The first frame is read. -/
theorem yields_of_first?
    {bs frame rest : Bytes}
    (hFirst : first? bs = some (frame, rest)) :
    Yields bs [frame] rest := by
  constructor
  · intro more
    exact frames_of_first? (first?_append hFirst more)
  · intro more
    exact unfinished_of_first? (first?_append hFirst more)

/- Junk is dropped, if it stays junk. -/
theorem yields_drop
    {bs : Bytes}
    {n : Nat}
    (hLength : n ≤ bs.length)
    (hJunk :
      ∀ more, ∀ k < n, ¬ Marker.start.IsAt (bs ++ more) k) :
    Yields bs [] (bs.drop n) := by
  constructor
  · intro more
    rw [← List.drop_append_of_le_length hLength,
      frames_drop (hJunk more), List.nil_append]
  · intro more
    rw [← List.drop_append_of_le_length hLength,
      unfinished_drop (hJunk more)]

------------------------------------------------------------
-- Reading All Frames
------------------------------------------------------------

/- What is behind all frames is so behind the first one. -/
theorem remainder_of_first?
    {bs frame rest : Bytes}
    (hFirst : first? bs = some (frame, rest)) :
    remainder bs = remainder rest := by
  rw [remainder]
  split
  · rename_i hNone
    rw [hNone] at hFirst
    cases hFirst
  · rename_i frame' rest' hSome
    rw [hSome, Option.some.injEq, Prod.mk.injEq] at hFirst
    rw [hFirst.2]

/- Without a first frame, all bytes are behind all frames. -/
theorem remainder_of_first?_none
    {bs : Bytes}
    (hFirst : first? bs = none) :
    remainder bs = bs := by
  rw [remainder]
  split
  · rfl
  · rename_i hSome
    rw [hSome] at hFirst
    cases hFirst

/- Bytes without frames have no first one. -/
theorem first?_of_frames_eq_nil
    {bs : Bytes}
    (hFrames : frames bs = []) :
    first? bs = none := by
  cases hFirst : first? bs with
  | none => rfl
  | some p =>
      rw [frames_of_first? hFirst] at hFrames
      cases hFrames

/- No frame is behind all frames. -/
theorem first?_remainder
    (bs : Bytes) :
    first? (remainder bs) = none := by
  fun_induction frames bs with
  | case1 bs hFirst =>
      rw [remainder_of_first?_none hFirst, hFirst]
  | case2 bs frame rest hFirst ih =>
      rw [remainder_of_first? hFirst, ih]

/- All frames are read. -/
theorem yields_remainder
    (bs : Bytes) :
    Yields bs (frames bs) (remainder bs) := by
  fun_induction frames bs with
  | case1 bs hFirst =>
      rw [remainder_of_first?_none hFirst]
      exact yields_refl bs
  | case2 bs frame rest hFirst ih =>
      rw [remainder_of_first? hFirst]
      exact (yields_of_first? hFirst).trans ih

/-
  Reading does not change what comes behind all frames, but
  for junk.
-/
theorem Yields.remainder
    {bs rest : Bytes}
    {read : List Bytes}
    (hYields : Yields bs read rest) :
    Yields (remainder bs) [] (remainder rest) := by
  constructor
  · intro more
    have hAll := hYields.frames_eq more
    rw [(yields_remainder bs).frames_eq,
      (yields_remainder rest).frames_eq,
      hYields.frames_eq_rest, List.append_assoc] at hAll
    exact List.append_cancel_left
      (List.append_cancel_left hAll)
  · intro more
    have hAll := hYields.unfinished_eq more
    rw [(yields_remainder bs).unfinished_eq,
      (yields_remainder rest).unfinished_eq] at hAll
    exact hAll

------------------------------------------------------------
-- Frames Within A Limit
------------------------------------------------------------

/-
  No frame of the bytes exceeds a limit, be it complete or
  open at the end.
-/
structure Fits
    (limit : Nat)
    (bs : Bytes) : Prop where
  frames_le : ∀ frame ∈ frames bs, frame.length ≤ limit
  unfinished_le : (unfinished bs).length ≤ limit

/- No bytes are within every limit. -/
theorem fits_nil
    (limit : Nat) : Fits limit [] := by
  constructor
  · intro frame hFrame
    rw [frames_nil] at hFrame
    cases hFrame
  · rw [unfinished_of_first?_none rfl]
    exact Nat.zero_le limit

/- What is left after reading is within the limit. -/
theorem Fits.of_yields
    {limit : Nat}
    {bs rest : Bytes}
    {read : List Bytes}
    (hFits : Fits limit bs)
    (hYields : Yields bs read rest) :
    Fits limit rest := by
  constructor
  · intro frame hFrame
    apply hFits.frames_le
    rw [hYields.frames_eq_rest]
    exact List.mem_append_right _ hFrame
  · rw [← hYields.unfinished_eq_rest]
    exact hFits.unfinished_le

/-
  The frame that is open becomes the front of the first
  frame when its end marker comes, and stays open otherwise.
-/
theorem first?_append_of_open
    {bs opened : Bytes}
    (hFirst : first? bs = none)
    (hOpened : fromStart? bs = some opened)
    (more : Bytes) :
    (∃ frame rest,
      first? (bs ++ more) = some (frame, rest) ∧
        opened.length ≤ frame.length) ∨
    (first? (bs ++ more) = none ∧
      unfinished (bs ++ more) = opened ++ more) := by
  have hGrown :
      fromStart? (bs ++ more) = some (opened ++ more) := by
    unfold fromStart? at hOpened ⊢
    rcases Option.map_eq_some_iff.mp hOpened with
      ⟨i, hStart, rfl⟩
    rw [Marker.find?_append hStart more, Option.map_some]
    rw [Marker.find?_eq_some_iff] at hStart
    have hWithin := hStart.2.1.lt_length
    rw [List.drop_append_of_le_length (by omega)]
  have hStop :
      Marker.stop.find? opened Marker.size = none := by
    simp only [first?, hOpened] at hFirst
    cases hFound : Marker.stop.find? opened Marker.size with
    | none => rfl
    | some j => simp [hFound] at hFirst
  cases hFound :
      Marker.stop.find? (opened ++ more) Marker.size with
  | none =>
      apply Or.inr
      have hNone : first? (bs ++ more) = none := by
        simp only [first?, hGrown, hFound]
      refine ⟨hNone, ?_⟩
      rw [unfinished_of_first?_none hNone, hGrown]
      rfl
  | some j =>
      apply Or.inl
      refine
        ⟨(opened ++ more).take (j + Marker.size),
          (opened ++ more).drop (j + Marker.size), ?_, ?_⟩
      · simp only [first?, hGrown, hFound]
      · -- The end marker is not within the open frame.
        have hBounds := (Marker.find?_bounds hFound).2
        rw [Marker.find?_eq_some_iff] at hFound
        rw [Marker.find?_eq_none_iff] at hStop
        have hBehind : ¬ j + 1 < opened.length := by
          intro hWithin
          apply hStop j hFound.1
          rw [← Marker.isAt_append_iff _ more hWithin]
          exact hFound.2.1
        rw [List.length_take]
        simp only [Marker.size] at hBounds ⊢
        omega

/-
  The front of bytes is within the limit: a frame that is
  open there is the front of a frame of all of them.
-/
theorem Fits.of_append
    {limit : Nat}
    {bs more : Bytes}
    (hFits : Fits limit (bs ++ more)) :
    Fits limit bs := by
  have hYields := (yields_remainder bs).append more
  have hRest := hFits.of_yields hYields
  constructor
  · intro frame hFrame
    apply hFits.frames_le
    rw [(yields_remainder bs).frames_eq]
    exact List.mem_append_left _ hFrame
  · have hFirst := first?_remainder bs
    rw [unfinished]
    cases hOpened : fromStart? (remainder bs) with
    | none => exact Nat.zero_le _
    | some opened =>
        rw [Option.getD_some]
        rcases first?_append_of_open hFirst hOpened more
          with ⟨frame, rest, hSome, hLonger⟩ | ⟨_, hAll⟩
        · have hFrame :=
            hRest.frames_le frame
              (by rw [frames_of_first? hSome]; simp)
          omega
        · have hOpen := hRest.unfinished_le
          rw [hAll, List.length_append] at hOpen
          omega

end Marked

end Reframe
