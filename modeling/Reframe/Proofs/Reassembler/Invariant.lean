import Reframe.Proofs.Reassembler.Assembly
import Reframe.Proofs.Reassembler.Step

/-
  What holds of the frame under assembly in every state that
  a run can reach.

  Something of it has arrived and something is missing, its
  counts are those of its slots, and its bytes are within
  the limit.  So a payload that is replaced was counted, and
  a frame that gives way to another one is incomplete.

  Main declarations:
    * `Assembly.IsUnderway`
    * `Assembly.IsUnderway.exists_missing`
    * `Reassembler.IsSound`
    * `Reassembler.isSound_store`
    * `Reassembler.IsSound.step`
    * `Reassembler.live_frame_is_underway`
-/

namespace Reframe

------------------------------------------------------------
-- Assemblies That Are Underway
------------------------------------------------------------

namespace Assembly

/-
  Something of a frame has arrived and something is missing,
  and its bytes are within a limit.
-/
structure IsUnderway
    (a : Assembly)
    (limit : Nat) : Prop
    extends a.IsCounted where
  received_pos : 0 < a.received
  received_lt : a.received < a.count
  buffered_le : a.buffered ≤ limit

/- Only slots of the frame are filled. -/
theorem lt_count_of_isSome
    {a : Assembly}
    {i : Nat}
    (hFilled : (a.payload? i).isSome) :
    i < a.count := by
  by_cases hIndex : i < a.count
  · exact hIndex
  · rw [count] at hIndex
    simp [payload?, Array.getD_eq_getD_getElem?, hIndex]
      at hFilled

/- No more slots are filled than there are. -/
theorem IsCounted.received_le
    {a : Assembly}
    (hCounted : a.IsCounted) :
    a.received ≤ a.count := by
  have hFilled :=
    Finset.card_filter_le (Finset.range a.count)
      (fun i => (a.payload? i).isSome)
  rwa [← hCounted.received_eq, Finset.card_range]
    at hFilled

/- The bytes in a slot are among those that are counted. -/
theorem IsCounted.sizeAt_le
    {a : Assembly}
    (hCounted : a.IsCounted)
    (i : Nat) :
    a.sizeAt i ≤ a.buffered := by
  by_cases hIndex : i < a.count
  · rw [hCounted.buffered_eq]
    exact Finset.single_le_sum
      (fun j _ => Nat.zero_le (a.sizeAt j))
      (Finset.mem_range.mpr hIndex)
  · have hEmpty : a.payload? i = none := by
      rw [← Option.not_isSome_iff_eq_none]
      exact fun hFilled =>
        hIndex (lt_count_of_isSome hFilled)
    simp [sizeAt, hEmpty]

/- A slot was filled when a payload was taken in. -/
theorem IsCounted.received_insert_pos
    {a : Assembly}
    {index : UInt16}
    (hCounted : a.IsCounted)
    (payload : Bytes)
    (hIndex : index.toNat < a.count) :
    0 < (a.insert index payload).received := by
  have hAfter := isCounted_insert hCounted payload hIndex
  rw [hAfter.received_eq, Finset.card_pos]
  refine ⟨index.toNat, ?_⟩
  simp [payload?_insert a payload hIndex, hIndex]

/- A slot of a frame that is underway is empty. -/
theorem IsUnderway.exists_missing
    {a : Assembly}
    {limit : Nat}
    (hUnderway : a.IsUnderway limit) :
    ∃ i < a.count, a.payload? i = none := by
  have hOpen : ¬ a.IsComplete :=
    Nat.ne_of_lt hUnderway.received_lt
  rw [hUnderway.isComplete_iff] at hOpen
  simpa using hOpen

end Assembly

------------------------------------------------------------
-- States
------------------------------------------------------------

namespace Reassembler

/-
  The frame under assembly is the last one started, and it
  is underway.
-/
structure IsSound
    (r : Reassembler) : Prop where
  lastStarted_eq :
    ∀ a, r.live = some a → r.lastStarted = some a.frameId
  isUnderway :
    ∀ a, r.live = some a →
      a.IsUnderway r.config.maxFrameSize

/- Without a frame under assembly there is nothing to say. -/
theorem isSound_of_idle
    {r : Reassembler}
    (hIdle : r.live = none) :
    r.IsSound := by
  constructor <;> simp [hIdle]

/- Only the frames of a state matter. -/
theorem IsSound.of_sameFrames
    {r s : Reassembler}
    (hSound : r.IsSound)
    (hSame : SameFrames r s) :
    s.IsSound := by
  constructor
  · rw [hSame.live_eq, hSame.lastStarted_eq]
    exact hSound.lastStarted_eq
  · rw [hSame.live_eq, hSame.config_eq]
    exact hSound.isUnderway

/-
  Storing a fragment in the frame that was started last: the
  frame is dropped, completed, or underway.
-/
theorem isSound_store
    {r : Reassembler}
    {a : Assembly}
    {f : Fragment}
    (hLast : r.lastStarted = some a.frameId)
    (hCounted : a.IsCounted)
    (hIndex : f.index.toNat < a.count)
    (ingest : Ingest) :
    (r.store a f ingest).2.IsSound := by
  rcases r.store_cases a f ingest with
    ⟨_, hStore⟩ | ⟨_, _, hStore⟩ | ⟨hFits, hOpen, hStore⟩
  · exact isSound_of_idle (by rw [hStore])
  · exact isSound_of_idle (by rw [hStore])
  · have hAfter :=
      Assembly.isCounted_insert hCounted f.payload hIndex
    have hLess :
        (a.insert f.index f.payload).received <
          (a.insert f.index f.payload).count :=
      Nat.lt_of_le_of_ne hAfter.received_le hOpen
    rw [hStore]
    constructor
    · intro b hLive
      rw [← Option.some.inj hLive, Assembly.frameId_insert]
      exact hLast
    · intro b hLive
      rw [← Option.some.inj hLive]
      exact
        { toIsCounted := hAfter
          received_pos :=
            hCounted.received_insert_pos f.payload hIndex
          received_lt := hLess
          buffered_le := hFits }

/-
  The assembly that takes a fragment in: the one of its
  frame, or an empty one.
-/
def receiving
    (r : Reassembler)
    (f : Fragment) : Assembly :=
  match r.live with
  | none => Assembly.empty f.frameId f.count
  | some a =>
      if a.frameId = f.frameId then a
      else Assembly.empty f.frameId f.count

/-
  A fragment that is accepted is stored in the assembly that
  takes it in, which has a slot for it and is of the frame
  that was started last.
-/
theorem IsSound.stores
    {r : Reassembler}
    (hSound : r.IsSound)
    {e : Event}
    {f : Fragment}
    (hAccepted : r.accepted? e = some f) :
    (r.receiving f).IsCounted ∧
      f.index.toNat < (r.receiving f).count ∧
      ∃ base ingest,
        base.lastStarted =
            some (r.receiving f).frameId ∧
          r.step e =
            (.taken
                (store base (r.receiving f) f ingest).1,
              (store base (r.receiving f) f ingest).2) := by
  cases r.transition e with
  | dropped _ hNone _ _ =>
      rw [hNone] at hAccepted
      cases hAccepted
  | cleared hReset =>
      subst hReset
      simp [accepted?, step, Answer.IsAccepted]
        at hAccepted
  | joined g a _ hJoined hIndex hLive hId hCount hStep =>
      rw [hJoined, Option.some.injEq] at hAccepted
      subst hAccepted
      have hInto : r.receiving g = a := by
        simp [receiving, hLive, hId]
      rw [hInto, hCount]
      exact
        ⟨(hSound.isUnderway a hLive).toIsCounted, hIndex, _,
          _, hSound.lastStarted_eq a hLive, hStep⟩
  | started g _ hStarted hIndex hOther _ hStep =>
      rw [hStarted, Option.some.injEq] at hAccepted
      subst hAccepted
      have hInto :
          r.receiving g =
            Assembly.empty g.frameId g.count := by
        cases hLive : r.live with
        | none => simp [receiving, hLive]
        | some a =>
            have hId : a.frameId ≠ g.frameId := by
              simpa [liveFrameId, hLive] using hOther
            simp [receiving, hLive, hId]
      rw [start_eq] at hStep
      rw [hInto, Assembly.count_empty]
      exact
        ⟨Assembly.isCounted_empty _ _, hIndex, _, _, rfl,
          hStep⟩

/- Every event keeps the state sound. -/
theorem IsSound.step
    {r : Reassembler}
    (hSound : r.IsSound)
    (e : Event) :
    (r.step e).2.IsSound := by
  cases hAccepted : r.accepted? e with
  | none =>
      rcases step_of_accepted?_none hAccepted with
        hReset | ⟨_, hSame⟩
      · subst hReset
        exact isSound_of_idle rfl
      · exact hSound.of_sameFrames hSame
  | some f =>
      rcases hSound.stores hAccepted with
        ⟨hCounted, hIndex, base, ingest, hLast, hStep⟩
      rw [hStep]
      exact isSound_store hLast hCounted hIndex ingest

/- Every run keeps the state sound. -/
theorem IsSound.after
    {r : Reassembler}
    (hSound : r.IsSound)
    (es : List Event) :
    (r.after es).IsSound := by
  induction es using List.reverseRecOn with
  | nil => exact hSound
  | append_singleton es e ih =>
      rw [after_concat]
      exact ih.step e

/-
  In every state that a run reaches, a frame under assembly
  is the one that was started last, at least one of its
  fragments has arrived and at least one is missing, and its
  counts are those of the slots that are filled and of the
  bytes in them, within the limit.
-/
theorem live_frame_is_underway
    (config : ReassemblerConfig)
    (es : List Event) :
    let r := after { config := config } es
    (∀ a, r.live = some a →
      r.lastStarted = some a.frameId ∧
        1 ≤ a.count ∧
        1 ≤ a.received ∧
        a.received < a.count ∧
        a.received =
          ((Finset.range a.count).filter
            (fun i => (a.payload? i).isSome)).card ∧
        (∀ i, (a.payload? i).isSome → i < a.count) ∧
        a.buffered =
          ∑ i ∈ Finset.range a.count, a.sizeAt i ∧
        a.buffered ≤ config.maxFrameSize) ∧
      (∀ e f, r.accepted? e = some f →
        f.index.toNat < (r.receiving f).count ∧
          (r.receiving f).sizeAt f.index.toNat ≤
            (r.receiving f).buffered ∧
          ∃ base ingest,
            r.step e =
              (.taken
                  (store base (r.receiving f) f ingest).1,
                (store base (r.receiving f) f
                  ingest).2)) ∧
      ∀ a e frameId, r.live = some a →
        (r.step e).1.ingest.started = some frameId →
          a.frameId ≠ frameId ∧
            ¬ a.IsComplete ∧
            ∃ i < a.count, a.payload? i = none := by
  intro r
  have hSound : r.IsSound :=
    IsSound.after (isSound_of_idle rfl) es
  have hConfig : r.config = config :=
    config_after { config := config } es
  refine ⟨?_, ?_, ?_⟩
  · intro a hLive
    have hUnderway := hSound.isUnderway a hLive
    have hSome := hUnderway.received_pos
    have hLess := hUnderway.received_lt
    rw [← hConfig]
    exact
      ⟨hSound.lastStarted_eq a hLive, by omega, hSome,
        hLess, hUnderway.received_eq,
        fun i => Assembly.lt_count_of_isSome,
        hUnderway.buffered_eq, hUnderway.buffered_le⟩
  · intro e f hAccepted
    rcases hSound.stores hAccepted with
      ⟨hCounted, hIndex, base, ingest, _, hStep⟩
    exact
      ⟨hIndex, hCounted.sizeAt_le _, base, ingest, hStep⟩
  · intro a e frameId hLive hStarted
    have hUnderway := hSound.isUnderway a hLive
    rcases exists_of_started hStarted with
      ⟨_, _, _, hOther, _, _⟩
    refine ⟨?_, ?_, hUnderway.exists_missing⟩
    · simpa [liveFrameId, hLive] using hOther
    · exact Nat.ne_of_lt hUnderway.received_lt

/-
  The first payload of a frame is overwritten by a shorter
  one, and then another frame is started.
-/
theorem live_frame_is_underway_overwritten :
    let r : Reassembler :=
      after { config := { maxFrameSize := 4 } }
        [.fragment ⟨7, 0, 3, [1, 2, 3]⟩, .malformed,
          .fragment ⟨6, 0, 1, [6]⟩]
    let s := (r.step (.fragment ⟨7, 0, 3, [9]⟩)).2
    (r.receiving ⟨7, 0, 3, [9]⟩).sizeAt 0 ≤
        (r.receiving ⟨7, 0, 3, [9]⟩).buffered ∧
      ∃ a, s.live = some a ∧
        s.lastStarted = some a.frameId ∧
        1 ≤ a.received ∧
        a.received < a.count ∧
        a.buffered =
          ∑ i ∈ Finset.range a.count, a.sizeAt i ∧
        a.buffered ≤ 4 ∧
        a.frameId ≠ 8 ∧
        ∃ i < a.count, a.payload? i = none := by
  intro r s
  rcases live_frame_is_underway { maxFrameSize := 4 }
      [.fragment ⟨7, 0, 3, [1, 2, 3]⟩, .malformed,
        .fragment ⟨6, 0, 1, [6]⟩] with ⟨_, hStores, _⟩
  rcases live_frame_is_underway { maxFrameSize := 4 }
      [.fragment ⟨7, 0, 3, [1, 2, 3]⟩, .malformed,
        .fragment ⟨6, 0, 1, [6]⟩,
        .fragment ⟨7, 0, 3, [9]⟩] with
    ⟨hUnderway, _, hGives⟩
  have hLive :
      s.live =
        some ⟨7, #[some [9], none, none], 1, 1⟩ := by
    decide
  rcases hUnderway _ hLive with
    ⟨hLast, _, hSome, hLess, _, _, hBuffered, hFits⟩
  rcases hGives _ (.fragment ⟨8, 0, 1, [5]⟩) 8 hLive
      (by decide) with ⟨hOther, _, hMissing⟩
  exact
    ⟨(hStores (.fragment ⟨7, 0, 3, [9]⟩) ⟨7, 0, 3, [9]⟩
        (by decide)).2.1,
      _, hLive, hLast, hSome, hLess, hBuffered, hFits,
      hOther, hMissing⟩

end Reassembler

end Reframe
