import Reframe.Proofs.Sequence
import Reframe.Reassembler.Run

/-
  What one event does to a reassembler, and what a run of
  events adds up to.

  A fragment is refused, dropped as stale, put into the
  frame under assembly, or put into a frame that it starts.
  In the last two cases it is accepted.

  Main declarations:
    * `Reassembler.fault?_eq_none_iff`
    * `Reassembler.push_cases`
    * `Reassembler.store_cases`
    * `Reassembler.countMissing_eq`
    * `Reassembler.transition`
    * `Reassembler.step_of_accepted?_none`
    * `Reassembler.outcome`
    * `Reassembler.exists_of_started`
    * `Reassembler.accepted_concat`
    * `Reassembler.after_append`
-/

namespace Reframe

namespace Reassembler

------------------------------------------------------------
-- Answers And Fragments Of Events
------------------------------------------------------------

/- What an answer says about frames. -/
def Answer.ingest : Answer → Ingest
| .taken ingest => ingest
| .refused _ => {}
| .recorded => {}
| .cleared => {}

/- The fragment of the event was put into its frame. -/
def Answer.IsAccepted : Answer → Prop
| .taken ingest => ingest.stale = false
| .refused _ => False
| .recorded => False
| .cleared => False

instance
    (a : Answer) :
    Decidable a.IsAccepted := by
  cases a <;> unfold Answer.IsAccepted <;> infer_instance

/- The fragment that an event brings, if it brings one. -/
def Event.fragment? : Event → Option Fragment
| .fragment f => some f
| .datagram bytes => (Fragment.decode bytes).toOption
| .malformed => none
| .reset => none

/- An event with a fragment is the arrival of that one. -/
theorem step_of_fragment?
    (r : Reassembler)
    {e : Event}
    {f : Fragment}
    (hFragment : e.fragment? = some f) :
    r.step e = r.stepFragment f := by
  cases e with
  | fragment g =>
      simp only [Event.fragment?, Option.some.injEq]
        at hFragment
      rw [← hFragment, step]
  | datagram bytes =>
      cases hDecode : Fragment.decode bytes with
      | error cause =>
          simp [Event.fragment?, hDecode, Except.toOption]
            at hFragment
      | ok g =>
          simp only [Event.fragment?, hDecode,
            Except.toOption, Option.some.injEq] at hFragment
          simp only [step, hDecode, hFragment]
  | malformed => simp [Event.fragment?] at hFragment
  | reset => simp [Event.fragment?] at hFragment

/- An event without a fragment is counted or forgets. -/
theorem step_of_fragment?_none
    (r : Reassembler)
    {e : Event}
    (hFragment : e.fragment? = none)
    (hReset : e ≠ .reset) :
    (r.step e).1.ingest = {} ∧
      ¬ (r.step e).1.IsAccepted ∧
      (r.step e).2 = r.recordMalformed := by
  cases e with
  | fragment g => simp [Event.fragment?] at hFragment
  | datagram bytes =>
      cases hDecode : Fragment.decode bytes with
      | error cause =>
          simp [step, hDecode, Answer.ingest,
            Answer.IsAccepted]
      | ok g =>
          simp [Event.fragment?, hDecode, Except.toOption]
            at hFragment
  | malformed =>
      simp [step, Answer.ingest, Answer.IsAccepted]
  | reset => exact absurd rfl hReset

------------------------------------------------------------
-- Validation
------------------------------------------------------------

/-
  A fragment has no fault when its index is below its count
  and it agrees with the frame under assembly.
-/
theorem fault?_eq_none_iff
    (r : Reassembler)
    (f : Fragment) :
    r.fault? f = none ↔
      f.index.toNat < f.count.toNat ∧
        ∀ a, r.live = some a →
          a.frameId = f.frameId →
            a.count = f.count.toNat := by
  have hIndex :
      f.count ≤ f.index ↔
        f.count.toNat ≤ f.index.toNat :=
    UInt16.le_iff_toNat_le
  unfold fault?
  split
  · rename_i hZero
    simp [hZero]
  · split
    · rename_i hRange
      have hNot := hIndex.mp hRange
      simp only [reduceCtorEq, false_iff, not_and]
      intro hBelow
      omega
    · rename_i hRange
      have hBelow : f.index.toNat < f.count.toNat := by
        rw [hIndex] at hRange
        omega
      split
      · rename_i hLive
        simp [hLive, hBelow]
      · rename_i a hLive
        simp only [hLive, hBelow, true_and,
          Option.some.injEq, forall_eq']
        split
        · rename_i hBoth
          simp only [reduceCtorEq, false_iff]
          intro hAgree
          exact hBoth.2 (hAgree hBoth.1)
        · rename_i hNot
          simp only [true_iff]
          intro hId
          exact Decidable.byContradiction
            (fun hCount => hNot ⟨hId, hCount⟩)

------------------------------------------------------------
-- Putting A Fragment Into Its Frame
------------------------------------------------------------

/-
  The frame grows past the limit, is complete, or stays
  under assembly.
-/
theorem store_cases
    (r : Reassembler)
    (a : Assembly)
    (f : Fragment)
    (ingest : Ingest) :
    let b := a.insert f.index f.payload
    let stats :=
      { r.stats with fragments := r.stats.fragments + 1 }
    (r.config.maxFrameSize < b.buffered ∧
      r.store a f ingest =
        ({ ingest with abandoned := some a.frameId },
          { r with
            live := none
            stats :=
              { stats with
                abandoned := stats.abandoned + 1 } })) ∨
    (b.buffered ≤ r.config.maxFrameSize ∧
      b.IsComplete ∧
      r.store a f ingest =
        ({ ingest with
            completed := some ⟨a.frameId, b.data⟩ },
          { r with
            live := none
            stats :=
              { stats with
                completed := stats.completed + 1 } })) ∨
    (b.buffered ≤ r.config.maxFrameSize ∧
      ¬ b.IsComplete ∧
      r.store a f ingest =
        (ingest, { r with live := some b, stats := stats })) := by
  dsimp only
  by_cases hSize :
      r.config.maxFrameSize <
        (a.insert f.index f.payload).buffered
  · apply Or.inl
    exact ⟨hSize, by simp [store, hSize]⟩
  · apply Or.inr
    have hFits :
        (a.insert f.index f.payload).buffered ≤
          r.config.maxFrameSize := by
      omega
    by_cases hComplete :
        (a.insert f.index f.payload).IsComplete
    · apply Or.inl
      exact ⟨hFits, hComplete,
        by simp [store, hSize, hComplete]⟩
    · apply Or.inr
      exact ⟨hFits, hComplete,
        by simp [store, hSize, hComplete]⟩

/- The reassembler that a frame is started in. -/
def prepared
    (r : Reassembler)
    (f : Fragment) : Reassembler :=
  let counted :=
    match r.gapBefore f.frameId with
    | none => r
    | some g => r.recordGap g.missing
  { counted.retireLive with lastStarted := some f.frameId }

/-
  As many frames are counted as are missing in the gap that
  is reported.
-/
theorem countMissing_eq
    (r : Reassembler)
    (frameId : UInt32) :
    r.countMissing frameId =
      match r.gapBefore frameId with
      | none => r
      | some g => r.recordGap g.missing := by
  cases hLast : r.lastStarted with
  | none =>
      simp [countMissing, gapBefore, positionOf, hLast,
        Position.of]
  | some previous =>
      cases hPosition : r.positionOf frameId with
      | ahead missing =>
          have hMissing := hPosition
          rw [positionOf, hLast] at hMissing
          have hSame := Position.missing_of_ahead hMissing
          by_cases hPositive : 0 < missing
          · simp [countMissing, gapBefore, hPosition, hLast,
              hPositive, hSame]
          · simp [countMissing, gapBefore, hPosition, hLast,
              hPositive]
      | first => simp [countMissing, gapBefore, hPosition]
      | restart => simp [countMissing, gapBefore, hPosition]
      | stale => simp [countMissing, gapBefore, hPosition]

/- A fragment is put into the frame that it starts. -/
theorem start_eq
    (r : Reassembler)
    (f : Fragment) :
    r.start f =
      store (r.prepared f)
        (Assembly.empty f.frameId f.count) f
        { started := some f.frameId
          abandoned := r.liveFrameId
          gap := r.gapBefore f.frameId } := by
  rw [start, countMissing_eq]
  rfl

/- Starting a frame changes no setting. -/
@[simp]
theorem config_prepared
    (r : Reassembler)
    (f : Fragment) :
    (r.prepared f).config = r.config := by
  simp only [prepared, retireLive]
  split <;> split <;> rfl

/- The frame that is started is the last one started. -/
@[simp]
theorem lastStarted_prepared
    (r : Reassembler)
    (f : Fragment) :
    (r.prepared f).lastStarted = some f.frameId := by
  rfl

------------------------------------------------------------
-- What One Fragment Does
------------------------------------------------------------

/- A fragment with a fault is refused. -/
theorem push_of_fault
    {r : Reassembler}
    {f : Fragment}
    {cause : FrameError}
    (hFault : r.fault? f = some cause) :
    r.push f = (.error cause, r.recordMalformed) := by
  simp [push, hFault]

/- A fragment joins the frame under assembly. -/
theorem push_of_joins
    {r : Reassembler}
    {f : Fragment}
    {a : Assembly}
    (hFault : r.fault? f = none)
    (hLive : r.live = some a)
    (hId : a.frameId = f.frameId) :
    r.push f =
      (.ok (store { r with live := none } a f {}).1,
        (store { r with live := none } a f {}).2) := by
  simp [push, hFault, accept, hLive, hId]

/- A fragment of another frame has to enter. -/
private theorem accept_of_other
    {r : Reassembler}
    {f : Fragment}
    (hOther : r.liveFrameId ≠ some f.frameId) :
    r.accept f = r.enter f := by
  cases hLive : r.live with
  | none => simp [accept, hLive]
  | some a =>
      have hId : a.frameId ≠ f.frameId := by
        intro hSame
        apply hOther
        simp [liveFrameId, hLive, hSame]
      simp [accept, hLive, hId]

/- A fragment of an older frame is dropped. -/
theorem push_of_stale
    {r : Reassembler}
    {f : Fragment}
    (hFault : r.fault? f = none)
    (hOther : r.liveFrameId ≠ some f.frameId)
    (hStale : r.positionOf f.frameId = .stale) :
    r.push f = (.ok { stale := true }, r.recordStale) := by
  simp [push, hFault, accept_of_other hOther, enter, hStale]

/- A fragment of a newer frame starts it. -/
theorem push_of_starts
    {r : Reassembler}
    {f : Fragment}
    (hFault : r.fault? f = none)
    (hOther : r.liveFrameId ≠ some f.frameId)
    (hPosition : r.positionOf f.frameId ≠ .stale) :
    r.push f = (.ok (r.start f).1, (r.start f).2) := by
  simp [push, hFault, accept_of_other hOther, enter,
    hPosition]

/-
  A fragment is refused, joins the frame under assembly, is
  dropped as stale, or starts its frame.
-/
theorem push_cases
    (r : Reassembler)
    (f : Fragment) :
    (∃ e, r.fault? f = some e ∧
      r.push f = (.error e, r.recordMalformed)) ∨
    (r.fault? f = none ∧
      ∃ a, r.live = some a ∧ a.frameId = f.frameId ∧
        r.push f =
          (.ok (store { r with live := none } a f {}).1,
            (store { r with live := none } a f {}).2)) ∨
    (r.fault? f = none ∧
      r.liveFrameId ≠ some f.frameId ∧
      r.positionOf f.frameId = .stale ∧
      r.push f = (.ok { stale := true }, r.recordStale)) ∨
    (r.fault? f = none ∧
      r.liveFrameId ≠ some f.frameId ∧
      r.positionOf f.frameId ≠ .stale ∧
      r.push f = (.ok (r.start f).1, (r.start f).2)) := by
  cases hFault : r.fault? f with
  | some e =>
      apply Or.inl
      exact ⟨e, rfl, push_of_fault hFault⟩
  | none =>
      apply Or.inr
      by_cases hJoins : r.liveFrameId = some f.frameId
      · apply Or.inl
        rcases Option.map_eq_some_iff.mp hJoins with
          ⟨a, hLive, hId⟩
        exact ⟨rfl, a, hLive, hId,
          push_of_joins hFault hLive hId⟩
      · apply Or.inr
        by_cases hStale : r.positionOf f.frameId = .stale
        · apply Or.inl
          exact ⟨rfl, hJoins, hStale,
            push_of_stale hFault hJoins hStale⟩
        · apply Or.inr
          exact ⟨rfl, hJoins, hStale,
            push_of_starts hFault hJoins hStale⟩

------------------------------------------------------------
-- What One Event Does
------------------------------------------------------------

/- The fragment that an event puts into its frame. -/
def accepted?
    (r : Reassembler)
    (e : Event) : Option Fragment :=
  if (r.step e).1.IsAccepted then e.fragment? else none

/-
  An answer says nothing about any frame, except that it may
  complete one.
-/
structure Answer.OnlyCompletes
    (answer : Answer)
    (completed : Option CompletedFrame) : Prop where
  completed_eq : answer.ingest.completed = completed
  started_eq : answer.ingest.started = none
  abandoned_eq : answer.ingest.abandoned = none
  gap_eq : answer.ingest.gap = none

/- Two reassemblers differ in their counts only. -/
structure SameFrames
    (r s : Reassembler) : Prop where
  config_eq : s.config = r.config
  live_eq : s.live = r.live
  lastStarted_eq : s.lastStarted = r.lastStarted

/- What an event can do to the frames of a reassembler. -/
inductive Transition
    (r : Reassembler)
    (e : Event) : Prop where
/- No frame is touched. -/
| dropped
    (hReset : e ≠ .reset)
    (hAccepted : r.accepted? e = none)
    (hQuiet : (r.step e).1.OnlyCompletes none)
    (hSame : SameFrames r (r.step e).2)
/- All frames are forgotten. -/
| cleared
    (hReset : e = .reset)
/- A fragment is put into the frame under assembly. -/
| joined
    (f : Fragment)
    (a : Assembly)
    (hFragment : e.fragment? = some f)
    (hAccepted : r.accepted? e = some f)
    (hIndex : f.index.toNat < f.count.toNat)
    (hLive : r.live = some a)
    (hId : a.frameId = f.frameId)
    (hCount : a.count = f.count.toNat)
    (hStep :
      r.step e =
        (.taken (store { r with live := none } a f {}).1,
          (store { r with live := none } a f {}).2))
/- A fragment is put into the frame that it starts. -/
| started
    (f : Fragment)
    (hFragment : e.fragment? = some f)
    (hAccepted : r.accepted? e = some f)
    (hIndex : f.index.toNat < f.count.toNat)
    (hOther : r.liveFrameId ≠ some f.frameId)
    (hPosition : r.positionOf f.frameId ≠ .stale)
    (hStep :
      r.step e = (.taken (r.start f).1, (r.start f).2))

/-
  A fragment with a fault or of an older frame is dropped
  and touches no frame.
-/
theorem step_of_dropped
    {r : Reassembler}
    {e : Event}
    {f : Fragment}
    (hFragment : e.fragment? = some f)
    (hDropped :
      r.fault? f ≠ none ∨
        r.liveFrameId ≠ some f.frameId ∧
          r.positionOf f.frameId = .stale) :
    ¬ (r.step e).1.IsAccepted ∧
      (r.step e).1.OnlyCompletes none ∧
      SameFrames r (r.step e).2 := by
  rw [r.step_of_fragment? hFragment, stepFragment]
  cases hFault : r.fault? f with
  | some cause =>
      rw [push_of_fault hFault]
      refine ⟨?_, ?_, ?_⟩
      · simp [Answer.IsAccepted]
      · constructor <;> simp [Answer.ingest]
      · constructor <;> simp [recordMalformed]
  | none =>
      rcases hDropped with hNot | ⟨hOther, hStale⟩
      · exact absurd hFault hNot
      · rw [push_of_stale hFault hOther hStale]
        refine ⟨?_, ?_, ?_⟩
        · simp [Answer.IsAccepted]
        · constructor <;> simp [Answer.ingest]
        · constructor <;> simp [recordStale]

/- Storing a fragment does not make it stale. -/
theorem stale_store
    (r : Reassembler)
    (a : Assembly)
    (f : Fragment)
    (ingest : Ingest) :
    (r.store a f ingest).1.stale = ingest.stale := by
  rcases r.store_cases a f ingest with
    ⟨_, hStore⟩ | ⟨_, _, hStore⟩ | ⟨_, _, hStore⟩ <;>
    rw [hStore]

/- Storing a fragment starts no frame. -/
theorem started_store
    (r : Reassembler)
    (a : Assembly)
    (f : Fragment)
    (ingest : Ingest) :
    (r.store a f ingest).1.started = ingest.started := by
  rcases r.store_cases a f ingest with
    ⟨_, hStore⟩ | ⟨_, _, hStore⟩ | ⟨_, _, hStore⟩ <;>
    rw [hStore]

/- Storing a fragment changes no setting. -/
@[simp]
theorem config_store
    (r : Reassembler)
    (a : Assembly)
    (f : Fragment)
    (ingest : Ingest) :
    (r.store a f ingest).2.config = r.config := by
  rcases r.store_cases a f ingest with
    ⟨_, hStore⟩ | ⟨_, _, hStore⟩ | ⟨_, _, hStore⟩ <;>
    rw [hStore]

/- Storing a fragment starts no frame anew. -/
@[simp]
theorem lastStarted_store
    (r : Reassembler)
    (a : Assembly)
    (f : Fragment)
    (ingest : Ingest) :
    (r.store a f ingest).2.lastStarted = r.lastStarted := by
  rcases r.store_cases a f ingest with
    ⟨_, hStore⟩ | ⟨_, _, hStore⟩ | ⟨_, _, hStore⟩ <;>
    rw [hStore]

/- Every event does one of the four things. -/
theorem transition
    (r : Reassembler)
    (e : Event) : Transition r e := by
  cases hFragment : e.fragment? with
  | none =>
      by_cases hReset : e = .reset
      · exact .cleared hReset
      · rcases r.step_of_fragment?_none hFragment hReset
          with ⟨hIngest, hNot, hAfter⟩
        refine .dropped hReset ?_ ?_ ?_
        · simp [accepted?, hNot]
        · constructor <;> simp [hIngest]
        · constructor <;> simp [hAfter, recordMalformed]
  | some f =>
      have hStep := r.step_of_fragment? hFragment
      have hReset : e ≠ .reset := by
        rintro rfl
        simp [Event.fragment?] at hFragment
      rcases r.push_cases f with
        ⟨cause, hFault, _⟩ |
        ⟨hFault, a, hLive, hId, hPush⟩ |
        ⟨_, hOther, hStale, _⟩ |
        ⟨hFault, hOther, hPosition, hPush⟩
      · have hNone : r.fault? f ≠ none := by simp [hFault]
        rcases step_of_dropped hFragment (Or.inl hNone) with
          ⟨hNot, hQuiet, hSame⟩
        exact .dropped hReset (by simp [accepted?, hNot])
          hQuiet hSame
      · rw [stepFragment, hPush] at hStep
        rw [fault?_eq_none_iff] at hFault
        have hAccepted : r.accepted? e = some f := by
          simp [accepted?, hStep, Answer.IsAccepted,
            stale_store, hFragment]
        exact .joined f a hFragment hAccepted hFault.1 hLive
          hId (hFault.2 a hLive hId) hStep
      · rcases step_of_dropped hFragment
            (Or.inr ⟨hOther, hStale⟩) with
          ⟨hNot, hQuiet, hSame⟩
        exact .dropped hReset (by simp [accepted?, hNot])
          hQuiet hSame
      · rw [stepFragment, hPush] at hStep
        rw [fault?_eq_none_iff] at hFault
        have hAccepted : r.accepted? e = some f := by
          simp [accepted?, hStep, Answer.IsAccepted,
            start_eq, stale_store, hFragment]
        exact .started f hFragment hAccepted hFault.1 hOther
          hPosition hStep

/-
  An event that accepts no fragment forgets all frames or
  touches none.
-/
theorem step_of_accepted?_none
    {r : Reassembler}
    {e : Event}
    (hAccepted : r.accepted? e = none) :
    e = .reset ∨
      ((r.step e).1.OnlyCompletes none ∧
        SameFrames r (r.step e).2) := by
  cases r.transition e with
  | dropped _ _ hQuiet hSame =>
      exact Or.inr ⟨hQuiet, hSame⟩
  | cleared hReset => exact Or.inl hReset
  | joined f _ _ hSome _ _ _ _ _ =>
      rw [hSome] at hAccepted
      cases hAccepted
  | started f _ hSome _ _ _ _ =>
      rw [hSome] at hAccepted
      cases hAccepted

/- No event changes a setting. -/
@[simp]
theorem config_step
    (r : Reassembler)
    (e : Event) :
    (r.step e).2.config = r.config := by
  cases r.transition e with
  | dropped _ _ _ hSame => exact hSame.config_eq
  | cleared hReset =>
      subst hReset
      rfl
  | joined f a _ _ _ _ _ _ hStep => simp [hStep]
  | started f _ _ _ _ _ hStep => simp [hStep, start_eq]

------------------------------------------------------------
-- What Becomes Of Frames
------------------------------------------------------------

/- The frame that gives way to the one of a fragment. -/
def retired
    (r : Reassembler)
    (f : Fragment) : Option UInt32 :=
  if r.liveFrameId = some f.frameId then none
  else r.liveFrameId

/-
  What becomes of the frame of a fragment that is accepted:
  it is dropped for its size, completed, or stays under
  assembly.
-/
inductive Outcome
    (r : Reassembler)
    (e : Event)
    (f : Fragment) : Prop where
| dropped
    (hLive : (r.step e).2.live = none)
    (hCompleted : (r.step e).1.ingest.completed = none)
    (hAbandoned :
      (r.step e).1.ingest.abandoned = some f.frameId)
| completed
    (data : Bytes)
    (hLive : (r.step e).2.live = none)
    (hCompleted :
      (r.step e).1.ingest.completed =
        some ⟨f.frameId, data⟩)
    (hAbandoned :
      (r.step e).1.ingest.abandoned = r.retired f)
| underway
    (hLive : (r.step e).2.liveFrameId = some f.frameId)
    (hCompleted : (r.step e).1.ingest.completed = none)
    (hAbandoned :
      (r.step e).1.ingest.abandoned = r.retired f)

/- What becomes of a frame in which a fragment is stored. -/
private theorem outcome_of_store
    {r base : Reassembler}
    {e : Event}
    {f : Fragment}
    {a : Assembly}
    {ingest : Ingest}
    (hId : a.frameId = f.frameId)
    (hNew : ingest.completed = none)
    (hAbandoned : ingest.abandoned = r.retired f)
    (hStep :
      r.step e =
        (.taken (store base a f ingest).1,
          (store base a f ingest).2)) :
    Outcome r e f := by
  rcases base.store_cases a f ingest with
    ⟨_, hStore⟩ | ⟨_, _, hStore⟩ | ⟨_, _, hStore⟩
  · rw [hStore] at hStep
    apply Outcome.dropped <;>
      simp [hStep, Answer.ingest, hNew, hId]
  · rw [hStore] at hStep
    apply Outcome.completed
      (a.insert f.index f.payload).data <;>
      simp [hStep, Answer.ingest, hAbandoned, hId]
  · rw [hStore] at hStep
    apply Outcome.underway <;>
      simp [hStep, Answer.ingest, hNew, hAbandoned, hId,
        liveFrameId]

/- A fragment that is accepted has one of the outcomes. -/
theorem outcome
    {r : Reassembler}
    {e : Event}
    {f : Fragment}
    (hAccepted : r.accepted? e = some f) :
    Outcome r e f := by
  cases r.transition e with
  | dropped _ hNone _ _ =>
      rw [hNone] at hAccepted
      cases hAccepted
  | cleared hReset =>
      subst hReset
      simp [accepted?, step, Answer.IsAccepted]
        at hAccepted
  | joined g a _ hJoined _ hLive hId _ hStep =>
      rw [hJoined, Option.some.injEq] at hAccepted
      subst hAccepted
      refine outcome_of_store hId rfl ?_ hStep
      simp [retired, liveFrameId, hLive, hId]
  | started g _ hStarted _ hOther _ hStep =>
      rw [hStarted, Option.some.injEq] at hAccepted
      subst hAccepted
      rw [start_eq] at hStep
      refine outcome_of_store rfl rfl ?_ hStep
      simp [retired, hOther]

/-
  An event that starts a frame finds another one under
  assembly, or none, and the frame is not stale.
-/
theorem exists_of_started
    {r : Reassembler}
    {e : Event}
    {frameId : UInt32}
    (hStarted :
      (r.step e).1.ingest.started = some frameId) :
    ∃ f, f.frameId = frameId ∧
      r.accepted? e = some f ∧
      r.liveFrameId ≠ some frameId ∧
      r.positionOf frameId ≠ .stale ∧
      (r.step e).2.lastStarted = some frameId := by
  cases r.transition e with
  | dropped _ _ hQuiet _ =>
      rw [hQuiet.started_eq] at hStarted
      cases hStarted
  | cleared hReset =>
      subst hReset
      cases hStarted
  | joined f a _ _ _ _ _ _ hStep =>
      rw [hStep, Answer.ingest, started_store] at hStarted
      cases hStarted
  | started f _ hAccepted _ hOther hPosition hStep =>
      rw [hStep, start_eq, Answer.ingest, started_store,
        Option.some.injEq] at hStarted
      subst hStarted
      refine
        ⟨f, rfl, hAccepted, hOther, hPosition, ?_⟩
      rw [hStep, start_eq, lastStarted_store,
        lastStarted_prepared]

/-
  A fragment that is accepted is of the frame under assembly
  or starts its frame.
-/
theorem started_of_accepted
    {r : Reassembler}
    {e : Event}
    {f : Fragment}
    (hAccepted : r.accepted? e = some f)
    (hOther : r.liveFrameId ≠ some f.frameId) :
    (r.step e).1.ingest.started = some f.frameId := by
  cases r.transition e with
  | dropped _ hNone _ _ =>
      rw [hNone] at hAccepted
      cases hAccepted
  | cleared hReset =>
      subst hReset
      simp [accepted?, step, Answer.IsAccepted]
        at hAccepted
  | joined g a _ hJoined _ hLive hId _ _ =>
      rw [hJoined, Option.some.injEq] at hAccepted
      subst hAccepted
      simp [liveFrameId, hLive, hId] at hOther
  | started g _ hStarted _ _ _ hStep =>
      rw [hStarted, Option.some.injEq] at hAccepted
      subst hAccepted
      rw [hStep, start_eq, Answer.ingest, started_store]

/- The frame started last stays so until another one is. -/
theorem lastStarted_step
    {r : Reassembler}
    {e : Event}
    (hReset : e ≠ .reset)
    (hStarted : (r.step e).1.ingest.started = none) :
    (r.step e).2.lastStarted = r.lastStarted := by
  cases r.transition e with
  | dropped _ _ _ hSame => exact hSame.lastStarted_eq
  | cleared hCleared => exact absurd hCleared hReset
  | joined f a _ _ _ _ _ _ hStep => simp [hStep]
  | started f _ _ _ _ _ hStep =>
      rw [hStep, start_eq, Answer.ingest, started_store]
        at hStarted
      cases hStarted

------------------------------------------------------------
-- Runs
------------------------------------------------------------

/- The fragments that a run puts into frames, in order. -/
def accepted
    (r : Reassembler) : List Event → List Fragment
| [] => []
| e :: es =>
    (r.accepted? e).toList ++ accepted (r.step e).2 es

/- A run of two parts is one run after the other. -/
@[simp]
theorem after_append
    (r : Reassembler)
    (es es' : List Event) :
    r.after (es ++ es') = (r.after es).after es' := by
  simp [after]

/- The state after a run and one more event. -/
theorem after_concat
    (r : Reassembler)
    (es : List Event)
    (e : Event) :
    r.after (es ++ [e]) = ((r.after es).step e).2 := by
  simp [after]

/- The answers of two parts of a run. -/
theorem run_append
    (r : Reassembler)
    (es es' : List Event) :
    r.run (es ++ es') =
      r.run es ++ (r.after es).run es' := by
  induction es generalizing r with
  | nil => rfl
  | cons e es ih =>
      simp only [List.cons_append, run, ih]
      rfl

/- What the first event reports comes first. -/
theorem filterMap_run_cons
    {α : Type}
    (report : Answer → Option α)
    (r : Reassembler)
    (e : Event)
    (es : List Event) :
    (r.run (e :: es)).filterMap (fun a => report a.1) =
      (report (r.step e).1).toList ++
        ((r.step e).2.run es).filterMap
          (fun a => report a.1) := by
  rw [Reassembler.run, List.filterMap_cons]
  cases report (r.step e).1 <;> rfl

/- Each answer of a run is the one of its event. -/
theorem getElem?_run
    (r : Reassembler)
    (es : List Event)
    (i : Nat) :
    (r.run es)[i]? =
      es[i]?.map (fun e => (r.after (es.take i)).step e) := by
  induction es generalizing r i with
  | nil => simp [run]
  | cons e es ih =>
      cases i with
      | zero => simp [run, after]
      | succ i =>
          simp only [run, List.getElem?_cons_succ, ih,
            List.take_succ_cons]
          rfl

/- No run changes a setting. -/
@[simp]
theorem config_after
    (r : Reassembler)
    (es : List Event) :
    (r.after es).config = r.config := by
  induction es generalizing r with
  | nil => rfl
  | cons e es ih =>
      have hRest := ih (r.step e).2
      rw [config_step] at hRest
      exact hRest

/- What is accepted in two parts of a run. -/
theorem accepted_append
    (r : Reassembler)
    (es es' : List Event) :
    r.accepted (es ++ es') =
      r.accepted es ++ (r.after es).accepted es' := by
  induction es generalizing r with
  | nil => rfl
  | cons e es ih =>
      simp only [List.cons_append, accepted, ih,
        List.append_assoc]
      rfl

/- What is accepted with one more event. -/
theorem accepted_concat
    (r : Reassembler)
    (es : List Event)
    (e : Event) :
    r.accepted (es ++ [e]) =
      r.accepted es ++
        ((r.after es).accepted? e).toList := by
  simp [accepted_append, accepted]

end Reassembler

end Reframe
