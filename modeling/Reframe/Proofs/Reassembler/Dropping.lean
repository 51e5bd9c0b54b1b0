import Reframe.Proofs.Reassembler.Counts

/-
  What is dropped leaves no trace.

  An event that is answered by dropping what arrived, as
  malformed or as stale, changes the count of what was
  dropped and nothing else, and no event looks at these
  counts.  So a run without such events gives the answers
  and the frames of the whole run.

  Main declarations:
    * `Reassembler.Answer.IsDropped`
    * `Reassembler.kept`
    * `Reassembler.withoutDropped`
    * `Reassembler.visible_step_withoutDropped`
    * `Reassembler.withoutDropped_step_of_isDropped`
    * `Reassembler.dropped_leaves_no_trace`
-/

namespace Reframe

namespace Reassembler

------------------------------------------------------------
-- What Is Dropped
------------------------------------------------------------

/- What arrived was dropped, as malformed or as stale. -/
def Answer.IsDropped
    (a : Answer) : Prop :=
  a.isMalformed = true ∨ a.ingest.stale = true

instance
    (a : Answer) :
    Decidable a.IsDropped := by
  unfold Answer.IsDropped
  infer_instance

/-
  The events of a run that are not answered by dropping what
  arrived, in order.
-/
def kept
    (r : Reassembler) : List Event → List Event
| [] => []
| e :: es =>
    (if (r.step e).1.IsDropped then [] else [e]) ++
      kept (r.step e).2 es

/- A reassembler apart from the counts of what was dropped. -/
def withoutDropped
    (r : Reassembler) : Reassembler :=
  { r with
    stats := { r.stats with stale := 0, malformed := 0 } }

/-
  An answer and the state behind it, apart from the counts
  of what was dropped.
-/
def visible
    (a : Answer × Reassembler) : Answer × Reassembler :=
  (a.1, a.2.withoutDropped)

------------------------------------------------------------
-- The Counts Of What Was Dropped Are Not Looked At
------------------------------------------------------------

/- Putting a fragment into its frame keeps these counts. -/
theorem store_withoutDropped
    (r : Reassembler)
    (a : Assembly)
    (f : Fragment)
    (ingest : Ingest) :
    r.withoutDropped.store a f ingest =
      ((r.store a f ingest).1,
        (r.store a f ingest).2.withoutDropped) := by
  by_cases hSize :
      r.config.maxFrameSize <
        (a.insert f.index f.payload).buffered
  · simp [store, withoutDropped, hSize]
  · by_cases hComplete :
        (a.insert f.index f.payload).IsComplete <;>
      simp [store, withoutDropped, hSize, hComplete]

/- Preparing a frame keeps these counts. -/
theorem prepared_withoutDropped
    (r : Reassembler)
    (f : Fragment) :
    r.withoutDropped.prepared f =
      (r.prepared f).withoutDropped := by
  have hGap :
      r.withoutDropped.gapBefore f.frameId =
        r.gapBefore f.frameId := rfl
  rw [prepared, prepared, hGap]
  cases r.gapBefore f.frameId <;>
    cases hLive : r.live <;>
      simp [withoutDropped, recordGap, retireLive, hLive]

/- A fragment is answered and taken in the same way. -/
theorem visible_stepFragment_withoutDropped
    (r : Reassembler)
    (f : Fragment) :
    visible (r.withoutDropped.stepFragment f) =
      visible (r.stepFragment f) := by
  unfold stepFragment
  rcases r.push_cases f with
    ⟨cause, hFault, hPush⟩ | ⟨hFault, a, hLive, hId, hPush⟩ |
    ⟨hFault, hOther, hStale, hPush⟩ |
    ⟨hFault, hOther, hPosition, hPush⟩
  · have hSame : r.withoutDropped.fault? f = some cause :=
      hFault
    rw [hPush, push_of_fault hSame]
    rfl
  · have hSame : r.withoutDropped.fault? f = none := hFault
    have hBase :
        { r.withoutDropped with live := none } =
          withoutDropped { r with live := none } := rfl
    rw [hPush, push_of_joins hSame hLive hId, hBase,
      store_withoutDropped]
    rfl
  · have hSame : r.withoutDropped.fault? f = none := hFault
    rw [hPush, push_of_stale hSame hOther hStale]
    rfl
  · have hSame : r.withoutDropped.fault? f = none := hFault
    rw [hPush, push_of_starts hSame hOther hPosition,
      start_eq, start_eq, prepared_withoutDropped,
      store_withoutDropped]
    rfl

/- Every event is answered and happens in the same way. -/
theorem visible_step_withoutDropped
    (r : Reassembler)
    (e : Event) :
    visible (r.withoutDropped.step e) =
      visible (r.step e) := by
  cases e with
  | fragment f =>
      exact r.visible_stepFragment_withoutDropped f
  | datagram bytes =>
      cases hDecode : Fragment.decode bytes with
      | error cause =>
          simp only [step, hDecode]
          rfl
      | ok f =>
          simp only [step, hDecode]
          exact r.visible_stepFragment_withoutDropped f
  | malformed => rfl
  | reset => rfl

/- States that differ in these counts only stay so. -/
theorem visible_step_congr
    {r s : Reassembler}
    (hSame : r.withoutDropped = s.withoutDropped)
    (e : Event) :
    visible (r.step e) = visible (s.step e) := by
  rw [← visible_step_withoutDropped, hSame,
    visible_step_withoutDropped]

------------------------------------------------------------
-- Dropping Changes A Count
------------------------------------------------------------

/- What is wrong with a fragment concerns only itself. -/
theorem isMalformedFragment_of_fault?
    {r : Reassembler}
    {f : Fragment}
    {cause : FrameError}
    (hFault : r.fault? f = some cause) :
    cause.IsMalformedFragment := by
  unfold fault? at hFault
  split at hFault
  · rw [← Option.some.inj hFault]
    trivial
  · split at hFault
    · rw [← Option.some.inj hFault]
      trivial
    · split at hFault
      · cases hFault
      · split at hFault
        · rw [← Option.some.inj hFault]
          trivial
        · cases hFault

/- A fragment that is refused is counted as malformed. -/
theorem push_of_error
    {r s : Reassembler}
    {f : Fragment}
    {cause : FrameError}
    (hPush : r.push f = (.error cause, s)) :
    r.fault? f = some cause ∧ s = r.recordMalformed := by
  rcases r.push_cases f with
    ⟨e, hFault, hCase⟩ | ⟨_, a, _, _, hCase⟩ |
    ⟨_, _, _, hCase⟩ | ⟨_, _, _, hCase⟩ <;>
    rw [hCase, Prod.mk.injEq] at hPush <;>
    rcases hPush with ⟨hResult, hAfter⟩
  · rw [← Except.error.inj hResult]
    exact ⟨hFault, hAfter.symm⟩
  · cases hResult
  · cases hResult
  · cases hResult

/- A fragment that is stale is counted as stale. -/
theorem push_of_ok_stale
    {r s : Reassembler}
    {f : Fragment}
    {ingest : Ingest}
    (hPush : r.push f = (.ok ingest, s))
    (hStale : ingest.stale = true) :
    ingest = { stale := true } ∧ s = r.recordStale := by
  rcases r.push_cases f with
    ⟨e, _, hCase⟩ | ⟨_, a, _, _, hCase⟩ |
    ⟨_, _, _, hCase⟩ | ⟨_, _, _, hCase⟩ <;>
    rw [hCase, Prod.mk.injEq] at hPush <;>
    rcases hPush with ⟨hResult, hAfter⟩
  · cases hResult
  · rw [← Except.ok.inj hResult, stale_store] at hStale
    cases hStale
  · rw [← Except.ok.inj hResult]
    exact ⟨rfl, hAfter.symm⟩
  · rw [← Except.ok.inj hResult, start_eq, stale_store]
      at hStale
    cases hStale

/- Dropping a fragment changes the count of it only. -/
theorem withoutDropped_stepFragment
    {r : Reassembler}
    {f : Fragment}
    (hDropped : (r.stepFragment f).1.IsDropped) :
    (r.stepFragment f).2.withoutDropped =
      r.withoutDropped := by
  unfold stepFragment at hDropped ⊢
  cases hPush : r.push f with
  | mk result s =>
      cases result with
      | error cause =>
          rw [(push_of_error hPush).2]
          rfl
      | ok ingest =>
          rw [hPush] at hDropped
          rcases hDropped with hMalformed | hStale
          · cases hMalformed
          · rw [(push_of_ok_stale hPush hStale).2]
            rfl

/- Dropping what arrived changes the count of it only. -/
theorem withoutDropped_step_of_isDropped
    {r : Reassembler}
    {e : Event}
    (hDropped : (r.step e).1.IsDropped) :
    (r.step e).2.withoutDropped = r.withoutDropped := by
  cases e with
  | fragment f => exact withoutDropped_stepFragment hDropped
  | datagram bytes =>
      cases hDecode : Fragment.decode bytes with
      | error cause =>
          simp only [step, hDecode]
          rfl
      | ok f =>
          simp only [step, hDecode] at hDropped ⊢
          exact withoutDropped_stepFragment hDropped
  | malformed => rfl
  | reset => rcases hDropped with hNot | hNot <;> cases hNot

------------------------------------------------------------
-- Runs
------------------------------------------------------------

/-
  The events that are kept give the answers and states that
  they give in the whole run, from any two states that
  differ in the counts of what was dropped only.
-/
theorem run_kept
    {r s : Reassembler}
    (hSame : r.withoutDropped = s.withoutDropped)
    (es : List Event) :
    (s.run (r.kept es)).map visible =
        ((r.run es).filter
          (fun a => ¬ a.1.IsDropped)).map visible ∧
      (s.after (r.kept es)).withoutDropped =
        (r.after es).withoutDropped := by
  induction es generalizing r s with
  | nil => exact ⟨rfl, hSame.symm⟩
  | cons e es ih =>
      have hAfter :
          r.after (e :: es) = (r.step e).2.after es := rfl
      rw [hAfter, kept, Reassembler.run]
      by_cases hDropped : (r.step e).1.IsDropped
      -- Only the whole run takes this step.
      · have hStays :
            (r.step e).2.withoutDropped =
              s.withoutDropped := by
          rw [withoutDropped_step_of_isDropped hDropped,
            hSame]
        rw [if_pos hDropped, List.nil_append,
          List.filter_cons_of_neg (by simp [hDropped])]
        exact ih hStays
      · have hHere := visible_step_congr hSame e
        have hNext :
            (r.step e).2.withoutDropped =
              (s.step e).2.withoutDropped :=
          congrArg Prod.snd hHere
        rcases ih hNext with ⟨hAnswers, hState⟩
        rw [if_neg hDropped, List.singleton_append,
          List.filter_cons_of_pos (by simp [hDropped]),
          List.map_cons, ← hAnswers, hHere]
        exact ⟨rfl, hState⟩

/-
  In every state, the events of a run that are not answered
  by dropping what arrived give, by themselves, the answers
  and the states that they give in the whole run, apart from
  the counts of what was dropped.
-/
theorem dropped_leaves_no_trace
    (r : Reassembler)
    (es : List Event) :
    (r.run (r.kept es)).map visible =
        ((r.run es).filter
          (fun a => ¬ a.1.IsDropped)).map visible ∧
      (r.after (r.kept es)).withoutDropped =
        (r.after es).withoutDropped ∧
      (∀ f cause s, r.push f = (.error cause, s) →
        cause.IsMalformedFragment ∧
          s = { r with
            stats :=
              { r.stats with
                malformed := r.stats.malformed + 1 } }) ∧
      ∀ f ingest s, r.push f = (.ok ingest, s) →
        ingest.stale = true →
          ingest = { stale := true } ∧
            s = { r with
              stats :=
                { r.stats with
                  stale := r.stats.stale + 1 } } := by
  rcases run_kept (rfl : r.withoutDropped = _) es with
    ⟨hAnswers, hState⟩
  refine ⟨hAnswers, hState, ?_, ?_⟩
  · intro f cause s hPush
    rcases push_of_error hPush with ⟨hFault, hAfter⟩
    exact ⟨isMalformedFragment_of_fault? hFault, hAfter⟩
  · intro f ingest s hPush hStale
    exact push_of_ok_stale hPush hStale

/-
  In front of the fragment that completes a frame come one
  with another count, one of an older frame, one past its
  own count and something malformed, and behind it the same
  fragment again.
-/
theorem dropped_leaves_no_trace_amid_faults :
    let r := after {} [.fragment ⟨7, 0, 2, [1]⟩]
    let last : Event := .fragment ⟨7, 1, 2, [2]⟩
    let es : List Event :=
      [.fragment ⟨7, 1, 3, [9]⟩, .fragment ⟨6, 0, 1, [6]⟩,
        .fragment ⟨8, 2, 2, [8]⟩, .malformed, last, last]
    let changed := r.push ⟨7, 1, 3, [9]⟩
    let late := r.push ⟨6, 0, 1, [6]⟩
    r.kept es = [last] ∧
      (r.run [last]).map visible =
        ((r.run es).filter
          (fun a => ¬ a.1.IsDropped)).map visible ∧
      (r.after [last]).withoutDropped =
        (r.after es).withoutDropped ∧
      changed.1 = .error (.countMismatch 7 2 3) ∧
      (FrameError.countMismatch 7 2 3).IsMalformedFragment ∧
      changed.2.stats.malformed = 1 ∧
      late.1 = .ok { stale := true } ∧
      late.2.stats.stale = 1 := by
  intro r last es changed late
  rcases dropped_leaves_no_trace r es with
    ⟨hAnswers, hState, hRefused, hStale⟩
  have hKept : r.kept es = [last] := by
    decide
  have hChanged :
      changed =
        (.error (.countMismatch 7 2 3), changed.2) := by
    rfl
  have hLate :
      late = (.ok { stale := true }, late.2) := by
    rfl
  rcases hRefused _ _ _ hChanged with ⟨hCause, hMalformed⟩
  rcases hStale _ _ _ hLate rfl with ⟨_, hCounted⟩
  rw [hKept] at hAnswers hState
  refine
    ⟨hKept, hAnswers, hState, rfl, hCause, ?_, rfl, ?_⟩
  · rw [hMalformed]
    decide
  · rw [hCounted]
    decide

end Reassembler

end Reframe
