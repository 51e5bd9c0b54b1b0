import Reframe.Proofs.Reassembler.Counts
import Reframe.Proofs.Reassembler.Recurrence

/-
  Which frames that are given up are reported as abandoned.

  A fragment may take two frames out of assembly at once:
  the one that gives way, and the one that it starts, when
  this one is too large.  Both are counted, but an answer
  has room for one of them, and reports the second.

  Main declarations:
    * `Reassembler.losses`
    * `Reassembler.mem_losses_iff`
    * `Reassembler.abandoned_step`
    * `Reassembler.Overruns`
    * `Reassembler.abandoned_is_reported_unless_overrun`
-/

namespace Reframe

namespace Reassembler

------------------------------------------------------------
-- Frames That One Event Gives Up
------------------------------------------------------------

/-
  The event leaves no frame under assembly and completes
  none.
-/
def LeavesNothing
    (r : Reassembler)
    (e : Event) : Prop :=
  (r.step e).2.live = none ∧
    (r.step e).1.ingest.completed = none

instance
    (r : Reassembler)
    (e : Event) :
    Decidable (r.LeavesNothing e) := by
  unfold LeavesNothing
  infer_instance

/-
  The frames that a fragment takes out of assembly without
  completing them: the one that gives way to its frame, and
  its frame when this one is too large.
-/
def losses
    (r : Reassembler)
    (e : Event) : List UInt32 :=
  match r.accepted? e with
  | none => []
  | some f =>
      (r.retired f).toList ++
        if r.LeavesNothing e then [f.frameId] else []

/- The frame under assembly gives way to another one. -/
theorem retired_eq_some_iff
    (r : Reassembler)
    (f : Fragment)
    (frameId : UInt32) :
    r.retired f = some frameId ↔
      r.liveFrameId = some frameId ∧
        f.frameId ≠ frameId := by
  unfold retired
  split
  · rename_i hSame
    simp [hSame]
  · rename_i hOther
    simp only [iff_self_and]
    rintro hLive rfl
    exact hOther hLive

/-
  A fragment that is accepted engages its frame and the one
  that gives way to it, and no others.
-/
theorem engages_iff_of_accepted
    {r : Reassembler}
    {e : Event}
    {f : Fragment}
    (hAccepted : r.accepted? e = some f)
    (frameId : UInt32) :
    r.Engages e frameId ↔
      r.retired f = some frameId ∨ f.frameId = frameId := by
  rw [retired_eq_some_iff]
  constructor
  · rintro (hLive | hStarts)
    · by_cases hSame : f.frameId = frameId
      · exact Or.inr hSame
      · exact Or.inl ⟨hLive, hSame⟩
    · rcases exists_of_started hStarts with
        ⟨g, hId, hStarted, _⟩
      rw [hAccepted, Option.some.injEq] at hStarted
      rw [hStarted]
      exact Or.inr hId
  · rintro (⟨hLive, _⟩ | rfl)
    · exact Or.inl hLive
    · exact engages_of_accepted hAccepted

/- What becomes of the frames of an accepted fragment. -/
theorem losses_of_accepted
    {r : Reassembler}
    {e : Event}
    {f : Fragment}
    (hAccepted : r.accepted? e = some f) :
    (r.losses e =
        (r.retired f).toList ++ [f.frameId] ∧
      (r.step e).1.ingest.abandoned = some f.frameId) ∨
    (r.losses e = (r.retired f).toList ∧
      (r.step e).1.ingest.abandoned = r.retired f) := by
  cases outcome hAccepted with
  | dropped hLive hCompleted hAbandoned =>
      apply Or.inl
      simp [losses, hAccepted, LeavesNothing, hLive,
        hCompleted, hAbandoned]
  | completed data hLive hCompleted hAbandoned =>
      apply Or.inr
      simp [losses, hAccepted, LeavesNothing, hCompleted,
        hAbandoned]
  | underway hLive hCompleted hAbandoned =>
      apply Or.inr
      have hSome : (r.step e).2.live ≠ none := by
        intro hNone
        simp [liveFrameId, hNone] at hLive
      simp [losses, hAccepted, LeavesNothing, hSome,
        hAbandoned]

/- The answer reports the last frame that is given up. -/
theorem abandoned_eq_getLast?
    (r : Reassembler)
    (e : Event) :
    (r.step e).1.ingest.abandoned =
      (r.losses e).getLast? := by
  cases hAccepted : r.accepted? e with
  | none =>
      have hNone : r.losses e = [] := by
        simp [losses, hAccepted]
      rw [hNone]
      rcases step_of_accepted?_none hAccepted with
        hReset | ⟨hQuiet, _⟩
      · subst hReset
        rfl
      · exact hQuiet.abandoned_eq
  | some f =>
      rcases losses_of_accepted hAccepted with
        ⟨hLosses, hAbandoned⟩ | ⟨hLosses, hAbandoned⟩
      · rw [hLosses, hAbandoned, List.getLast?_concat]
      · rw [hLosses, hAbandoned]
        cases r.retired f <;> rfl

/- Without an accepted fragment, only a reset gives up. -/
theorem not_givesUp_of_accepted?_none
    {r : Reassembler}
    {e : Event}
    (hAccepted : r.accepted? e = none)
    (hReset : e ≠ .reset)
    (frameId : UInt32) :
    ¬ r.GivesUp e frameId := by
  rcases step_of_accepted?_none hAccepted with
    hIsReset | ⟨hQuiet, hSame⟩
  · exact absurd hIsReset hReset
  · rintro ⟨hLive | hStarts, hLeft, _⟩
    · apply hLeft
      rw [liveFrameId, hSame.live_eq]
      exact hLive
    · rw [Starts, hQuiet.started_eq] at hStarts
      cases hStarts

/-
  These are the frames that are given up, by anything but a
  reset.
-/
theorem mem_losses_iff
    (r : Reassembler)
    (e : Event)
    (frameId : UInt32) :
    frameId ∈ r.losses e ↔
      e ≠ .reset ∧ r.GivesUp e frameId := by
  cases hAccepted : r.accepted? e with
  | none =>
      have hNone : r.losses e = [] := by
        simp [losses, hAccepted]
      rw [hNone]
      simp only [List.not_mem_nil, false_iff, not_and]
      intro hReset
      exact
        not_givesUp_of_accepted?_none hAccepted hReset
          frameId
  | some f =>
      have hReset : e ≠ .reset := by
        rintro rfl
        cases hAccepted
      have hOther := r.retired_eq_some_iff f frameId
      simp only [GivesUp, hReset, ne_eq, not_false_eq_true,
        true_and, engages_iff_of_accepted hAccepted]
      cases outcome hAccepted with
      | dropped hLive hCompleted _ =>
          simp [losses, hAccepted, LeavesNothing, hLive,
            hCompleted, liveFrameId, eq_comm]
      | completed data hLive hCompleted _ =>
          have hLosses :
              r.losses e = (r.retired f).toList := by
            simp [losses, hAccepted, LeavesNothing,
              hCompleted]
          rw [hLosses, Option.mem_toList]
          simp only [liveFrameId, hLive, hCompleted,
            Option.map_none, reduceCtorEq,
            not_false_eq_true, true_and,
            Option.some.injEq, forall_eq']
          tauto
      | underway hLive hCompleted _ =>
          have hSome : (r.step e).2.live ≠ none := by
            intro hNone
            simp [liveFrameId, hNone] at hLive
          have hLosses :
              r.losses e = (r.retired f).toList := by
            simp [losses, hAccepted, LeavesNothing, hSome]
          rw [hLosses, Option.mem_toList]
          simp only [hLive, hCompleted, Option.some.injEq,
            reduceCtorEq, IsEmpty.forall_iff, implies_true,
            and_true]
          tauto

------------------------------------------------------------
-- What Is Counted
------------------------------------------------------------

/- The number of frames that an accepted fragment gives up. -/
theorem length_losses
    {r : Reassembler}
    {e : Event}
    {f : Fragment}
    (hAccepted : r.accepted? e = some f) :
    (r.losses e).length =
      (r.retired f).toList.length +
        if r.LeavesNothing e then 1 else 0 := by
  rw [losses, hAccepted]
  dsimp only
  rw [List.length_append]
  split <;> rfl

/- A fragment that is stored counts its frame if too large. -/
theorem abandoned_of_store
    {r base : Reassembler}
    {e : Event}
    {f : Fragment}
    {a : Assembly}
    {ingest : Ingest}
    (hNew : ingest.completed = none)
    (hStep :
      r.step e =
        (.taken (store base a f ingest).1,
          (store base a f ingest).2)) :
    (r.step e).2.stats.abandoned =
      base.stats.abandoned +
        if r.LeavesNothing e then 1 else 0 := by
  rcases base.store_cases a f ingest with
    ⟨_, hStore⟩ | ⟨_, _, hStore⟩ | ⟨_, _, hStore⟩ <;>
    simp [LeavesNothing, hStep, hStore, Answer.ingest, hNew]

/- Without an accepted fragment no frame is counted. -/
theorem abandoned_of_accepted?_none
    {r : Reassembler}
    {e : Event}
    (hAccepted : r.accepted? e = none) :
    (r.step e).2.stats.abandoned = r.stats.abandoned := by
  cases hFragment : e.fragment? with
  | none =>
      by_cases hReset : e = .reset
      · subst hReset
        rfl
      · rw [(r.step_of_fragment?_none hFragment hReset).2.2]
        rfl
  | some f =>
      have hStep := r.step_of_fragment? hFragment
      rw [stepFragment] at hStep
      rcases r.push_cases f with
        ⟨cause, _, hPush⟩ | ⟨_, a, _, _, hPush⟩ |
        ⟨_, _, _, hPush⟩ | ⟨_, _, _, hPush⟩ <;>
        rw [hPush] at hStep
      · rw [hStep]
        rfl
      · simp [accepted?, hStep, Answer.IsAccepted,
          stale_store, hFragment] at hAccepted
      · rw [hStep]
        rfl
      · simp [accepted?, hStep, Answer.IsAccepted, start_eq,
          stale_store, hFragment] at hAccepted

/- Every frame that is given up is counted. -/
theorem abandoned_step
    (r : Reassembler)
    (e : Event) :
    (r.step e).2.stats.abandoned =
      r.stats.abandoned + (r.losses e).length := by
  cases r.transition e with
  | dropped _ hNone _ _ =>
      rw [abandoned_of_accepted?_none hNone, losses, hNone]
      rfl
  | cleared hReset =>
      subst hReset
      rfl
  | joined f a _ hAccepted _ hLive hId _ hStep =>
      have hStays : r.retired f = none := by
        simp [retired, liveFrameId, hLive, hId]
      rw [abandoned_of_store rfl hStep,
        length_losses hAccepted, hStays, Option.toList_none,
        List.length_nil, Nat.zero_add]
  | started f _ hAccepted _ hOther _ hStep =>
      have hGives :
          (r.retired f).toList.length =
            r.live.toList.length := by
        rw [retired, if_neg hOther, liveFrameId]
        cases r.live <;> rfl
      rw [start_eq] at hStep
      rw [abandoned_of_store rfl hStep,
        length_losses hAccepted, hGives, stats_prepared,
        Nat.add_assoc]

------------------------------------------------------------
-- Two Frames At Once
------------------------------------------------------------

/-
  A frame is under assembly, and the event starts another
  one in its place and gives this one up as well.
-/
def Overruns
    (r : Reassembler)
    (e : Event) : Prop :=
  r.liveFrameId.isSome ∧
    ∃ frameId, r.Starts e frameId ∧ r.GivesUp e frameId

/- Only such an event gives up two frames. -/
theorem overruns_iff
    (r : Reassembler)
    (e : Event) :
    r.Overruns e ↔ (r.losses e).length = 2 := by
  constructor
  · rintro ⟨hSome, frameId, hStarts, hGivesUp⟩
    rcases exists_of_started hStarts with
      ⟨f, rfl, hAccepted, hOther, _⟩
    have hReset : e ≠ .reset := by
      rintro rfl
      cases hStarts
    have hMember :=
      (r.mem_losses_iff e f.frameId).mpr ⟨hReset, hGivesUp⟩
    have hRetired : r.retired f = r.liveFrameId := by
      rw [retired, if_neg hOther]
    rcases losses_of_accepted hAccepted with
      ⟨hLosses, _⟩ | ⟨hLosses, _⟩
    · rcases Option.isSome_iff_exists.mp hSome with
        ⟨old, hOld⟩
      simp [hLosses, hRetired, hOld]
    · rw [hLosses, hRetired, Option.mem_toList] at hMember
      exact absurd hMember hOther
  · intro hTwo
    cases hAccepted : r.accepted? e with
    | none => simp [losses, hAccepted] at hTwo
    | some f =>
        rcases losses_of_accepted hAccepted with
          ⟨hLosses, _⟩ | ⟨hLosses, _⟩
        · cases hRetired : r.retired f with
          | none => simp [hLosses, hRetired] at hTwo
          | some old =>
              rw [retired_eq_some_iff] at hRetired
              rcases hRetired with ⟨hLive, hId⟩
              have hStarts : r.Starts e f.frameId := by
                apply started_of_accepted hAccepted
                rw [hLive, ne_eq, Option.some.injEq]
                exact Ne.symm hId
              have hMember : f.frameId ∈ r.losses e := by
                simp [hLosses]
              rw [mem_losses_iff] at hMember
              exact
                ⟨by simp [hLive], f.frameId, hStarts,
                  hMember.2⟩
        · rw [hLosses] at hTwo
          have hOne : (r.retired f).toList.length ≤ 1 := by
            cases r.retired f <;> simp
          omega

instance
    (r : Reassembler)
    (e : Event) :
    Decidable (r.Overruns e) :=
  decidable_of_iff _ (r.overruns_iff e).symm

/-
  Of the frames that an event gives up one is reported, and
  a second one is not.
-/
theorem length_losses_eq
    (r : Reassembler)
    (e : Event) :
    (r.losses e).length =
      (r.step e).1.ingest.abandoned.toList.length +
        if r.Overruns e then 1 else 0 := by
  simp only [overruns_iff, abandoned_eq_getLast?]
  cases hAccepted : r.accepted? e with
  | none => simp [losses, hAccepted]
  | some f =>
      rcases losses_of_accepted hAccepted with
        ⟨hLosses, _⟩ | ⟨hLosses, _⟩ <;>
        rw [hLosses] <;>
        cases r.retired f <;>
          simp

------------------------------------------------------------
-- Runs
------------------------------------------------------------

/- The frames that a run reports as abandoned, in order. -/
def abandonments
    (answers : List (Answer × Reassembler)) : List UInt32 :=
  answers.filterMap (fun a => a.1.ingest.abandoned)

/- How many events of a run give up two frames at once. -/
def overruns
    (r : Reassembler) : List Event → Nat
| [] => 0
| e :: es =>
    (if r.Overruns e then 1 else 0) +
      overruns (r.step e).2 es

/- What the first event reports comes first. -/
theorem abandonments_run_cons
    (r : Reassembler)
    (e : Event)
    (es : List Event) :
    abandonments (r.run (e :: es)) =
      (r.step e).1.ingest.abandoned.toList ++
        abandonments ((r.step e).2.run es) :=
  filterMap_run_cons (·.ingest.abandoned) r e es

/-
  All frames that a run gives up are counted, and all but
  one of each two are reported.
-/
theorem abandoned_after
    (r : Reassembler)
    (es : List Event) :
    (r.after es).stats.abandoned =
      r.stats.abandoned +
        ((abandonments (r.run es)).length +
          r.overruns es) := by
  induction es generalizing r with
  | nil => rfl
  | cons e es ih =>
      have hRest := ih (r.step e).2
      rw [abandoned_step, length_losses_eq] at hRest
      rw [abandonments_run_cons, List.length_append,
        overruns]
      have hAfter :
          r.after (e :: es) = (r.step e).2.after es := rfl
      rw [hAfter, hRest]
      omega

/-
  A frame that is given up is reported, or it gave way to a
  frame that is given up as well and reported instead.
-/
theorem reported_or_overruns
    {r : Reassembler}
    {e : Event}
    {frameId : UInt32}
    (hReset : e ≠ .reset)
    (hGivesUp : r.GivesUp e frameId) :
    (r.step e).1.ingest.abandoned = some frameId ∨
      r.Overruns e ∧ r.liveFrameId = some frameId ∧
        ∃ other, other ≠ frameId ∧
          r.Starts e other ∧ r.GivesUp e other ∧
          (r.step e).1.ingest.abandoned = some other := by
  have hMember :=
    (r.mem_losses_iff e frameId).mpr ⟨hReset, hGivesUp⟩
  cases hAccepted : r.accepted? e with
  | none => simp [losses, hAccepted] at hMember
  | some f =>
      rcases losses_of_accepted hAccepted with
        ⟨hLosses, hAbandoned⟩ | ⟨hLosses, hAbandoned⟩
      · by_cases hSame : f.frameId = frameId
        · rw [← hSame]
          exact Or.inl hAbandoned
        · apply Or.inr
          have hLive : r.liveFrameId = some frameId := by
            rw [hLosses, List.mem_append, List.mem_singleton,
              Option.mem_toList] at hMember
            rcases hMember with hRetired | hHere
            · exact
                ((r.retired_eq_some_iff f frameId).mp
                  hRetired).1
            · exact absurd hHere.symm hSame
          have hStarts : r.Starts e f.frameId := by
            apply started_of_accepted hAccepted
            rw [hLive, ne_eq, Option.some.injEq, eq_comm]
            exact hSame
          have hLost : f.frameId ∈ r.losses e := by
            simp [hLosses]
          rw [mem_losses_iff] at hLost
          exact
            ⟨⟨by simp [hLive], f.frameId, hStarts, hLost.2⟩,
              hLive, f.frameId, hSame, hStarts, hLost.2,
              hAbandoned⟩
      · rw [hLosses, Option.mem_toList] at hMember
        exact Or.inl (hAbandoned.trans hMember)

/-
  Each frame that is given up is counted.  A frame that an
  arriving fragment takes out of assembly without completing
  it is reported by the answer to this fragment, unless it
  gave way to a frame that is given up as well; then the
  answer reports that one.
-/
theorem abandoned_is_reported_unless_overrun
    (config : ReassemblerConfig)
    (es : List Event) :
    let r := after { config := config } es
    r.stats.abandoned =
        (abandonments (run { config := config } es)).length +
          overruns { config := config } es ∧
      ∀ e, e ≠ .reset → ∀ frameId,
        ((r.step e).1.ingest.abandoned = some frameId →
          r.GivesUp e frameId) ∧
        (r.GivesUp e frameId →
          (r.step e).1.ingest.abandoned = some frameId ∨
            r.Overruns e ∧ r.liveFrameId = some frameId ∧
              ∃ other, other ≠ frameId ∧
                r.Starts e other ∧ r.GivesUp e other ∧
                (r.step e).1.ingest.abandoned =
                  some other) := by
  intro r
  refine ⟨?_, ?_⟩
  · have hAll := abandoned_after { config := config } es
    simpa using hAll
  · intro e hReset frameId
    exact
      ⟨givesUp_of_abandoned, reported_or_overruns hReset⟩

/-
  A frame gives way to one of a single fragment, and another
  one to a frame that is too large.  Four frames come to two
  reports and three losses.
-/
theorem abandoned_is_reported_unless_overrun_at_once :
    let config : ReassemblerConfig := { maxFrameSize := 2 }
    let es : List Event :=
      [.fragment ⟨1, 0, 2, [1]⟩, .fragment ⟨2, 0, 1, [2]⟩,
        .fragment ⟨3, 0, 2, [3]⟩]
    let e : Event := .fragment ⟨4, 0, 2, [4, 5, 6]⟩
    let r := after { config := config } es
    e ≠ .reset ∧
      r.GivesUp e 3 ∧
      r.GivesUp e 4 ∧
      r.Overruns e ∧
      (r.step e).1.ingest.abandoned = some 4 ∧
      (abandonments
        (run { config := config } (es ++ [e]))).length = 2 ∧
      (after { config := config }
        (es ++ [e])).stats.abandoned = 2 + 1 := by
  intro config es e r
  have hReset : e ≠ .reset := by
    decide
  have hGivesUp : ∀ frameId,
      frameId ∈ r.losses e → r.GivesUp e frameId :=
    fun frameId hLost =>
      ((r.mem_losses_iff e frameId).mp hLost).2
  have hThree := hGivesUp 3 (by decide)
  rcases abandoned_is_reported_unless_overrun config es with
    ⟨_, hReports⟩
  have hAll :=
    (abandoned_is_reported_unless_overrun config
      (es ++ [e])).1
  have hTwo :
      (abandonments
        (run { config := config } (es ++ [e]))).length =
          2 := by
    decide
  have hOne :
      overruns { config := config } (es ++ [e]) = 1 := by
    decide
  rw [hTwo, hOne] at hAll
  rcases (hReports e hReset 3).2 hThree with
    hReported | ⟨hOverruns, _⟩
  · exact absurd hReported (by decide)
  · exact
      ⟨hReset, hThree, hGivesUp 4 (by decide), hOverruns,
        by decide, hTwo, hAll⟩

/-
  A frame gives way to one that is too large, and only this
  one is reported.
-/
theorem not_all_abandoned_reported :
    ¬ ∀ (config : ReassemblerConfig) (es : List Event),
        (abandonments (run { config := config } es)).length =
            (after { config := config } es).stats.abandoned ∧
          ∀ before e later frameId,
            es = before ++ e :: later → e ≠ .reset →
              (after { config := config } before).GivesUp e
                frameId →
                ((after { config := config } before).step
                  e).1.ingest.abandoned = some frameId := by
  intro hAll
  have hCount :=
    (hAll { maxFrameSize := 1 }
      [.fragment ⟨0, 0, 2, [1]⟩,
        .fragment ⟨1, 0, 2, [2, 3]⟩]).1
  revert hCount
  decide

end Reassembler

end Reframe
