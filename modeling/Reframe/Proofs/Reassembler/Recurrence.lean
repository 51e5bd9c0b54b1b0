import Reframe.Proofs.Reassembler.Delivery

/-
  When a frame number is started again.

  A start moves ahead of the frame started last by less than
  half a lap, or it is a restart of the sender.  So without
  a reset and a restart, the distances of the starts add up
  to whole laps before a number comes back.

  Main declarations:
    * `Reassembler.Starts`
    * `Reassembler.IsRestart`
    * `Reassembler.advances`
    * `Reassembler.lastStarted_after`
    * `Reassembler.laps_of_starts`
    * `Reassembler.GivesUp`
    * `Reassembler.started_again_only_after_laps`
-/

namespace Reframe

namespace Reassembler

------------------------------------------------------------
-- Starts
------------------------------------------------------------

/- The event starts a frame. -/
def Starts
    (r : Reassembler)
    (e : Event)
    (frameId : UInt32) : Prop :=
  (r.step e).1.ingest.started = some frameId

instance
    (r : Reassembler)
    (e : Event)
    (frameId : UInt32) :
    Decidable (r.Starts e frameId) := by
  unfold Starts
  infer_instance

/-
  The event starts a frame that is at least the restart
  window and at most half a lap behind the one started last.
-/
def IsRestart
    (r : Reassembler)
    (e : Event) : Prop :=
  ∃ frameId previous window,
    r.Starts e frameId ∧
      r.lastStarted = some previous ∧
      r.config.restartWindow = some window ∧
      window.toNat ≤
        (Position.distance frameId previous).toNat ∧
      (Position.distance frameId previous).toNat ≤
        2147483648

/- One of the events is a restart of the sender. -/
def HasRestart
    (r : Reassembler)
    (es : List Event) : Prop :=
  ∃ front e back,
    es = front ++ e :: back ∧ (r.after front).IsRestart e

/-
  How far an event moves ahead: the distance from the frame
  started last to the one that it starts.
-/
def advance?
    (r : Reassembler)
    (e : Event) : Option Nat :=
  match (r.step e).1.ingest.started, r.lastStarted with
  | some frameId, some previous =>
      some (Position.distance previous frameId).toNat
  | _, _ => none

/- How far each start of a run moves ahead, in order. -/
def advances
    (r : Reassembler) : List Event → List Nat
| [] => []
| e :: es =>
    (r.advance? e).toList ++ advances (r.step e).2 es

/- The starts of two parts of a run. -/
theorem advances_append
    (r : Reassembler)
    (es es' : List Event) :
    r.advances (es ++ es') =
      r.advances es ++ (r.after es).advances es' := by
  induction es generalizing r with
  | nil => rfl
  | cons e es ih =>
      simp only [List.cons_append, advances, ih,
        List.append_assoc]
      rfl

/- The position of the frame tells a restart. -/
theorem isRestart_iff
    (r : Reassembler)
    (e : Event) :
    r.IsRestart e ↔
      (r.step e).1.ingest.started.map r.positionOf =
        some .restart := by
  rw [Option.map_eq_some_iff]
  constructor
  · rintro ⟨frameId, previous, w, hStarts, hLast, hWindow,
      hNear, hFar⟩
    rcases exists_of_started hStarts with
      ⟨_, _, _, _, hPosition, _⟩
    exact
      ⟨frameId, hStarts,
        (Position.of_eq_restart_iff hPosition).mpr
          ⟨previous, w, hLast, hWindow, hNear, hFar⟩⟩
  · rintro ⟨frameId, hStarts, hRestart⟩
    rcases exists_of_started hStarts with
      ⟨_, _, _, _, hPosition, _⟩
    rcases (Position.of_eq_restart_iff hPosition).mp
        hRestart with
      ⟨previous, w, hLast, hWindow, hNear, hFar⟩
    exact
      ⟨frameId, previous, w, hStarts, hLast, hWindow, hNear,
        hFar⟩

instance
    (r : Reassembler)
    (e : Event) :
    Decidable (r.IsRestart e) :=
  decidable_of_iff _ (r.isRestart_iff e).symm

/- A restart in a run comes first or later. -/
theorem hasRestart_cons
    (r : Reassembler)
    (e : Event)
    (es : List Event) :
    r.HasRestart (e :: es) ↔
      r.IsRestart e ∨ (r.step e).2.HasRestart es := by
  constructor
  · rintro ⟨front, e', back, hSplit, hRestart⟩
    cases front with
    | nil =>
        rcases List.cons.inj hSplit with ⟨rfl, rfl⟩
        exact Or.inl hRestart
    | cons first front =>
        rcases List.cons.inj hSplit with ⟨rfl, rfl⟩
        exact Or.inr ⟨front, e', back, rfl, hRestart⟩
  · rintro (hRestart | ⟨front, e', back, rfl, hRestart⟩)
    · exact ⟨[], e, es, rfl, hRestart⟩
    · exact ⟨e :: front, e', back, rfl, hRestart⟩

/- No event of a run is a restart if none of them is. -/
theorem not_hasRestart_cons
    {r : Reassembler}
    {e : Event}
    {es : List Event}
    (hNone : ¬ r.HasRestart (e :: es)) :
    ¬ r.IsRestart e ∧ ¬ (r.step e).2.HasRestart es := by
  rwa [hasRestart_cons, not_or] at hNone

instance decidableHasRestart :
    (r : Reassembler) → (es : List Event) →
      Decidable (r.HasRestart es)
| _, [] => isFalse (by
    rintro ⟨front, e, back, hSplit, _⟩
    simp at hSplit)
| r, e :: es =>
    have := decidableHasRestart (r.step e).2 es
    decidable_of_iff _ (r.hasRestart_cons e es).symm

/- Without a restart window there is no restart. -/
theorem not_hasRestart_of_window
    {r : Reassembler}
    (hWindow : r.config.restartWindow = none)
    (es : List Event) :
    ¬ r.HasRestart es := by
  rintro ⟨front, e, back, _, _, _, window, _, _, hSome, _⟩
  rw [config_after, hWindow] at hSome
  cases hSome

------------------------------------------------------------
-- The Frame Started Last
------------------------------------------------------------

/- A start that is no restart moves ahead. -/
theorem isForward_of_starts
    {r : Reassembler}
    {e : Event}
    {previous frameId : UInt32}
    (hLast : r.lastStarted = some previous)
    (hRestart : ¬ r.IsRestart e)
    (hStarts : r.Starts e frameId) :
    Position.IsForward
      (Position.distance previous frameId) := by
  rcases exists_of_started hStarts with
    ⟨_, _, _, _, hPosition, _⟩
  rw [positionOf, hLast] at hPosition
  rcases Position.cases_of_ne_stale hPosition with
    hForward | ⟨window, hWindow, hNear, hFar⟩
  · exact hForward
  · exact absurd
      ⟨frameId, previous, window, hStarts, hLast, hWindow,
        hNear, hFar⟩ hRestart

/-
  One event that is no reset and no restart: the frame
  started last stays or moves ahead by less than half a lap.
-/
theorem lastStarted_step_advance?
    {r : Reassembler}
    {e : Event}
    {previous : UInt32}
    (hLast : r.lastStarted = some previous)
    (hReset : e ≠ .reset)
    (hRestart : ¬ r.IsRestart e) :
    (r.step e).2.lastStarted =
        some
          (numberAt previous (r.advance? e).toList.sum) ∧
      ∀ d ∈ r.advance? e, 1 ≤ d ∧ d < 2147483648 := by
  cases hStarted : (r.step e).1.ingest.started with
  | none =>
      have hStays : r.advance? e = none := by
        simp [advance?, hStarted]
      rw [hStays, lastStarted_step hReset hStarted, hLast]
      simp [numberAt]
  | some frameId =>
      have hMoves :
          r.advance? e =
            some
              (Position.distance previous
                frameId).toNat := by
        simp [advance?, hStarted, hLast]
      have hForward :=
        isForward_of_starts hLast hRestart hStarted
      rcases exists_of_started hStarted with
        ⟨_, _, _, _, _, hAfter⟩
      rw [hMoves, hAfter]
      refine ⟨?_, ?_⟩
      · simp [numberAt_distance]
      · intro d hd
        rw [← Option.some.inj hd]
        exact hForward

/-
  A run without a reset and a restart: the frame started
  last is as far ahead as the starts moved it.
-/
theorem lastStarted_after
    {r : Reassembler}
    {es : List Event}
    {previous : UInt32}
    (hLast : r.lastStarted = some previous)
    (hReset : .reset ∉ es)
    (hRestart : ¬ r.HasRestart es) :
    (r.after es).lastStarted =
        some (numberAt previous (r.advances es).sum) ∧
      ∀ d ∈ r.advances es, 1 ≤ d ∧ d < 2147483648 := by
  induction es generalizing r previous with
  | nil => simp [after, advances, hLast, numberAt]
  | cons e es ih =>
      rw [List.mem_cons, not_or] at hReset
      rcases not_hasRestart_cons hRestart with
        ⟨hHere, hLater⟩
      rcases lastStarted_step_advance? hLast
          (Ne.symm hReset.1) hHere with ⟨hNext, hBounds⟩
      rcases ih hNext hReset.2 hLater with
        ⟨hAfter, hRest⟩
      refine ⟨?_, ?_⟩
      · rw [numberAt_numberAt] at hAfter
        rw [advances, List.sum_append]
        exact hAfter
      · intro d hd
        rw [advances, List.mem_append] at hd
        rcases hd with hHead | hTail
        · exact hBounds d (Option.mem_toList.mp hHead)
        · exact hRest d hTail

/-
  Between two starts of one number, without a reset and a
  restart, there are whole laps.
-/
theorem laps_of_starts
    {r : Reassembler}
    {between : List Event}
    {e : Event}
    {frameId : UInt32}
    (hLast : r.lastStarted = some frameId)
    (hStarts : (r.after between).Starts e frameId)
    (hReset : .reset ∉ between)
    (hRestart : ¬ r.HasRestart (between ++ [e])) :
    (∀ d ∈ r.advances (between ++ [e]),
        1 ≤ d ∧ d < 2147483648) ∧
      ∃ laps, 0 < laps ∧
        (r.advances (between ++ [e])).sum =
          laps * 4294967296 := by
  have hNoReset : .reset ∉ between ++ [e] := by
    rw [List.mem_append, List.mem_singleton, not_or]
    refine ⟨hReset, ?_⟩
    rintro rfl
    cases hStarts
  have hBetween : ¬ r.HasRestart between := by
    rintro ⟨front, e', back, rfl, hHere⟩
    exact hRestart
      ⟨front, e', back ++ [e], by simp, hHere⟩
  rcases lastStarted_after hLast hNoReset hRestart with
    ⟨hAfter, hBounds⟩
  refine ⟨hBounds, ?_⟩
  have hAgain :
      (r.after (between ++ [e])).lastStarted =
        some frameId := by
    rcases exists_of_started hStarts with
      ⟨_, _, _, _, _, hNow⟩
    rw [after_concat, hNow]
  rw [hAgain, Option.some.injEq, eq_comm] at hAfter
  rcases dvd_of_numberAt_eq hAfter with ⟨laps, hLaps⟩
  -- The last start moves ahead, so the sum is positive.
  have hMoved :
      ∃ d, (r.after between).advance? e = some d := by
    have hBefore :=
      (lastStarted_after hLast hReset hBetween).1
    have hStarted :
        ((r.after between).step e).1.ingest.started =
          some frameId := hStarts
    simp [advance?, hStarted, hBefore]
  rcases hMoved with ⟨d, hMoved⟩
  have hMember : d ∈ r.advances (between ++ [e]) := by
    simp [advances_append, advances, hMoved]
  have hPositive := (hBounds d hMember).1
  have hSum := List.le_sum_of_mem hMember
  refine ⟨laps, ?_, by omega⟩
  by_contra hZero
  have hNone : laps = 0 := by omega
  subst hNone
  omega

------------------------------------------------------------
-- Frames That Are Engaged
------------------------------------------------------------

/-
  The event finds a frame under assembly, or starts it.
-/
def Engages
    (r : Reassembler)
    (e : Event)
    (frameId : UInt32) : Prop :=
  r.liveFrameId = some frameId ∨ r.Starts e frameId

/- The frame of a fragment that is accepted is engaged. -/
theorem engages_of_accepted
    {r : Reassembler}
    {e : Event}
    {f : Fragment}
    (hAccepted : r.accepted? e = some f) :
    r.Engages e f.frameId := by
  by_cases hLive : r.liveFrameId = some f.frameId
  · exact Or.inl hLive
  · exact Or.inr (started_of_accepted hAccepted hLive)

/- A frame that is under assembly was engaged before. -/
theorem engages_of_live
    {r : Reassembler}
    {e : Event}
    {frameId : UInt32}
    (hLive : (r.step e).2.liveFrameId = some frameId) :
    r.Engages e frameId := by
  cases hAccepted : r.accepted? e with
  | none =>
      rcases step_of_accepted?_none hAccepted with
        hReset | ⟨_, hSame⟩
      · subst hReset
        cases hLive
      · apply Or.inl
        rw [← hLive, liveFrameId, liveFrameId,
          hSame.live_eq]
  | some f =>
      have hEngages := engages_of_accepted hAccepted
      cases outcome hAccepted with
      | dropped hNone _ _ =>
          simp [liveFrameId, hNone] at hLive
      | completed data hNone _ _ =>
          simp [liveFrameId, hNone] at hLive
      | underway hSome _ _ =>
          rw [hSome, Option.some.injEq] at hLive
          rwa [← hLive]

/- A frame that is completed was engaged, and then none is. -/
theorem engages_of_completed
    {r : Reassembler}
    {e : Event}
    {frame : CompletedFrame}
    (hCompleted :
      (r.step e).1.ingest.completed = some frame) :
    r.Engages e frame.frameId ∧
      (r.step e).2.live = none := by
  cases hAccepted : r.accepted? e with
  | none =>
      rcases step_of_accepted?_none hAccepted with
        hReset | ⟨hQuiet, _⟩
      · subst hReset
        cases hCompleted
      · rw [hQuiet.completed_eq] at hCompleted
        cases hCompleted
  | some f =>
      have hEngages := engages_of_accepted hAccepted
      cases outcome hAccepted with
      | dropped _ hNone _ =>
          rw [hNone] at hCompleted
          cases hCompleted
      | completed data hNone hSome _ =>
          rw [hSome, Option.some.injEq] at hCompleted
          rw [← hCompleted]
          exact ⟨hEngages, hNone⟩
      | underway _ hNone _ =>
          rw [hNone] at hCompleted
          cases hCompleted

/-
  A frame that is engaged, and was not under assembly at
  first, was started on the way.
-/
theorem exists_start_of_engages
    {r : Reassembler}
    {es : List Event}
    {e : Event}
    {frameId : UInt32}
    (hFirst : r.liveFrameId ≠ some frameId)
    (hEngages : (r.after es).Engages e frameId) :
    ∃ front start back,
      es ++ [e] = front ++ start :: back ∧
        (r.after front).Starts start frameId := by
  induction es using List.reverseRecOn generalizing e with
  | nil =>
      rcases hEngages with hLive | hStarts
      · exact absurd hLive hFirst
      · exact ⟨[], e, [], rfl, hStarts⟩
  | append_singleton es e' ih =>
      rcases hEngages with hLive | hStarts
      · rw [after_concat] at hLive
        rcases ih (engages_of_live hLive) with
          ⟨front, start, back, hSplit, hStarts⟩
        refine ⟨front, start, back ++ [e], ?_, hStarts⟩
        rw [hSplit, List.append_assoc, List.cons_append]
      · exact ⟨es ++ [e'], e, [], rfl, hStarts⟩

------------------------------------------------------------
-- Frames That Are Left
------------------------------------------------------------

/-
  The event takes a frame out of assembly without completing
  it: the frame gives way to another one, or is dropped for
  its size.
-/
def GivesUp
    (r : Reassembler)
    (e : Event)
    (frameId : UInt32) : Prop :=
  r.Engages e frameId ∧
    (r.step e).2.liveFrameId ≠ some frameId ∧
    ∀ frame, (r.step e).1.ingest.completed = some frame →
      frame.frameId ≠ frameId

/- A frame that is reported as abandoned is given up. -/
theorem givesUp_of_abandoned
    {r : Reassembler}
    {e : Event}
    {frameId : UInt32}
    (hAbandoned :
      (r.step e).1.ingest.abandoned = some frameId) :
    r.GivesUp e frameId := by
  cases hAccepted : r.accepted? e with
  | none =>
      rcases step_of_accepted?_none hAccepted with
        hReset | ⟨hQuiet, _⟩
      · subst hReset
        cases hAbandoned
      · rw [hQuiet.abandoned_eq] at hAbandoned
        cases hAbandoned
  | some f =>
      -- A frame that gives way is not the one of the fragment.
      have hRetired :
          r.retired f = some frameId →
            r.liveFrameId = some frameId ∧
              f.frameId ≠ frameId := by
        intro hSome
        unfold retired at hSome
        split at hSome
        · cases hSome
        · rename_i hOther
          refine ⟨hSome, ?_⟩
          rintro rfl
          exact hOther hSome
      cases outcome hAccepted with
      | dropped hLive hCompleted hDropped =>
          rw [hDropped, Option.some.injEq] at hAbandoned
          subst hAbandoned
          refine ⟨engages_of_accepted hAccepted, ?_, ?_⟩
          · simp [liveFrameId, hLive]
          · simp [hCompleted]
      | completed data hLive hCompleted hGives =>
          rw [hGives] at hAbandoned
          rcases hRetired hAbandoned with ⟨hWas, hOther⟩
          refine ⟨Or.inl hWas, ?_, ?_⟩
          · simp [liveFrameId, hLive]
          · simpa [hCompleted] using hOther
      | underway hLive hCompleted hGives =>
          rw [hGives] at hAbandoned
          rcases hRetired hAbandoned with ⟨hWas, hOther⟩
          refine ⟨Or.inl hWas, ?_, ?_⟩
          · simpa [hLive] using hOther
          · simp [hCompleted]

/- A frame that a run completes is completed at an event. -/
theorem exists_of_mem_completions
    {r : Reassembler}
    {es : List Event}
    {frame : CompletedFrame}
    (hMember : frame ∈ completions (r.run es)) :
    ∃ front e back,
      es = front ++ e :: back ∧
        ((r.after front).step e).1.ingest.completed =
          some frame := by
  induction es generalizing r with
  | nil => simp [Reassembler.run, completions] at hMember
  | cons e es ih =>
      rw [completions_run_cons, List.mem_append,
        Option.mem_toList] at hMember
      rcases hMember with hHere | hLater
      · exact ⟨[], e, es, rfl, hHere⟩
      · rcases ih hLater with
          ⟨front, e', back, rfl, hCompleted⟩
        exact ⟨e :: front, e', back, rfl, hCompleted⟩

/-
  Without a restart window and a reset, and in less than a
  lap, a frame that was under assembly and is so no more is
  not completed later.
-/
theorem not_completed_of_left
    {config : ReassemblerConfig}
    (hWindow : config.restartWindow = none)
    {before later : List Event}
    {e : Event}
    {frameId : UInt32}
    (hReset : .reset ∉ before ++ e :: later)
    (hLap :
      (advances { config := config }
        (before ++ e :: later)).sum < 4294967296)
    (hEngages :
      (after { config := config } before).Engages e frameId)
    (hLeft :
      (after { config := config }
        (before ++ [e])).liveFrameId ≠ some frameId) :
    ∀ frame ∈ completions
        ((after { config := config }
          (before ++ [e])).run later),
      frame.frameId ≠ frameId := by
  rintro frame hMember rfl
  rcases exists_of_mem_completions hMember with
    ⟨middle, e', rest, rfl, hCompleted⟩
  have hAgain := (engages_of_completed hCompleted).1
  rcases exists_start_of_engages (r := { config := config })
      (by simp [liveFrameId]) hEngages with
    ⟨front, first, back, hSplit, hFirst⟩
  rcases exists_start_of_engages hLeft hAgain with
    ⟨front', second, back', hSplit', hSecond⟩
  -- Both starts, with what lies between them.
  have hAll :
      before ++ e :: (middle ++ e' :: rest) =
        (front ++ [first]) ++
          (((back ++ front') ++ [second]) ++
            (back' ++ rest)) := by
    calc
      before ++ e :: (middle ++ e' :: rest)
        = (before ++ [e]) ++ ((middle ++ [e']) ++ rest) := by
          simp
      _ = (front ++ first :: back) ++
            ((front' ++ second :: back') ++ rest) := by
          rw [hSplit, hSplit']
      _ = _ := by simp
  have hState :
      (after { config := config }
          (front ++ [first])).after (back ++ front') =
        (after { config := config }
          (before ++ [e])).after front' := by
    rw [← after_append, ← after_append, hSplit]
    simp
  have hLast :
      (after { config := config }
        (front ++ [first])).lastStarted =
          some frame.frameId := by
    rcases exists_of_started hFirst with
      ⟨_, _, _, _, _, hNow⟩
    rw [after_concat, hNow]
  rw [hAll] at hReset hLap
  have hBetween : .reset ∉ back ++ front' := by
    intro hHere
    apply hReset
    simp only [List.mem_append] at hHere ⊢
    tauto
  have hWindow' :
      (after { config := config }
        (front ++ [first])).config.restartWindow = none := by
    rw [config_after]
    exact hWindow
  rw [← hState] at hSecond
  rcases laps_of_starts hLast hSecond hBetween
      (not_hasRestart_of_window hWindow' _) with
    ⟨_, laps, hPositive, hLaps⟩
  rw [advances_append _ (front ++ [first]),
    advances_append _ (back ++ front' ++ [second]),
    List.sum_append, List.sum_append, hLaps] at hLap
  omega

/-
  Without a restart window and a reset, and in less than a
  lap, no two frames are completed under one number.
-/
theorem nodup_completions
    {config : ReassemblerConfig}
    (hWindow : config.restartWindow = none)
    (before : List Event)
    {es : List Event}
    (hReset : .reset ∉ before ++ es)
    (hLap :
      (advances { config := config } (before ++ es)).sum <
        4294967296) :
    ((completions
        ((after { config := config } before).run es)).map
      CompletedFrame.frameId).Nodup := by
  induction es generalizing before with
  | nil => simp [Reassembler.run, completions]
  | cons e es ih =>
      have hSplit :
          before ++ e :: es = (before ++ [e]) ++ es := by
        simp
      have hRest :=
        ih (before ++ [e])
          (by rw [← hSplit]; exact hReset)
          (by rw [← hSplit]; exact hLap)
      rw [after_concat] at hRest
      rw [completions_run_cons, List.map_append]
      cases hCompleted :
          ((after { config := config } before).step
            e).1.ingest.completed with
      | none => exact hRest
      | some frame =>
          rcases engages_of_completed hCompleted with
            ⟨hEngages, hIdle⟩
          have hLeft :
              (after { config := config }
                (before ++ [e])).liveFrameId ≠
                  some frame.frameId := by
            rw [after_concat, liveFrameId, hIdle]
            simp
          have hLater :=
            not_completed_of_left hWindow hReset hLap
              hEngages hLeft
          rw [after_concat] at hLater
          rw [Option.toList_some, List.map_singleton,
            List.singleton_append, List.nodup_cons]
          refine ⟨?_, hRest⟩
          intro hMember
          rcases List.mem_map.mp hMember with
            ⟨other, hOther, hSame⟩
          exact hLater other hOther hSame

------------------------------------------------------------
-- Numbers That Come Back
------------------------------------------------------------

/-
  Between two starts of a number there is a reset, or a
  restart of the sender, or the starts move ahead by whole
  laps.  Without any of these, at most one frame is
  completed under each number, and a frame that was given up
  is not completed later.
-/
theorem started_again_only_after_laps
    (config : ReassemblerConfig) :
    (∀ before first between second frameId,
      let r := after { config := config } before
      let s := (r.step first).2
      r.Starts first frameId →
        (s.after between).Starts second frameId →
          .reset ∈ between ∨
            s.HasRestart (between ++ [second]) ∨
            (∀ d ∈ s.advances (between ++ [second]),
                1 ≤ d ∧ d < 2147483648) ∧
              ∃ laps, 0 < laps ∧
                (s.advances (between ++ [second])).sum =
                  laps * 4294967296) ∧
      (config.restartWindow = none →
        ∀ es, .reset ∉ es →
          (advances { config := config } es).sum <
            4294967296 →
            ((completions
                (run { config := config } es)).map
              CompletedFrame.frameId).Nodup ∧
              ∀ before e later frameId,
                es = before ++ e :: later →
                  ((after { config := config }
                      before).GivesUp e frameId ∨
                    ((after { config := config }
                        before).step
                      e).1.ingest.abandoned =
                        some frameId) →
                    ∀ frame ∈ completions
                        ((after { config := config }
                          (before ++ [e])).run later),
                      frame.frameId ≠ frameId) := by
  refine ⟨?_, ?_⟩
  · intro before first between second frameId r s hFirst
      hSecond
    by_cases hReset : .reset ∈ between
    · exact Or.inl hReset
    by_cases hRestart : s.HasRestart (between ++ [second])
    · exact Or.inr (Or.inl hRestart)
    · rcases exists_of_started hFirst with
        ⟨_, _, _, _, _, hLast⟩
      exact Or.inr (Or.inr
        (laps_of_starts hLast hSecond hReset hRestart))
  · intro hWindow es hReset hLap
    refine ⟨?_, ?_⟩
    · exact nodup_completions hWindow [] hReset hLap
    · rintro before e later frameId rfl hGone
      have hGivesUp :
          (after { config := config } before).GivesUp e
            frameId := by
        rcases hGone with hGone | hAbandoned
        · exact hGone
        · exact givesUp_of_abandoned hAbandoned
      refine not_completed_of_left hWindow hReset hLap
        hGivesUp.1 ?_
      rw [after_concat]
      exact hGivesUp.2.1

/-
  Three frames are one short of half a lap apart, and two
  numbers further on the first one comes back after a lap.
  In another run a frame gives way to the next one, and its
  last fragment comes late.
-/
theorem started_again_only_after_laps_full_lap :
    let config : ReassemblerConfig :=
      { restartWindow := none }
    let first : Event := .fragment ⟨0, 0, 1, [1]⟩
    let between : List Event :=
      [.fragment ⟨2147483647, 0, 1, [2]⟩,
        .fragment ⟨4294967294, 0, 1, [3]⟩]
    let s := (step { config := config } first).2
    let late : List Event :=
      [.fragment ⟨6, 0, 1, [6]⟩, .fragment ⟨5, 1, 2, [7]⟩]
    let t :=
      after { config := config }
        [.fragment ⟨5, 0, 2, [5]⟩, .fragment ⟨6, 0, 1, [6]⟩]
    Starts { config := config } first 0 ∧
      (s.after between).Starts first 0 ∧
      (∃ laps, 0 < laps ∧
        (s.advances (between ++ [first])).sum =
          laps * 4294967296) ∧
      ((completions
          (run { config := config }
            (.fragment ⟨5, 0, 2, [5]⟩ :: late))).map
        CompletedFrame.frameId).Nodup ∧
      ∀ frame ∈ completions
          (t.run [.fragment ⟨5, 1, 2, [7]⟩]),
        frame.frameId ≠ 5 := by
  intro config first between s late t
  have hFirst : Starts { config := config } first 0 := by
    decide
  have hSecond : (s.after between).Starts first 0 := by
    decide
  rcases started_again_only_after_laps config with
    ⟨hBack, hOnce⟩
  rcases hOnce rfl (.fragment ⟨5, 0, 2, [5]⟩ :: late)
      (by decide) (by decide) with ⟨hNodup, hNever⟩
  refine ⟨hFirst, hSecond, ?_, hNodup, ?_⟩
  · rcases hBack [] first between first 0 hFirst hSecond
      with hReset | hRestart | ⟨_, hLaps⟩
    · exact absurd hReset (by decide)
    · exact absurd hRestart
        (not_hasRestart_of_window rfl _)
    · exact hLaps
  · exact
      hNever [.fragment ⟨5, 0, 2, [5]⟩]
        (.fragment ⟨6, 0, 1, [6]⟩)
        [.fragment ⟨5, 1, 2, [7]⟩] 5 rfl
        (Or.inr (by decide))

end Reassembler

end Reframe
