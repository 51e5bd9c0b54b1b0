import Reframe.Proofs.Reassembler.Abandonment

/-
  How the counts of a reassembler balance with what its
  answers report, over any run.

  Every frame that is started is completed, abandoned,
  forgotten by a reset, or still under assembly.  From one
  start to the next the numbers move on by the frame that is
  started and by those that are reported missing in front of
  it, as long as the sender counts on.

  Main declarations:
    * `Reassembler.pushed`
    * `Reassembler.recordings`
    * `Reassembler.starts`
    * `Reassembler.gaps`
    * `Reassembler.missing`
    * `Reassembler.forgotten`
    * `Reassembler.frames_step`
    * `Reassembler.sum_advances`
    * `Reassembler.counts_balance`
-/

namespace Reframe

namespace Reassembler

------------------------------------------------------------
-- Arrivals
------------------------------------------------------------

/- The fragments that the events of a run bring. -/
def pushed
    (es : List Event) : List Fragment :=
  es.filterMap Event.fragment?

/- The event only records something malformed. -/
def Event.IsRecording
    (e : Event) : Prop :=
  e.fragment? = none ∧ e ≠ .reset

instance
    (e : Event) :
    Decidable e.IsRecording := by
  unfold Event.IsRecording
  infer_instance

/- How many events only record something malformed. -/
def recordings
    (es : List Event) : Nat :=
  es.countP (fun e => e.IsRecording)

/- Every event but a reset brings or records something. -/
theorem length_pushed_add_recordings_cons
    (e : Event)
    (es : List Event) :
    (pushed (e :: es)).length + recordings (e :: es) =
      (if e = .reset then 0 else 1) +
        ((pushed es).length + recordings es) := by
  cases hFragment : e.fragment? with
  | none =>
      have hPushed : pushed (e :: es) = pushed es :=
        List.filterMap_cons_none hFragment
      by_cases hReset : e = .reset
      · have hRecorded :
            recordings (e :: es) = recordings es :=
          List.countP_cons_of_neg
            (by simp [Event.IsRecording, hReset])
        rw [hPushed, hRecorded, if_pos hReset, Nat.zero_add]
      · have hRecorded :
            recordings (e :: es) = recordings es + 1 :=
          List.countP_cons_of_pos
            (by simp [Event.IsRecording, hFragment, hReset])
        rw [hPushed, hRecorded, if_neg hReset]
        omega
  | some f =>
      have hReset : e ≠ .reset := by
        rintro rfl
        cases hFragment
      have hPushed : pushed (e :: es) = f :: pushed es :=
        List.filterMap_cons_some hFragment
      have hRecorded :
          recordings (e :: es) = recordings es :=
        List.countP_cons_of_neg
          (by simp [Event.IsRecording, hFragment])
      rw [hPushed, hRecorded, if_neg hReset,
        List.length_cons]
      omega

/-
  In a run, every fragment that is brought and everything
  malformed that is recorded is counted in one place.
-/
theorem arrivals_eq
    (r : Reassembler)
    (es : List Event) :
    (r.after es).stats.arrivals =
      r.stats.arrivals +
        ((pushed es).length + recordings es) := by
  induction es generalizing r with
  | nil => rfl
  | cons e es ih =>
      have hAfter :
          r.after (e :: es) = (r.step e).2.after es := rfl
      rw [hAfter, ih, length_pushed_add_recordings_cons]
      by_cases hReset : e = .reset
      · subst hReset
        simp [step, reset]
      · rw [r.arrivals_step hReset, if_neg hReset,
          Nat.add_assoc]

------------------------------------------------------------
-- Frames That Are Started
------------------------------------------------------------

/- The frames that a run starts, in order. -/
def starts
    (answers : List (Answer × Reassembler)) : List UInt32 :=
  answers.filterMap (fun a => a.1.ingest.started)

/- The frame that the first event starts comes first. -/
theorem starts_run_cons
    (r : Reassembler)
    (e : Event)
    (es : List Event) :
    starts (r.run (e :: es)) =
      (r.step e).1.ingest.started.toList ++
        starts ((r.step e).2.run es) :=
  filterMap_run_cons (·.ingest.started) r e es

/- How many frames the resets of a run forget. -/
def forgotten
    (r : Reassembler) : List Event → Nat
| [] => 0
| e :: es =>
    (if e = .reset then r.live.toList.length else 0) +
      forgotten (r.step e).2 es

/-
  A fragment that is accepted has one frame that takes it,
  and the frame that gives way to this one, if any.
-/
theorem length_frames_of_accepted
    {r : Reassembler}
    {e : Event}
    {f : Fragment}
    (hAccepted : r.accepted? e = some f) :
    r.live.toList.length +
        (r.step e).1.ingest.started.toList.length =
      (r.retired f).toList.length + 1 := by
  by_cases hSame : r.liveFrameId = some f.frameId
  · rcases Option.map_eq_some_iff.mp hSame with
      ⟨a, hLive, _⟩
    have hStarted :
        (r.step e).1.ingest.started = none := by
      cases hSome : (r.step e).1.ingest.started with
      | none => rfl
      | some frameId =>
          rcases exists_of_started hSome with
            ⟨g, rfl, hAgain, hOther, _⟩
          rw [hAccepted, Option.some.injEq] at hAgain
          rw [← hAgain] at hOther
          exact absurd hSame hOther
    simp [retired, hSame, hLive, hStarted]
  · have hLength :
        r.liveFrameId.toList.length =
          r.live.toList.length := by
      rw [liveFrameId]
      cases r.live <;> rfl
    rw [started_of_accepted hAccepted hSame, retired,
      if_neg hSame, hLength]
    rfl

/-
  The frames that one event finds under assembly or starts
  are those that it completes, gives up, leaves under
  assembly, or forgets.
-/
theorem frames_step
    (r : Reassembler)
    (e : Event) :
    r.live.toList.length +
        (r.step e).1.ingest.started.toList.length =
      (r.step e).1.ingest.completed.toList.length +
        (r.losses e).length +
          (r.step e).2.live.toList.length +
            if e = .reset then r.live.toList.length
            else 0 := by
  cases hAccepted : r.accepted? e with
  | none =>
      have hNone : r.losses e = [] := by
        simp [losses, hAccepted]
      rw [hNone]
      by_cases hReset : e = .reset
      · subst hReset
        simp [step, reset, Answer.ingest]
      · rcases step_of_accepted?_none hAccepted with
          hIsReset | ⟨hQuiet, hSame⟩
        · exact absurd hIsReset hReset
        · rw [if_neg hReset, hQuiet.started_eq,
            hQuiet.completed_eq, hSame.live_eq]
          simp
  | some f =>
      have hReset : e ≠ .reset := by
        rintro rfl
        cases hAccepted
      rw [length_frames_of_accepted hAccepted,
        length_losses hAccepted, if_neg hReset]
      cases outcome hAccepted with
      | dropped hLive hCompleted _ =>
          simp [LeavesNothing, hLive, hCompleted]
      | completed data hLive hCompleted _ =>
          simp [LeavesNothing, hLive, hCompleted]
          omega
      | underway hLive hCompleted _ =>
          rcases Option.map_eq_some_iff.mp hLive with
            ⟨a, hSome, _⟩
          simp [LeavesNothing, hSome, hCompleted]

/-
  In a run, every frame that is started is completed, given
  up, forgotten, or still under assembly.
-/
theorem length_starts
    (r : Reassembler)
    (es : List Event) :
    r.live.toList.length + (starts (r.run es)).length +
        (r.stats.completed + r.stats.abandoned) =
      (r.after es).stats.completed +
        (r.after es).stats.abandoned +
          (r.after es).live.toList.length +
            r.forgotten es := by
  induction es generalizing r with
  | nil =>
      simp [starts, Reassembler.run, after, forgotten]
      omega
  | cons e es ih =>
      have hRest := ih (r.step e).2
      have hHere := r.frames_step e
      have hAfter :
          r.after (e :: es) = (r.step e).2.after es := rfl
      rw [abandoned_step, (r.tallies_step e).completed_eq]
        at hRest
      rw [hAfter, starts_run_cons, forgotten,
        List.length_append]
      omega

------------------------------------------------------------
-- Gaps
------------------------------------------------------------

/- The gaps that a run reports, in order. -/
def gaps
    (answers : List (Answer × Reassembler)) :
    List SequenceGap :=
  answers.filterMap (fun a => a.1.ingest.gap)

/- How many frames are missing in the gaps of a run. -/
def missing
    (answers : List (Answer × Reassembler)) : Nat :=
  ((gaps answers).map (·.missing.toNat)).sum

/- The gap that the first event reports comes first. -/
theorem gaps_run_cons
    (r : Reassembler)
    (e : Event)
    (es : List Event) :
    gaps (r.run (e :: es)) =
      (r.step e).1.ingest.gap.toList ++
        gaps ((r.step e).2.run es) :=
  filterMap_run_cons (·.ingest.gap) r e es

/- What is missing at the first event comes first. -/
theorem missing_run_cons
    (r : Reassembler)
    (e : Event)
    (es : List Event) :
    missing (r.run (e :: es)) =
      missingIn (r.step e).1.ingest.gap +
        missing ((r.step e).2.run es) := by
  rw [missing, gaps_run_cons, List.map_append,
    List.sum_append]
  cases (r.step e).1.ingest.gap <;> rfl

/- In a run, all gaps and what is missing are counted. -/
theorem gaps_after
    (r : Reassembler)
    (es : List Event) :
    (r.after es).stats.gaps =
        r.stats.gaps + (gaps (r.run es)).length ∧
      (r.after es).stats.missing =
        r.stats.missing +
          UInt64.ofNat (missing (r.run es)) := by
  induction es generalizing r with
  | nil => exact ⟨rfl, (UInt64.add_zero _).symm⟩
  | cons e es ih =>
      have hAfter :
          r.after (e :: es) = (r.step e).2.after es := rfl
      rcases ih (r.step e).2 with ⟨hGaps, hMissing⟩
      rw [hAfter, hGaps, hMissing,
        (r.tallies_step e).gaps_eq,
        (r.tallies_step e).missing_eq, gaps_run_cons,
        missing_run_cons, List.length_append,
        UInt64.ofNat_add, Nat.add_assoc, UInt64.add_assoc]
      exact ⟨rfl, rfl⟩

/-
  From the creation on, the count of missing frames is what
  is missing, up to laps of the word that counts it.
-/
theorem missingFrames_after
    (config : ReassemblerConfig)
    (es : List Event) :
    let x : Reassembler := { config := config }
    (x.after es).stats.missingFrames =
      missing (x.run es) % 2 ^ 64 := by
  intro x
  have hMissing := (x.gaps_after es).2
  rw [ReassemblyStats.missingFrames, hMissing]
  change (0 + UInt64.ofNat (missing (x.run es))).toNat = _
  rw [UInt64.zero_add, UInt64.toNat_ofNat']

------------------------------------------------------------
-- Numbers
------------------------------------------------------------

/- Storing a fragment reveals no gap. -/
theorem gap_store
    (r : Reassembler)
    (a : Assembly)
    (f : Fragment)
    (ingest : Ingest) :
    (r.store a f ingest).1.gap = ingest.gap := by
  rcases r.store_cases a f ingest with
    ⟨_, hStore⟩ | ⟨_, _, hStore⟩ | ⟨_, _, hStore⟩ <;>
    rw [hStore]

/- The gap that is reported is the one before the start. -/
theorem gap_step
    (r : Reassembler)
    (e : Event) :
    (r.step e).1.ingest.gap =
      (r.step e).1.ingest.started.bind r.gapBefore := by
  cases r.transition e with
  | dropped _ _ hQuiet _ =>
      rw [hQuiet.gap_eq, hQuiet.started_eq]
      rfl
  | cleared hReset =>
      subst hReset
      rfl
  | joined f a _ _ _ _ _ _ hStep =>
      rw [hStep, Answer.ingest, gap_store, started_store]
      rfl
  | started f _ _ _ _ _ hStep =>
      rw [hStep, start_eq, Answer.ingest, gap_store,
        started_store]
      rfl

/-
  A number is one further than those that are missing in
  front of it.
-/
theorem missingIn_gapBefore
    {r : Reassembler}
    {previous frameId : UInt32}
    (hLast : r.lastStarted = some previous)
    (hForward :
      Position.IsForward
        (Position.distance previous frameId)) :
    (Position.distance previous frameId).toNat =
      1 + missingIn (r.gapBefore frameId) := by
  have hPosition :
      r.positionOf frameId =
        .ahead (Position.distance previous frameId - 1) := by
    rw [positionOf, hLast]
    exact Position.of_eq_ahead _ hForward
  have hOne :
      (1 : UInt32) ≤ Position.distance previous frameId :=
    UInt32.le_iff_toNat_le.mpr hForward.1
  have hLess :
      (Position.distance previous frameId - 1).toNat =
        (Position.distance previous frameId).toNat - 1 :=
    UInt32.toNat_sub_of_le _ _ hOne
  have hPositive := hForward.1
  simp only [gapBefore, hPosition, hLast]
  by_cases hSome :
      0 < Position.distance previous frameId - 1
  · have hMissing :
        SequenceGap.missing ⟨previous, frameId⟩ =
          Position.distance previous frameId - 1 := rfl
    rw [if_pos hSome, missingIn, Option.map_some,
      Option.getD_some, hMissing, hLess]
    omega
  · rw [UInt32.lt_iff_toNat_lt, hLess] at hSome
    rw [if_neg (by
      rw [UInt32.lt_iff_toNat_lt, hLess]
      exact hSome)]
    simp [missingIn] at hSome ⊢
    omega

/-
  A start that is no restart moves on by its frame and by
  those that are missing in front of it.
-/
theorem sum_advance?
    {r : Reassembler}
    {e : Event}
    {previous : UInt32}
    (hLast : r.lastStarted = some previous)
    (hRestart : ¬ r.IsRestart e) :
    (r.advance? e).toList.sum =
      (r.step e).1.ingest.started.toList.length +
        missingIn (r.step e).1.ingest.gap := by
  rw [gap_step]
  cases hStarted : (r.step e).1.ingest.started with
  | none => simp [advance?, hStarted, missingIn]
  | some frameId =>
      have hForward :=
        isForward_of_starts hLast hRestart hStarted
      simp [advance?, hStarted, hLast,
        missingIn_gapBefore hLast hForward]

/-
  Without a reset and a restart, the starts of a run move on
  by their frames and by those that are missing.
-/
theorem sum_advances
    {r : Reassembler}
    {es : List Event}
    {previous : UInt32}
    (hLast : r.lastStarted = some previous)
    (hReset : .reset ∉ es)
    (hRestart : ¬ r.HasRestart es) :
    (r.advances es).sum =
      (starts (r.run es)).length + missing (r.run es) := by
  induction es generalizing r previous with
  | nil => rfl
  | cons e es ih =>
      rw [List.mem_cons, not_or] at hReset
      rcases not_hasRestart_cons hRestart with
        ⟨hHere, hLater⟩
      have hNext :=
        (lastStarted_step_advance? hLast
          (Ne.symm hReset.1) hHere).1
      rw [advances, List.sum_append,
        sum_advance? hLast hHere,
        ih hNext hReset.2 hLater, starts_run_cons,
        missing_run_cons, List.length_append]
      omega

------------------------------------------------------------
-- All Counts
------------------------------------------------------------

/-
  In every run, what arrives, what is started and what is
  missing is counted, the last of these in a word that wraps.
  From any start to the next reset or restart, the numbers
  of frames move on by the further starts and by what is
  reported missing.
-/
theorem counts_balance
    (config : ReassemblerConfig)
    (es : List Event) :
    let x : Reassembler := { config := config }
    let r := x.after es
    r.stats.fragments + r.stats.stale + r.stats.malformed =
        (pushed es).length + recordings es ∧
      (starts (x.run es)).length =
        r.stats.completed + r.stats.abandoned +
          r.live.toList.length + x.forgotten es ∧
      r.stats.gaps = (gaps (x.run es)).length ∧
      r.stats.missingFrames =
        missing (x.run es) % 2 ^ 64 ∧
      (missing (x.run es) < 2 ^ 64 →
        r.stats.missingFrames = missing (x.run es)) ∧
      ∀ before first rest later frameId,
        es = before ++ (first :: rest) ++ later →
          (x.after before).Starts first frameId →
            .reset ∉ rest →
              ¬ (x.after (before ++ [first])).HasRestart
                  rest →
                (x.after
                    (before ++ first :: rest)).lastStarted =
                  some (numberAt frameId
                    ((starts ((x.after before).run
                        (first :: rest))).length - 1 +
                      missing
                        ((x.after (before ++ [first])).run
                          rest))) := by
  intro x r
  have hArrivals := x.arrivals_eq es
  have hFrames := x.length_starts es
  have hGaps := (x.gaps_after es).1
  have hMissing : r.stats.missingFrames = _ :=
    missingFrames_after config es
  refine ⟨?_, ?_, ?_, hMissing, ?_, ?_⟩
  · simpa [x, ReassemblyStats.arrivals] using hArrivals
  · simpa [x] using hFrames
  · simpa [x] using hGaps
  · intro hBound
    rw [hMissing, Nat.mod_eq_of_lt hBound]
  · intro before first rest later frameId _ hStarts hReset
      hRestart
    rcases exists_of_started hStarts with
      ⟨_, _, _, _, _, hLast⟩
    rw [← after_concat] at hLast
    have hAfter :=
      (lastStarted_after hLast hReset hRestart).1
    have hSplit :
        x.after (before ++ first :: rest) =
          (x.after (before ++ [first])).after rest := by
      rw [← after_append, List.append_assoc]
      rfl
    have hCount :
        (starts
            ((x.after before).run (first :: rest))).length =
          1 + (starts
            ((x.after (before ++ [first])).run
              rest)).length := by
      rw [starts_run_cons, hStarts, after_concat,
        List.length_append]
      rfl
    rw [hSplit, hAfter,
      sum_advances hLast hReset hRestart, hCount,
      Nat.add_sub_cancel_left]

/-
  A frame is forgotten by a reset.  Then the numbers wrap
  over two missing frames while one frame arrives late and
  two give way, the second one to a restart of the sender.
-/
theorem counts_balance_across_wrap :
    let config : ReassemblerConfig :=
      { restartWindow := some 4 }
    let before : List Event :=
      [.fragment ⟨9, 0, 2, [1]⟩, .reset]
    let first : Event := .fragment ⟨4294967294, 0, 1, [2]⟩
    let rest : List Event :=
      [.fragment ⟨1, 0, 2, [3]⟩, .malformed,
        .fragment ⟨0, 0, 1, [4]⟩, .fragment ⟨2, 0, 2, [5]⟩]
    let later : List Event :=
      [.fragment ⟨4294967290, 0, 1, [6]⟩]
    let es := before ++ (first :: rest) ++ later
    let r := after { config := config } es
    let s := after { config := config } before
    let t := after { config := config } (before ++ [first])
    let u :=
      after { config := config } (before ++ first :: rest)
    s.Starts first 4294967294 ∧
      .reset ∉ rest ∧
      ¬ t.HasRestart rest ∧
      u.HasRestart later ∧
      r.stats.fragments + r.stats.stale +
          r.stats.malformed = 6 + 1 ∧
      5 = r.stats.completed + r.stats.abandoned + 0 + 1 ∧
      r.stats.gaps = 1 ∧
      r.stats.missingFrames = 2 ∧
      u.lastStarted =
        some (numberAt 4294967294 (3 - 1 + 2)) := by
  intro config before first rest later es r s t u
  rcases counts_balance config es with
    ⟨hArrivals, hFrames, hGaps, -, hMissing, hNumbers⟩
  have hStarts : s.Starts first 4294967294 := by
    decide
  have hReset : .reset ∉ rest := by
    decide
  have hRestart : ¬ t.HasRestart rest := by
    decide
  have hAgain : u.HasRestart later := by
    decide
  have hPushed : (pushed es).length = 6 := by
    decide
  have hRecorded : recordings es = 1 := by
    decide
  have hStarted :
      (starts (run { config := config } es)).length = 5 := by
    decide
  have hLive : r.live.toList.length = 0 := by
    decide
  have hForgotten :
      forgotten { config := config } es = 1 := by
    decide
  have hOne :
      (gaps (run { config := config } es)).length = 1 := by
    decide
  have hTwo :
      missing (run { config := config } es) = 2 := by
    decide
  have hBehind :
      (starts (s.run (first :: rest))).length = 3 := by
    decide
  have hBetween : missing (t.run rest) = 2 := by
    decide
  have hLast :=
    hNumbers before first rest later 4294967294 rfl hStarts
      hReset hRestart
  have hAfter : after { config := config } es = r := rfl
  rw [hAfter, hPushed, hRecorded] at hArrivals
  rw [hAfter, hStarted, hLive, hForgotten] at hFrames
  rw [hAfter, hOne] at hGaps
  rw [hAfter, hTwo] at hMissing
  have hCounted := hMissing (by decide)
  rw [hBehind, hBetween] at hLast
  exact
    ⟨hStarts, hReset, hRestart, hAgain, hArrivals, hFrames,
      hGaps, hCounted, hLast⟩

end Reassembler

end Reframe
