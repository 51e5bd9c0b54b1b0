import Reframe.Proofs.Reassembler.Delivery

/-
  What the counts of a reassembler say about its answers.
  Each answer adds to the counts what it reports, and every
  fragment or datagram is counted in one place: as taken in,
  as stale or as malformed.

  Main declarations:
    * `Reassembler.Answer.Tallies`
    * `Reassembler.tallies_step`
    * `Reassembler.arrivals_after`
    * `Reassembler.completed_after`
-/

namespace Reframe

------------------------------------------------------------
-- What One Answer Counts For
------------------------------------------------------------

/- The arrivals that were counted, each in one place. -/
def ReassemblyStats.arrivals
    (s : ReassemblyStats) : Nat :=
  s.fragments + s.stale + s.malformed

namespace Reassembler

/- The datagram or fragment was malformed. -/
def Answer.isMalformed : Answer → Bool
| .taken _ => false
| .refused _ => true
| .recorded => true
| .cleared => false

/- The number of frames that are missing in a gap. -/
def missingIn
    (gap : Option SequenceGap) : Nat :=
  (gap.map (·.missing.toNat)).getD 0

/-
  An answer adds to the counts what it reports.  Frames that
  are abandoned are counted too, but an answer reports one
  of them at most.
-/
structure Answer.Tallies
    (answer : Answer)
    (s t : ReassemblyStats) : Prop where
  fragments_eq :
    t.fragments =
      s.fragments + if answer.IsAccepted then 1 else 0
  stale_eq :
    t.stale = s.stale + answer.ingest.stale.toNat
  malformed_eq :
    t.malformed =
      s.malformed + answer.isMalformed.toNat
  completed_eq :
    t.completed =
      s.completed + answer.ingest.completed.toList.length
  gaps_eq :
    t.gaps = s.gaps + answer.ingest.gap.toList.length
  missing_eq :
    t.missing =
      s.missing + UInt64.ofNat (missingIn answer.ingest.gap)

/- A malformed arrival is counted as one. -/
theorem tallies_recordMalformed
    (r : Reassembler)
    (answer : Answer)
    (hMalformed : answer.isMalformed = true) :
    answer.Tallies r.stats r.recordMalformed.stats := by
  cases answer with
  | taken ingest => cases hMalformed
  | refused cause =>
      constructor <;>
        simp [recordMalformed, Answer.ingest,
          Answer.IsAccepted, Answer.isMalformed, missingIn]
  | recorded =>
      constructor <;>
        simp [recordMalformed, Answer.ingest,
          Answer.IsAccepted, Answer.isMalformed, missingIn]
  | cleared => cases hMalformed

/-
  A fragment that is stored adds one fragment, and one frame
  if it is complete.
-/
theorem tallies_store
    {r : Reassembler}
    {s : ReassemblyStats}
    {ingest : Ingest}
    (hTallies : (Answer.taken ingest).Tallies s
      { r.stats with fragments := r.stats.fragments + 1 })
    (hCompleted : ingest.completed = none)
    (a : Assembly)
    (f : Fragment) :
    (Answer.taken (r.store a f ingest).1).Tallies s
      (r.store a f ingest).2.stats := by
  rcases hTallies with
    ⟨hFragments, hStale, hMalformed, hBefore, hGaps,
      hMissing⟩
  rcases r.store_cases a f ingest with
    ⟨_, hStore⟩ | ⟨_, _, hStore⟩ | ⟨_, _, hStore⟩ <;>
    rw [hStore] <;>
    constructor <;>
    simp_all [Answer.ingest, Answer.IsAccepted,
      Answer.isMalformed]

/-
  Preparing a frame counts the gap in front of it and the
  frame that gives way.
-/
theorem stats_prepared
    (r : Reassembler)
    (f : Fragment) :
    (r.prepared f).stats =
      { r.stats with
        abandoned :=
          r.stats.abandoned + r.live.toList.length
        gaps :=
          r.stats.gaps +
            (r.gapBefore f.frameId).toList.length
        missing :=
          r.stats.missing +
            UInt64.ofNat
              (missingIn (r.gapBefore f.frameId)) } := by
  cases hGap : r.gapBefore f.frameId <;>
    cases hLive : r.live <;>
      simp [prepared, retireLive, recordGap, hGap, hLive,
        missingIn]

/- A fragment adds to the counts what it answers. -/
theorem tallies_stepFragment
    (r : Reassembler)
    (f : Fragment) :
    (r.stepFragment f).1.Tallies r.stats
      (r.stepFragment f).2.stats := by
  unfold stepFragment
  rcases r.push_cases f with
    ⟨cause, _, hPush⟩ | ⟨_, a, _, _, hPush⟩ |
    ⟨_, _, _, hPush⟩ | ⟨_, _, _, hPush⟩
  · rw [hPush]
    exact r.tallies_recordMalformed (.refused cause) rfl
  · rw [hPush]
    refine tallies_store ?_ rfl a f
    constructor <;>
      simp [Answer.ingest, Answer.IsAccepted,
        Answer.isMalformed, missingIn]
  · rw [hPush]
    constructor <;>
      simp [recordStale, Answer.ingest, Answer.IsAccepted,
        Answer.isMalformed, missingIn]
  · rw [hPush]
    dsimp only
    rw [start_eq]
    refine tallies_store ?_ rfl _ f
    rw [stats_prepared]
    constructor <;>
      simp [Answer.ingest, Answer.IsAccepted,
        Answer.isMalformed]

/- Every event adds to the counts what it answers. -/
theorem tallies_step
    (r : Reassembler)
    (e : Event) :
    (r.step e).1.Tallies r.stats (r.step e).2.stats := by
  cases e with
  | fragment f => exact r.tallies_stepFragment f
  | datagram bytes =>
      cases hDecode : Fragment.decode bytes with
      | error cause =>
          simp only [step, hDecode]
          exact
            r.tallies_recordMalformed (.refused cause) rfl
      | ok f =>
          simp only [step, hDecode]
          exact r.tallies_stepFragment f
  | malformed =>
      exact r.tallies_recordMalformed .recorded rfl
  | reset =>
      constructor <;>
        simp [step, reset, Answer.ingest, Answer.IsAccepted,
          Answer.isMalformed, missingIn]

/- Nothing but a reset is answered by forgetting. -/
theorem eq_reset_of_cleared
    {r : Reassembler}
    {e : Event}
    (hCleared : (r.step e).1 = .cleared) :
    e = .reset := by
  have hFragment :
      ∀ f, (r.stepFragment f).1 ≠ .cleared := by
    intro f
    unfold stepFragment
    split <;> simp
  cases e with
  | fragment f => exact absurd hCleared (hFragment f)
  | datagram bytes =>
      cases hDecode : Fragment.decode bytes with
      | error cause => simp [step, hDecode] at hCleared
      | ok f =>
          simp only [step, hDecode] at hCleared
          exact absurd hCleared (hFragment f)
  | malformed => cases hCleared
  | reset => rfl

/-
  Every event but a reset is counted in one place: what it
  brings is taken in, stale, or malformed.
-/
theorem arrivals_step
    (r : Reassembler)
    {e : Event}
    (hReset : e ≠ .reset) :
    (r.step e).2.stats.arrivals = r.stats.arrivals + 1 := by
  rcases r.tallies_step e with
    ⟨hFragments, hStale, hMalformed, -, -, -⟩
  have hOne :
      ((if (r.step e).1.IsAccepted then 1 else 0) +
          (r.step e).1.ingest.stale.toNat +
            (r.step e).1.isMalformed.toNat) =
        1 := by
    cases hAnswer : (r.step e).1 with
    | taken ingest =>
        cases hIngest : ingest.stale <;>
          simp [Answer.IsAccepted, Answer.isMalformed,
            Answer.ingest, hIngest]
    | refused cause =>
        simp [Answer.IsAccepted, Answer.isMalformed,
          Answer.ingest]
    | recorded =>
        simp [Answer.IsAccepted, Answer.isMalformed,
          Answer.ingest]
    | cleared => exact absurd (eq_reset_of_cleared hAnswer) hReset
  unfold ReassemblyStats.arrivals
  omega

------------------------------------------------------------
-- Runs
------------------------------------------------------------

/- All events of a run are counted. -/
theorem arrivals_after
    (r : Reassembler)
    {es : List Event}
    (hReset : .reset ∉ es) :
    (r.after es).stats.arrivals =
      r.stats.arrivals + es.length := by
  induction es using List.reverseRecOn with
  | nil => rfl
  | append_singleton es e ih =>
      rw [List.mem_append, List.mem_singleton, not_or]
        at hReset
      rw [after_concat,
        arrivals_step _ (Ne.symm hReset.2), ih hReset.1,
        List.length_append, List.length_singleton,
        Nat.add_assoc]

/- All frames that a run completes are counted. -/
theorem completed_after
    (r : Reassembler)
    (es : List Event) :
    (r.after es).stats.completed =
      r.stats.completed +
        (completions (r.run es)).length := by
  induction es using List.reverseRecOn with
  | nil => rfl
  | append_singleton es e ih =>
      rw [after_concat, (tallies_step _ e).completed_eq, ih,
        run_append, completions_append, completions_run_cons,
        List.length_append, List.length_append,
        Nat.add_assoc]
      rfl

end Reassembler

end Reframe
