import Reframe.Proofs.Reassembler.Abandonment
import Reframe.Proofs.Reassembler.Balance
import Reframe.Proofs.Reassembler.Resending

/-
  Whole frames arrive one after another, each with the
  number after the one in front of it, and nothing is lost,
  repeated or out of order.

  Every answer is then clean: the fragment is taken in, no
  frame is given up and none is missing.  The counts after
  clean answers are those of the fragments and of the frames
  that were completed, and nothing else.

  Main declarations:
    * `Reassembler.Answer.IsClean`
    * `Reassembler.stats_after_of_isClean`
    * `Reassembler.Expects`
    * `Reassembler.Expects.run_of_split`
-/

namespace Reframe

namespace Reassembler

------------------------------------------------------------
-- Clean Answers
------------------------------------------------------------

/-
  A fragment was put into its frame, and no other frame was
  given up or found missing.
-/
structure Answer.IsClean
    (answer : Answer) : Prop where
  accepted : answer.IsAccepted
  abandoned_eq : answer.ingest.abandoned = none
  gap_eq : answer.ingest.gap = none

/- What was put into its frame is well-formed and new. -/
theorem Answer.IsAccepted.counts_eq
    {answer : Answer}
    (hAccepted : answer.IsAccepted) :
    answer.isMalformed = false ∧
      answer.ingest.stale = false := by
  cases answer with
  | taken ingest => exact ⟨rfl, hAccepted⟩
  | refused cause => exact hAccepted.elim
  | recorded => exact hAccepted.elim
  | cleared => exact hAccepted.elim

/- A clean answer counts a fragment, and a frame if any. -/
theorem stats_step_of_isClean
    {r : Reassembler}
    {e : Event}
    (hClean : (r.step e).1.IsClean) :
    (r.step e).2.stats =
      { r.stats with
        fragments := r.stats.fragments + 1
        completed :=
          r.stats.completed +
            (r.step e).1.ingest.completed.toList.length } := by
  rcases r.tallies_step e with
    ⟨hFragments, hStale, hMalformed, hCompleted, hGaps,
      hMissing⟩
  rcases hClean.accepted.counts_eq with ⟨hWell, hNew⟩
  have hNone : r.losses e = [] := by
    rw [← List.getLast?_eq_none_iff,
      ← r.abandoned_eq_getLast? e]
    exact hClean.abandoned_eq
  have hAbandoned := r.abandoned_step e
  rw [hNone] at hAbandoned
  rw [if_pos hClean.accepted] at hFragments
  rw [hNew] at hStale
  rw [hWell] at hMalformed
  rw [hClean.gap_eq] at hGaps hMissing
  cases hStats : (r.step e).2.stats
  simp_all [missingIn]

/-
  After clean answers, the counts have gone up by the
  fragments that arrived and by the frames that they
  completed, and by nothing else.
-/
theorem stats_after_of_isClean
    {r : Reassembler}
    {es : List Event}
    (hClean : ∀ a ∈ r.run es, a.1.IsClean) :
    (r.after es).stats =
      { r.stats with
        fragments := r.stats.fragments + es.length
        completed :=
          r.stats.completed +
            (completions (r.run es)).length } := by
  induction es generalizing r with
  | nil => rfl
  | cons e es ih =>
      rw [Reassembler.run, List.forall_mem_cons] at hClean
      have hAfter :
          r.after (e :: es) = (r.step e).2.after es := rfl
      rw [hAfter, ih hClean.2,
        stats_step_of_isClean hClean.1, completions_run_cons,
        List.length_append, List.length_cons]
      simp only [ReassemblyStats.mk.injEq, and_true]
      omega

/-
  A run that reports one turn, at which nothing is given up
  or missing, reports nothing of the kind at all.
-/
theorem quiet_of_turns
    {answers : List (Answer × Reassembler)}
    {started : Option UInt32}
    (hTurns : turns answers = [⟨started, none, none⟩])
    {a : Answer × Reassembler}
    (hMember : a ∈ answers) :
    a.1.ingest.abandoned = none ∧
      a.1.ingest.gap = none := by
  cases hTurn : a.1.turn? with
  | none =>
      simp only [Answer.turn?] at hTurn
      split at hTurn
      · rename_i hNothing
        exact
          ⟨congrArg Turn.abandoned hNothing,
            congrArg Turn.gap hNothing⟩
      · cases hTurn
  | some turn =>
      have hReported : turn ∈ turns answers :=
        List.mem_filterMap.mpr ⟨a, hMember, hTurn⟩
      rw [hTurns, List.mem_singleton] at hReported
      simp only [Answer.turn?] at hTurn
      split at hTurn
      · cases hTurn
      · rw [hReported, Option.some.injEq] at hTurn
        exact
          ⟨congrArg Turn.abandoned hTurn,
            congrArg Turn.gap hTurn⟩

------------------------------------------------------------
-- One Frame
------------------------------------------------------------

/-
  The receiver has nothing under assembly, and the frame
  with this number may be started with none missing in front
  of it.
-/
structure Expects
    (r : Reassembler)
    (frameId : UInt32) : Prop where
  live_eq : r.live = none
  position_ne : r.positionOf frameId ≠ .stale
  gapBefore_eq : r.gapBefore frameId = none

/- A fresh receiver expects any number. -/
theorem expects_fresh
    (config : ReassemblerConfig)
    (frameId : UInt32) :
    Expects { config := config } frameId := by
  constructor <;>
    simp [gapBefore, positionOf, Position.of]

/- Once a frame is done, the next number is expected. -/
theorem expects_next
    {r : Reassembler}
    {frameId : UInt32}
    (hIdle : r.live = none)
    (hLast : r.lastStarted = some frameId) :
    r.Expects (frameId + 1) := by
  have hOne := Position.distance_succ frameId
  have hForward :
      Position.IsForward
        (Position.distance frameId (frameId + 1)) := by
    rw [hOne]
    decide
  have hPosition :
      r.positionOf (frameId + 1) = .ahead 0 := by
    rw [positionOf, hLast, Position.of_eq_ahead _ hForward,
      hOne]
    rfl
  refine ⟨hIdle, ?_, ?_⟩
  · rw [hPosition]
    simp
  · simp [gapBefore, hPosition, hLast]

section Split

variable {r : Reassembler} {frameId : UInt32}
variable {data : Bytes} {mtu : Nat} {fs : List Fragment}

/-
  Each fragment of a frame that may be started is put into
  it: the first one starts it, and any other finds those in
  front of it under assembly.
-/
theorem isAccepted_of_start
    (hSplit : Fragment.split frameId data mtu = .ok fs)
    (hSize : data.length ≤ r.config.maxFrameSize)
    (hOther : r.liveFrameId ≠ some frameId)
    (hPosition : r.positionOf frameId ≠ .stale)
    {a : Answer × Reassembler}
    (hMember : a ∈ r.run (fs.map .fragment)) :
    a.1.IsAccepted := by
  have hCut := Fragment.isCut_of_split hSplit
  rcases List.mem_iff_getElem?.mp hMember with ⟨i, hAt⟩
  rw [getElem?_run, List.getElem?_map, Option.map_map]
    at hAt
  rcases Option.map_eq_some_iff.mp hAt with ⟨f, hf, rfl⟩
  have hIn := List.mem_of_getElem? hf
  have hId := hCut.frameId_eq f hIn
  have hIndex := hCut.index_lt hIn
  simp only [Function.comp_apply, ← List.map_take]
  cases i with
  | zero =>
      have hFault : r.fault? f = none := by
        rw [fault?_eq_none_iff]
        refine ⟨hIndex, ?_⟩
        intro b hLive hSame
        apply absurd _ hOther
        rw [liveFrameId, hLive, Option.map_some, hSame, hId]
      have hPush :=
        push_of_starts hFault (by rwa [hId]) (by rwa [hId])
      simp [after, step, stepFragment, hPush, start_eq,
        Answer.IsAccepted, stale_store]
  | succ i =>
      have hLess := (List.getElem?_eq_some_iff.mp hf).1
      have hPart : fs.take (i + 1) ≠ fs := by
        intro hAll
        have hLength := congrArg List.length hAll
        rw [List.length_take] at hLength
        omega
      have hSome : fs.take (i + 1) ≠ [] := by
        apply List.ne_nil_of_length_pos
        rw [List.length_take]
        omega
      have hHolds :=
        (holds_of_start hSplit hSize hOther hPosition
          (List.take_prefix _ _) hPart hSome).2
      have hCount := hCut.count_eq f hIn
      rw [← toNat_length_of_isCut hCut] at hCount
      rw [hHolds.step_eq hId hCount (by rwa [← hCount])]
      exact stale_store _ _ _ _

/-
  A frame that is expected and arrives as a whole, in order:
  it is completed, every answer is clean, and the number
  after it is expected next.
-/
theorem Expects.run_of_split
    (hExpects : r.Expects frameId)
    (hSplit : Fragment.split frameId data mtu = .ok fs)
    (hSize : data.length ≤ r.config.maxFrameSize) :
    completions (r.run (fs.map .fragment)) =
        [⟨frameId, data⟩] ∧
      (∀ a ∈ r.run (fs.map .fragment), a.1.IsClean) ∧
      (r.after (fs.map .fragment)).Expects (frameId + 1) := by
  have hCut := Fragment.isCut_of_split hSplit
  have hIdle : r.liveFrameId = none := by
    rw [liveFrameId, hExpects.live_eq, Option.map_none]
  have hOther : r.liveFrameId ≠ some frameId := by
    rw [hIdle]
    simp
  have hCovers := covers_fragments fs
  rcases run_of_start hCut hSize hOther
      hExpects.position_ne (map_fragment_ne_nil hCut)
      (exists_fragment_of_mem_map (List.Subset.refl fs))
    with ⟨hTurns, hDone, hGathers⟩
  rw [hIdle, hExpects.gapBefore_eq] at hTurns
  rw [if_pos hCovers] at hDone
  refine ⟨hDone, ?_, ?_⟩
  · intro a hMember
    rcases quiet_of_turns hTurns hMember with
      ⟨hAbandoned, hGap⟩
    have hAccepted :=
      isAccepted_of_start hSplit hSize hOther
        hExpects.position_ne hMember
    exact ⟨hAccepted, hAbandoned, hGap⟩
  · exact
      expects_next (hGathers.live_of_covers hCovers)
        hGathers.lastStarted_eq

end Split

end Reassembler

end Reframe
