import Reframe.Proofs.Reassembler.Arrival

/-
  What a run says about one frame of which only fragments
  arrive: it turns to the frame once, and completes it once
  if none of its fragments is missing.

  Main declarations:
    * `Reassembler.turns`
    * `Reassembler.completions`
    * `Reassembler.Gathers.run`
    * `Reassembler.run_of_start`
-/

namespace Reframe

namespace Reassembler

------------------------------------------------------------
-- What A Run Says
------------------------------------------------------------

/- What an answer says about the turn to another frame. -/
structure Turn where
  started : Option UInt32
  abandoned : Option UInt32
  gap : Option SequenceGap
deriving DecidableEq, Repr

/- The turn of an answer, if it says anything about one. -/
def Answer.turn?
    (answer : Answer) : Option Turn :=
  let turn : Turn :=
    { started := answer.ingest.started
      abandoned := answer.ingest.abandoned
      gap := answer.ingest.gap }
  if turn = ⟨none, none, none⟩ then none else some turn

/- The turns that a run reports, in order. -/
def turns
    (answers : List (Answer × Reassembler)) : List Turn :=
  answers.filterMap (fun a => a.1.turn?)

/- The frames that a run completes, in order. -/
def completions
    (answers : List (Answer × Reassembler)) :
    List CompletedFrame :=
  answers.filterMap (fun a => a.1.ingest.completed)

/- The turns of two parts of a run. -/
theorem turns_append
    (answers answers' : List (Answer × Reassembler)) :
    turns (answers ++ answers') =
      turns answers ++ turns answers' :=
  List.filterMap_append

/- The completed frames of two parts of a run. -/
theorem completions_append
    (answers answers' : List (Answer × Reassembler)) :
    completions (answers ++ answers') =
      completions answers ++ completions answers' :=
  List.filterMap_append

/- The turn of the first event comes first. -/
theorem turns_run_cons
    (r : Reassembler)
    (e : Event)
    (es : List Event) :
    turns (r.run (e :: es)) =
      (r.step e).1.turn?.toList ++
        turns ((r.step e).2.run es) :=
  filterMap_run_cons Answer.turn? r e es

/- What the first event completes comes first. -/
theorem completions_run_cons
    (r : Reassembler)
    (e : Event)
    (es : List Event) :
    completions (r.run (e :: es)) =
      (r.step e).1.ingest.completed.toList ++
        completions ((r.step e).2.run es) :=
  filterMap_run_cons (·.ingest.completed) r e es

/- An answer that only completes a frame is no turn. -/
theorem Answer.OnlyCompletes.turn?_eq
    {answer : Answer}
    {completed : Option CompletedFrame}
    (hSays : answer.OnlyCompletes completed) :
    answer.turn? = none := by
  simp [Answer.turn?, hSays.started_eq, hSays.abandoned_eq,
    hSays.gap_eq]

------------------------------------------------------------
-- One Frame
------------------------------------------------------------

section Cut

variable {r : Reassembler} {frameId : UInt32}
variable {data : Bytes} {fs : List Fragment}

/-
  A frame that gathers its fragments makes no turn, and is
  completed in the run that brings what was missing.
-/
theorem Gathers.run
    (hCut : Fragment.IsCut frameId data fs)
    (hSize : data.length ≤ r.config.maxFrameSize)
    {seen : List Event}
    (hGathers : r.Gathers frameId fs seen)
    {es : List Event}
    (hEvents : ∀ e ∈ es, ∃ f ∈ fs, e.fragment? = some f) :
    turns (r.run es) = [] ∧
      completions (r.run es) =
        if Covers fs (seen ++ es) ∧ ¬ Covers fs seen then
          [⟨frameId, data⟩]
        else [] := by
  induction es generalizing r seen with
  | nil =>
      refine ⟨rfl, ?_⟩
      simp [Reassembler.run, completions]
  | cons e es ih =>
      rcases hGathers.step hCut hSize
          (Or.inl (hEvents e (by simp))) with
        ⟨hSays, hAfter⟩
      rcases ih (by rw [config_step]; exact hSize) hAfter
          (fun e' he' => hEvents e' (by simp [he'])) with
        ⟨hTurns, hCompletions⟩
      rw [List.append_assoc, List.singleton_append]
        at hCompletions
      have hHere :
          Covers fs seen → Covers fs (seen ++ [e]) :=
        fun hSeen =>
          hSeen.mono (List.subset_append_left _ _)
      have hRest :
          Covers fs (seen ++ [e]) →
            Covers fs (seen ++ e :: es) := by
        intro hSeen
        apply hSeen.mono
        simp
      refine ⟨?_, ?_⟩
      · rw [turns_run_cons, hSays.turn?_eq, hTurns]
        rfl
      · rw [completions_run_cons, hSays.completed_eq,
          hCompletions]
        by_cases hSeen : Covers fs seen
        · simp [hSeen, hHere hSeen]
        · by_cases hNow : Covers fs (seen ++ [e])
          · simp [hSeen, hNow, hRest hNow]
          · simp [hSeen, hNow]

/-
  The datagrams of a frame that may be started: one turn to
  the frame, and the frame if nothing is missing.
-/
theorem run_of_start
    (hCut : Fragment.IsCut frameId data fs)
    (hSize : data.length ≤ r.config.maxFrameSize)
    (hOther : r.liveFrameId ≠ some frameId)
    (hPosition : r.positionOf frameId ≠ .stale)
    {es : List Event}
    (hNonempty : es ≠ [])
    (hEvents : ∀ e ∈ es, ∃ f ∈ fs, e.fragment? = some f) :
    turns (r.run es) =
        [⟨some frameId, r.liveFrameId,
          r.gapBefore frameId⟩] ∧
      completions (r.run es) =
        (if Covers fs es then [⟨frameId, data⟩] else []) ∧
      (r.after es).Gathers frameId fs es := by
  cases es with
  | nil => exact absurd rfl hNonempty
  | cons e es =>
      rcases hEvents e (by simp) with ⟨f, hf, hFragment⟩
      rcases gathers_of_start hCut hSize hOther hPosition
          hFragment hf with ⟨hIngest, hGathers⟩
      have hFits :
          data.length ≤
            (r.step e).2.config.maxFrameSize := by
        rw [config_step]
        exact hSize
      have hRest :
          ∀ e' ∈ es, ∃ f ∈ fs, e'.fragment? = some f :=
        fun e' he' => hEvents e' (by simp [he'])
      rcases hGathers.run hCut hFits hRest with
        ⟨hTurns, hCompletions⟩
      rw [List.singleton_append] at hCompletions
      have hTurn :
          (r.step e).1.turn? =
            some ⟨some frameId, r.liveFrameId,
              r.gapBefore frameId⟩ := by
        simp [Answer.turn?, hIngest]
      refine ⟨?_, ?_, ?_⟩
      · rw [turns_run_cons, hTurn, hTurns]
        rfl
      · have hMono :
            Covers fs [e] → Covers fs (e :: es) := by
          intro hSeen
          apply hSeen.mono
          simp
        rw [completions_run_cons, hIngest, hCompletions]
        by_cases hNow : Covers fs [e]
        · simp [hNow, hMono hNow]
        · simp [hNow]
      · exact hGathers.after hCut hFits
          (fun e' he' => Or.inl (hRest e' he'))

end Cut

end Reassembler

end Reframe
