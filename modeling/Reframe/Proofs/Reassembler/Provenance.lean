import Reframe.Proofs.Reassembler.Assembly
import Reframe.Proofs.Reassembler.Step

/-
  Where the bytes of a completed frame come from.

  As long as a frame is under assembly, its assembly is what
  was accepted since the event that started it.  So a frame
  that is completed is made of the fragments that were
  accepted since then, which are all its own and leave no
  index out.

  Main declarations:
    * `Reassembler.Assembling`
    * `Reassembler.HasHistory.takesIn`
    * `Reassembler.hasHistory`
    * `Reassembler.Rebuilds`
    * `Reassembler.completed_has_provenance`
-/

namespace Reframe

namespace Reassembler

------------------------------------------------------------
-- The Events Since A Frame Was Started
------------------------------------------------------------

/-
  In these events a frame is assembled: the first of them
  starts it, it is under assembly in front of each of the
  others, and all fragments that are accepted are its own
  and agree on their number.
-/
structure Assembling
    (r : Reassembler)
    (since : List Event)
    (frameId : UInt32)
    (n : UInt16) : Prop where
  starts :
    ∃ e es, since = e :: es ∧
      (r.step e).1.ingest.started = some frameId
  live :
    ∀ es es', since = es ++ es' → es ≠ [] → es' ≠ [] →
      (r.after es).liveFrameId = some frameId
  shape :
    ∀ f ∈ r.accepted since,
      f.frameId = frameId ∧ f.count = n ∧
        f.index.toNat < n.toNat

/- The event that starts a frame, by itself. -/
theorem assembling_singleton
    {r : Reassembler}
    {e : Event}
    {f : Fragment}
    (hAccepted : r.accepted? e = some f)
    (hIndex : f.index.toNat < f.count.toNat)
    (hStarted :
      (r.step e).1.ingest.started = some f.frameId) :
    Assembling r [e] f.frameId f.count := by
  constructor
  · exact ⟨e, [], rfl, hStarted⟩
  · intro es es' hSplit hes hes'
    have hLength := congrArg List.length hSplit
    have hLeft := List.length_pos_iff.mpr hes
    have hRight := List.length_pos_iff.mpr hes'
    simp only [List.length_singleton, List.length_append]
      at hLength
    omega
  · intro g hg
    have hSame : g = f := by
      simpa [accepted, hAccepted] using hg
    subst hSame
    exact ⟨rfl, rfl, hIndex⟩

/-
  One more event, at which the frame is still under
  assembly, and which brings none but a fragment of it.
-/
theorem Assembling.concat
    {r : Reassembler}
    {since : List Event}
    {frameId : UInt32}
    {n : UInt16}
    (hAssembling : Assembling r since frameId n)
    (hLive :
      (r.after since).liveFrameId = some frameId)
    {e : Event}
    (hShape :
      ∀ f, (r.after since).accepted? e = some f →
        f.frameId = frameId ∧ f.count = n ∧
          f.index.toNat < n.toNat) :
    Assembling r (since ++ [e]) frameId n := by
  constructor
  · rcases hAssembling.starts with
      ⟨first, rest, rfl, hStarted⟩
    exact ⟨first, rest ++ [e], rfl, hStarted⟩
  · intro es es' hSplit hes hes'
    rcases List.eq_nil_or_concat es' with hNil | hConcat
    · exact absurd hNil hes'
    · rcases hConcat with ⟨middle, last, rfl⟩
      rw [List.concat_eq_append, ← List.append_assoc]
        at hSplit
      have hSince : since = es ++ middle :=
        (List.append_inj' hSplit rfl).1
      by_cases hMiddle : middle = []
      · rw [hMiddle, List.append_nil] at hSince
        rw [← hSince]
        exact hLive
      · exact hAssembling.live es middle hSince hes hMiddle
  · intro f hf
    rw [accepted_concat, List.mem_append] at hf
    rcases hf with hOld | hNew
    · exact hAssembling.shape f hOld
    · exact hShape f (by simpa using hNew)

------------------------------------------------------------
-- The Assembly In Any State
------------------------------------------------------------

/-
  The assembly of a state is what was accepted since its
  frame was started.
-/
def HasHistory
    (r : Reassembler)
    (es : List Event) : Prop :=
  ∀ a, (r.after es).live = some a →
    ∃ before since n,
      es = before ++ since ∧
        Assembling (r.after before) since a.frameId n ∧
        a =
          Assembly.gather a.frameId n
            ((r.after before).accepted since)

/-
  An event puts a fragment into an assembly, and that makes
  it the assembly of what was accepted since the frame was
  started, this fragment included.
-/
def TakesIn
    (r : Reassembler)
    (es : List Event)
    (e : Event)
    (f : Fragment) : Prop :=
  ∃ before since n base a ingest,
    es ++ [e] = before ++ since ∧
      Assembling (r.after before) since f.frameId n ∧
      a.frameId = f.frameId ∧
      a.insert f.index f.payload =
        Assembly.gather f.frameId n
          ((r.after before).accepted since) ∧
      base.config = r.config ∧
      ingest.completed = none ∧
      (r.after es).step e =
        (.taken (store base a f ingest).1,
          (store base a f ingest).2)

/- A fragment that joins the frame under assembly. -/
theorem HasHistory.takesIn_of_joins
    {r : Reassembler}
    {es : List Event}
    (hHistory : r.HasHistory es)
    {e : Event}
    {f : Fragment}
    {a : Assembly}
    (hAccepted : (r.after es).accepted? e = some f)
    (hIndex : f.index.toNat < f.count.toNat)
    (hLive : (r.after es).live = some a)
    (hId : a.frameId = f.frameId)
    (hCount : a.count = f.count.toNat)
    (hStep :
      (r.after es).step e =
        (.taken
            (store { r.after es with live := none } a f
              {}).1,
          (store { r.after es with live := none } a f
            {}).2)) :
    TakesIn r es e f := by
  rcases hHistory a hLive with
    ⟨before, since, n, hSplit, hSince, hGather⟩
  have hBetween :
      (r.after before).after since = r.after es := by
    rw [hSplit, after_append]
  have hSame : n = f.count := by
    apply UInt16.toNat_inj.mp
    rw [← hCount, hGather, Assembly.count_gather]
  subst hSame
  refine
    ⟨before, since ++ [e], f.count, _, a, {}, ?_, ?_,
      hId, ?_, ?_, rfl, hStep⟩
  · rw [hSplit, List.append_assoc]
  · rw [← hId]
    apply hSince.concat
    · rw [hBetween, liveFrameId, hLive]
      rfl
    · intro g hg
      rw [hBetween, hAccepted, Option.some.injEq] at hg
      subst hg
      exact ⟨hId.symm, rfl, hIndex⟩
  · rw [accepted_concat, hBetween, hAccepted,
      Option.toList_some, Assembly.gather_concat,
      ← hId, ← hGather]
  · exact config_after r es

/- A fragment that starts its frame. -/
theorem takesIn_of_starts
    {r : Reassembler}
    {es : List Event}
    {e : Event}
    {f : Fragment}
    (hAccepted : (r.after es).accepted? e = some f)
    (hIndex : f.index.toNat < f.count.toNat)
    (hStep :
      (r.after es).step e =
        (.taken ((r.after es).start f).1,
          ((r.after es).start f).2)) :
    TakesIn r es e f := by
  have hStarted :
      ((r.after es).step e).1.ingest.started =
        some f.frameId := by
    rw [hStep, start_eq]
    exact started_store _ _ _ _
  rw [start_eq] at hStep
  refine
    ⟨es, [e], f.count, _, _, _, rfl, ?_, rfl, ?_, ?_, rfl,
      hStep⟩
  · exact assembling_singleton hAccepted hIndex hStarted
  · simp [accepted, hAccepted, Assembly.gather]
  · simp

/- Every fragment that is accepted is taken in so. -/
theorem HasHistory.takesIn
    {r : Reassembler}
    {es : List Event}
    (hHistory : r.HasHistory es)
    {e : Event}
    {f : Fragment}
    (hAccepted : (r.after es).accepted? e = some f) :
    TakesIn r es e f := by
  cases (r.after es).transition e with
  | dropped _ hNone _ _ =>
      rw [hNone] at hAccepted
      cases hAccepted
  | cleared hReset =>
      subst hReset
      simp [accepted?, step, Answer.IsAccepted]
        at hAccepted
  | joined g a _ hJoined hIndex hLive hId hCount hStep =>
      rw [hJoined, Option.some.injEq] at hAccepted
      subst hAccepted
      exact hHistory.takesIn_of_joins hJoined hIndex hLive
        hId hCount hStep
  | started g _ hStarted hIndex _ _ hStep =>
      rw [hStarted, Option.some.injEq] at hAccepted
      subst hAccepted
      exact takesIn_of_starts hStarted hIndex hStep

/-
  A fragment that is put into its frame becomes the last one
  in the history of the frame.
-/
theorem HasHistory.concat_of_accepted
    {r : Reassembler}
    {es : List Event}
    (hHistory : r.HasHistory es)
    {e : Event}
    {f : Fragment}
    (hAccepted : (r.after es).accepted? e = some f) :
    r.HasHistory (es ++ [e]) := by
  intro a hLive
  rw [after_concat] at hLive
  rcases hHistory.takesIn hAccepted with
    ⟨before, since, n, base, b, ingest, hSplit, hSince, hId,
      hGather, _, _, hStep⟩
  rw [hStep] at hLive
  rcases base.store_cases b f ingest with
    ⟨_, hStore⟩ | ⟨_, _, hStore⟩ | ⟨_, _, hStore⟩
  · simp [hStore] at hLive
  · simp [hStore] at hLive
  · simp only [hStore, Option.some.injEq] at hLive
    have hFrameId : a.frameId = f.frameId := by
      rw [← hLive, Assembly.frameId_insert, hId]
    refine ⟨before, since, n, hSplit, ?_, ?_⟩
    · rw [hFrameId]
      exact hSince
    · rw [hFrameId, ← hGather, hLive]

/- An event that touches no frame leaves the history. -/
theorem HasHistory.concat_of_sameFrames
    {r : Reassembler}
    {es : List Event}
    (hHistory : r.HasHistory es)
    {e : Event}
    (hAccepted : (r.after es).accepted? e = none)
    (hSame :
      SameFrames (r.after es) ((r.after es).step e).2) :
    r.HasHistory (es ++ [e]) := by
  intro a hLive
  rw [after_concat, hSame.live_eq] at hLive
  rcases hHistory a hLive with
    ⟨before, since, n, hSplit, hSince, hGather⟩
  have hBetween :
      (r.after before).after since = r.after es := by
    rw [hSplit, after_append]
  refine ⟨before, since ++ [e], n, ?_, ?_, ?_⟩
  · rw [hSplit, List.append_assoc]
  · apply hSince.concat
    · rw [hBetween, liveFrameId, hLive]
      rfl
    · intro f hf
      rw [hBetween, hAccepted] at hf
      cases hf
  · rw [accepted_concat, hBetween, hAccepted,
      Option.toList_none, List.append_nil]
    exact hGather

/- The history of a state is known after every run. -/
theorem hasHistory
    {r : Reassembler}
    (hIdle : r.live = none)
    (es : List Event) :
    r.HasHistory es := by
  induction es using List.reverseRecOn with
  | nil =>
      intro a hLive
      simp [after, hIdle] at hLive
  | append_singleton es e ih =>
      cases hAccepted : (r.after es).accepted? e with
      | some f => exact ih.concat_of_accepted hAccepted
      | none =>
          rcases step_of_accepted?_none hAccepted with
            hReset | ⟨_, hSame⟩
          · intro a hLive
            rw [after_concat, hReset] at hLive
            simp [step, reset] at hLive
          · exact ih.concat_of_sameFrames hAccepted hSame

------------------------------------------------------------
-- Completed Frames
------------------------------------------------------------

/-
  In these events a frame is rebuilt: no index is left out,
  and the bytes of the frame are the last payload of each
  index, in order.
-/
structure Rebuilds
    (r : Reassembler)
    (since : List Event)
    (frame : CompletedFrame)
    (n : UInt16) : Prop
    extends Assembling r since frame.frameId n where
  covers :
    ∀ i < n.toNat,
      ∃ f ∈ r.accepted since, f.index.toNat = i
  data_eq :
    frame.data =
      (List.range n.toNat).flatMap
        (fun i =>
          (Fragment.lastPayload?
            (r.accepted since) i).getD [])

/-
  A completed frame was rebuilt in the events since it was
  started, and its bytes are within the limit.
-/
theorem completed_has_provenance
    (config : ReassemblerConfig)
    (es : List Event)
    (e : Event)
    (frame : CompletedFrame)
    (hCompleted :
      ((after { config := config } es).step
        e).1.ingest.completed = some frame) :
    ∃ before since n,
      es ++ [e] = before ++ since ∧
        Rebuilds (after { config := config } before) since
          frame n ∧
        frame.data.length ≤ config.maxFrameSize := by
  have hHistory :=
    hasHistory (r := { config := config }) rfl es
  cases hAccepted :
      (after { config := config } es).accepted? e with
  | none =>
      rcases step_of_accepted?_none hAccepted with
        hReset | ⟨hQuiet, _⟩
      · rw [hReset] at hCompleted
        simp [step, Answer.ingest] at hCompleted
      · rw [hQuiet.completed_eq] at hCompleted
        cases hCompleted
  | some f =>
      rcases hHistory.takesIn hAccepted with
        ⟨before, since, n, base, a, ingest, hSplit, hSince,
          hId, hGather, hConfig, hNew, hStep⟩
      rw [hStep] at hCompleted
      rcases base.store_cases a f ingest with
        ⟨_, hStore⟩ | ⟨hSize, hComplete, hStore⟩ |
        ⟨_, _, hStore⟩
      · simp [hStore, Answer.ingest, hNew] at hCompleted
      · simp only [hStore, Answer.ingest,
          Option.some.injEq] at hCompleted
        have hIndices :
            ∀ g ∈ (after { config := config }
                before).accepted since,
              g.index.toNat < n.toNat :=
          fun g hg => (hSince.shape g hg).2.2
        have hCounted :
            (Assembly.gather f.frameId n
              ((after { config := config } before).accepted
                since)).IsCounted :=
          Assembly.isCounted_gather hIndices
        rw [hGather] at hCompleted hComplete hSize
        rw [Assembly.isComplete_gather_iff hIndices]
          at hComplete
        subst hCompleted
        rw [← hId] at hSince
        refine ⟨before, since, n, hSplit, ?_, ?_⟩
        · exact
            { toAssembling := hSince
              covers := hComplete
              data_eq := Assembly.data_gather hIndices }
        · rw [hCounted.length_data]
          rw [hConfig] at hSize
          exact hSize
      · simp [hStore, Answer.ingest, hNew] at hCompleted

/-
  The first payload of a frame is overwritten, amid events
  that bring it nothing, before its last fragment arrives.
-/
theorem completed_has_provenance_overwritten :
    let r : Reassembler := {}
    let es : List Event :=
      [.fragment ⟨7, 0, 2, [1]⟩, .malformed,
        .fragment ⟨7, 0, 3, [5]⟩, .fragment ⟨6, 0, 1, [6]⟩,
        .fragment ⟨7, 0, 2, [9]⟩]
    let e : Event := .fragment ⟨7, 1, 2, [2]⟩
    ((r.after es).step e).1.ingest.completed =
        some ⟨7, [9, 2]⟩ ∧
      ∃ before since n,
        es ++ [e] = before ++ since ∧
          Rebuilds (r.after before) since ⟨7, [9, 2]⟩ n ∧
          [9, 2].length ≤ r.config.maxFrameSize := by
  intro r es e
  have hCompleted :
      ((r.after es).step e).1.ingest.completed =
        some ⟨7, [9, 2]⟩ := by
    decide
  exact ⟨hCompleted,
    completed_has_provenance {} es e _ hCompleted⟩

end Reassembler

end Reframe
