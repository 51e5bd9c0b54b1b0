import Reframe.Proofs.Reassembler.Assembly
import Reframe.Proofs.Reassembler.Step
import Reframe.Proofs.Sequence

/-
  The fragments of one frame arrive, in any order and with
  any repetition, among events that have nothing to do with
  the frame.

  From the first fragment on, the reassembler is described
  by the events seen so far: while a fragment is missing,
  what arrived is under assembly, and when the last one has
  arrived, nothing is.

  Main declarations:
    * `Reassembler.Covers`
    * `Reassembler.Event.IsNoise`
    * `Reassembler.Gathers`
    * `Reassembler.store_of_isCut`
    * `Reassembler.Gathers.step`
    * `Reassembler.gathers_of_start`
    * `Reassembler.any_order_completes_once`
-/

namespace Reframe

namespace Reassembler

------------------------------------------------------------
-- Arrivals And Noise
------------------------------------------------------------

/- Each of the fragments arrives in these events. -/
def Covers
    (fs : List Fragment)
    (es : List Event) : Prop :=
  ∀ f ∈ fs, ∃ e ∈ es, e.fragment? = some f

instance
    (fs : List Fragment)
    (es : List Event) :
    Decidable (Covers fs es) := by
  unfold Covers
  infer_instance

/- The fragments among these that arrive, in order. -/
def arrivals
    (fs : List Fragment)
    (es : List Event) : List Fragment :=
  (es.filterMap Event.fragment?).filter (fun f => f ∈ fs)

/-
  An event that brings nothing for a frame of `n` fragments
  once the frame was started: it brings no fragment at all,
  or one that is wrong in itself, that disagrees on the
  number of fragments, or that belongs to an older frame.
-/
def Event.IsNoise
    (window : Option UInt32)
    (frameId : UInt32)
    (n : Nat)
    (e : Event) : Prop :=
  match e.fragment? with
  | none => e ≠ .reset
  | some f =>
      f.count = 0 ∨ f.count ≤ f.index ∨
        (f.frameId = frameId ∧ f.count.toNat ≠ n) ∨
        (f.frameId ≠ frameId ∧
          Position.of window (some frameId) f.frameId =
            .stale)

instance
    (window : Option UInt32)
    (frameId : UInt32)
    (n : Nat)
    (e : Event) :
    Decidable (e.IsNoise window frameId n) := by
  unfold Event.IsNoise
  split <;> infer_instance

/- More events cover more. -/
theorem Covers.mono
    {fs : List Fragment}
    {es es' : List Event}
    (hCovers : Covers fs es)
    (hSubset : es ⊆ es') :
    Covers fs es' := by
  intro f hf
  rcases hCovers f hf with ⟨e, he, hFragment⟩
  exact ⟨e, hSubset he, hFragment⟩

/- Fragments arrive when all of them are arrivals. -/
theorem covers_iff
    (fs : List Fragment)
    (es : List Event) :
    Covers fs es ↔ ∀ f ∈ fs, f ∈ arrivals fs es := by
  constructor
  · intro hCovers f hf
    rcases hCovers f hf with ⟨e, he, hFragment⟩
    simp only [arrivals, List.mem_filter,
      List.mem_filterMap, decide_eq_true_eq]
    exact ⟨⟨e, he, hFragment⟩, hf⟩
  · intro hArrivals f hf
    have hArrival := hArrivals f hf
    simp only [arrivals, List.mem_filter,
      List.mem_filterMap] at hArrival
    exact hArrival.1

/- What arrives is among the fragments. -/
theorem mem_of_mem_arrivals
    {fs : List Fragment}
    {es : List Event}
    {f : Fragment}
    (hArrival : f ∈ arrivals fs es) :
    f ∈ fs := by
  simp only [arrivals, List.mem_filter,
    decide_eq_true_eq] at hArrival
  exact hArrival.2

/- A fragment that arrives last is the last arrival. -/
theorem arrivals_concat_of_mem
    {fs : List Fragment}
    {e : Event}
    {f : Fragment}
    (es : List Event)
    (hFragment : e.fragment? = some f)
    (hf : f ∈ fs) :
    arrivals fs (es ++ [e]) = arrivals fs es ++ [f] := by
  simp [arrivals, hFragment, hf]

------------------------------------------------------------
-- A Frame That Gathers Its Fragments
------------------------------------------------------------

/-
  The reassembler after some events of a frame: the frame
  was the last one started, and what arrived of it is under
  assembly until nothing is missing.
-/
structure Gathers
    (r : Reassembler)
    (frameId : UInt32)
    (fs : List Fragment)
    (seen : List Event) : Prop where
  lastStarted_eq : r.lastStarted = some frameId
  live_of_covers : Covers fs seen → r.live = none
  live_of_missing :
    ¬ Covers fs seen →
      r.live =
        some (Assembly.gather frameId
          (UInt16.ofNat fs.length) (arrivals fs seen))

/- An event that brings the frame nothing is left out. -/
theorem Gathers.concat
    {r s : Reassembler}
    {frameId : UInt32}
    {fs : List Fragment}
    {seen : List Event}
    (hGathers : r.Gathers frameId fs seen)
    (hSame : SameFrames r s)
    {e : Event}
    (hCovers :
      Covers fs (seen ++ [e]) ↔ Covers fs seen)
    (hArrivals :
      ¬ Covers fs seen →
        arrivals fs (seen ++ [e]) = arrivals fs seen) :
    s.Gathers frameId fs (seen ++ [e]) := by
  constructor
  · rw [hSame.lastStarted_eq]
    exact hGathers.lastStarted_eq
  · rw [hCovers, hSame.live_eq]
    exact hGathers.live_of_covers
  · rw [hCovers, hSame.live_eq]
    intro hMissing
    rw [hArrivals hMissing]
    exact hGathers.live_of_missing hMissing

section Cut

variable {r : Reassembler} {frameId : UInt32}
variable {data : Bytes} {fs : List Fragment}

/- The number of fragments of a frame is kept. -/
theorem toNat_length_of_isCut
    (hCut : Fragment.IsCut frameId data fs) :
    (UInt16.ofNat fs.length).toNat = fs.length := by
  have hLimit := hCut.length_le
  simp only [Fragment.countLimit] at hLimit
  exact UInt16.toNat_ofNat_of_lt' (by
    simp only [UInt16.size]
    omega)

/- Not all of a frame's fragments arrive in no events. -/
theorem not_covers_nil
    (hCut : Fragment.IsCut frameId data fs) :
    ¬ Covers fs [] := by
  intro hCovers
  rcases List.exists_mem_of_length_pos hCut.length_pos with
    ⟨f, hf⟩
  rcases hCovers f hf with ⟨e, he, _⟩
  simp at he

/-
  Storing a fragment of a frame whose bytes are within the
  limit: the frame is complete when nothing is missing.
-/
theorem store_of_isCut
    (hCut : Fragment.IsCut frameId data fs)
    (hSize : data.length ≤ r.config.maxFrameSize)
    (hLast : r.lastStarted = some frameId)
    (seen : List Event)
    {e : Event}
    {f : Fragment}
    (hFragment : e.fragment? = some f)
    (hf : f ∈ fs)
    {ingest : Ingest}
    (hNew : ingest.completed = none) :
    let x :=
      r.store
        (Assembly.gather frameId (UInt16.ofNat fs.length)
          (arrivals fs seen)) f ingest
    x.1 =
        { ingest with
          completed :=
            if Covers fs (seen ++ [e]) then
              some ⟨frameId, data⟩
            else none } ∧
      x.2.Gathers frameId fs (seen ++ [e]) := by
  have hCount := toNat_length_of_isCut hCut
  have hBoth :
      ∀ g ∈ arrivals fs (seen ++ [e]), g ∈ fs :=
    fun g hg => mem_of_mem_arrivals hg
  have hInsert :
      (Assembly.gather frameId (UInt16.ofNat fs.length)
          (arrivals fs seen)).insert f.index f.payload =
        Assembly.gather frameId (UInt16.ofNat fs.length)
          (arrivals fs (seen ++ [e])) := by
    rw [arrivals_concat_of_mem seen hFragment hf,
      Assembly.gather_concat]
  have hBuffered :=
    Assembly.buffered_gather_le_of_isCut hCut hCount hBoth
  have hComplete :=
    Assembly.isComplete_gather_iff_of_isCut hCut hCount
      hBoth
  rw [← covers_iff] at hComplete
  rcases r.store_cases
      (Assembly.gather frameId (UInt16.ofNat fs.length)
        (arrivals fs seen)) f ingest with
    ⟨hOver, _⟩ | ⟨_, hDone, hStore⟩ | ⟨_, hOpen, hStore⟩
  · rw [hInsert] at hOver
    omega
  · rw [hInsert, hComplete] at hDone
    have hData :=
      Assembly.data_gather_of_isCut hCut hCount hBoth
        ((covers_iff _ _).mp hDone)
    rw [hInsert, hData] at hStore
    rw [hStore]
    refine ⟨by simp [hDone], ?_⟩
    constructor
    · exact hLast
    · intro _
      rfl
    · intro hNot
      exact absurd hDone hNot
  · rw [hInsert] at hOpen hStore
    rw [hComplete] at hOpen
    rw [hStore]
    refine ⟨by simp [hOpen, ← hNew], ?_⟩
    constructor
    · exact hLast
    · intro hYes
      exact absurd hYes hOpen
    · intro _
      rfl

/-
  A fragment that arrives when nothing is missing is
  dropped.
-/
theorem Gathers.step_of_covers
    (hCut : Fragment.IsCut frameId data fs)
    {seen : List Event}
    (hGathers : r.Gathers frameId fs seen)
    (hCovers : Covers fs seen)
    {e : Event}
    {f : Fragment}
    (hFragment : e.fragment? = some f)
    (hf : f ∈ fs) :
    (r.step e).1.OnlyCompletes none ∧
      (r.step e).2.Gathers frameId fs (seen ++ [e]) := by
  have hLive := hGathers.live_of_covers hCovers
  have hStale : r.positionOf f.frameId = .stale := by
    rw [positionOf, hGathers.lastStarted_eq,
      hCut.frameId_eq f hf]
    exact Position.of_self _ _
  have hOther : r.liveFrameId ≠ some f.frameId := by
    simp [liveFrameId, hLive]
  have hStill : Covers fs (seen ++ [e]) :=
    hCovers.mono (List.subset_append_left _ _)
  rcases step_of_dropped hFragment
      (Or.inr ⟨hOther, hStale⟩) with ⟨_, hQuiet, hSame⟩
  refine ⟨hQuiet, hGathers.concat hSame ?_ ?_⟩
  · exact ⟨fun _ => hCovers, fun _ => hStill⟩
  · intro hNot
    exact absurd hCovers hNot

/-
  A fragment that arrives while something is missing: it
  completes the frame when it was the last one missing.
-/
theorem Gathers.step_of_missing
    (hCut : Fragment.IsCut frameId data fs)
    (hSize : data.length ≤ r.config.maxFrameSize)
    {seen : List Event}
    (hGathers : r.Gathers frameId fs seen)
    (hMissing : ¬ Covers fs seen)
    {e : Event}
    {f : Fragment}
    (hFragment : e.fragment? = some f)
    (hf : f ∈ fs) :
    (r.step e).1.OnlyCompletes
        (if Covers fs (seen ++ [e]) then
          some ⟨frameId, data⟩
        else none) ∧
      (r.step e).2.Gathers frameId fs (seen ++ [e]) := by
  have hLive := hGathers.live_of_missing hMissing
  have hFault : r.fault? f = none := by
    rw [fault?_eq_none_iff]
    refine ⟨hCut.index_lt hf, ?_⟩
    intro a hSome _
    rw [hLive, Option.some.injEq] at hSome
    rw [← hSome, Assembly.count_gather,
      toNat_length_of_isCut hCut, hCut.count_eq f hf]
  have hStep :=
    push_of_joins hFault hLive
      (by rw [Assembly.frameId_gather,
        hCut.frameId_eq f hf])
  have hNew : ({} : Ingest).completed = none := rfl
  rcases store_of_isCut (r := { r with live := none }) hCut
      hSize hGathers.lastStarted_eq seen hFragment hf hNew
    with ⟨hIngest, hAfter⟩
  rw [r.step_of_fragment? hFragment, stepFragment, hStep]
  refine ⟨?_, hAfter⟩
  constructor <;> simp [Answer.ingest, hIngest]

/-
  A fragment of the frame arrives: it completes the frame
  when it was the last one missing.
-/
theorem Gathers.step_of_mem
    (hCut : Fragment.IsCut frameId data fs)
    (hSize : data.length ≤ r.config.maxFrameSize)
    {seen : List Event}
    (hGathers : r.Gathers frameId fs seen)
    {e : Event}
    {f : Fragment}
    (hFragment : e.fragment? = some f)
    (hf : f ∈ fs) :
    (r.step e).1.OnlyCompletes
        (if Covers fs (seen ++ [e]) ∧ ¬ Covers fs seen then
          some ⟨frameId, data⟩
        else none) ∧
      (r.step e).2.Gathers frameId fs (seen ++ [e]) := by
  by_cases hCovers : Covers fs seen
  · simpa [hCovers] using
      hGathers.step_of_covers hCut hCovers hFragment hf
  · simpa [hCovers] using
      hGathers.step_of_missing hCut hSize hCovers hFragment
        hf

/- Noise brings no fragment of the frame. -/
theorem notMem_of_isNoise
    (hCut : Fragment.IsCut frameId data fs)
    {window : Option UInt32}
    {e : Event}
    (hNoise : e.IsNoise window frameId fs.length)
    {f : Fragment}
    (hFragment : e.fragment? = some f) :
    f ∉ fs := by
  intro hf
  simp only [Event.IsNoise, hFragment] at hNoise
  have hIndex := hCut.index_lt hf
  rcases hNoise with hZero | hRange | ⟨_, hCount⟩ | ⟨hId, _⟩
  · rw [hZero] at hIndex
    simp at hIndex
  · rw [UInt16.le_iff_toNat_le] at hRange
    omega
  · exact hCount (hCut.count_eq f hf)
  · exact hId (hCut.frameId_eq f hf)

/- The fragment of a noise event is dropped. -/
theorem Gathers.dropped_of_isNoise
    (hCut : Fragment.IsCut frameId data fs)
    {seen : List Event}
    (hGathers : r.Gathers frameId fs seen)
    {e : Event}
    (hNoise :
      e.IsNoise r.config.restartWindow frameId fs.length)
    {f : Fragment}
    (hFragment : e.fragment? = some f) :
    r.fault? f ≠ none ∨
      r.liveFrameId ≠ some f.frameId ∧
        r.positionOf f.frameId = .stale := by
  simp only [Event.IsNoise, hFragment] at hNoise
  by_cases hFault : r.fault? f = none
  · rw [fault?_eq_none_iff] at hFault
    rcases hFault with ⟨hIndex, hAgrees⟩
    apply Or.inr
    rw [positionOf, hGathers.lastStarted_eq]
    rcases hNoise with
      hZero | hRange | ⟨hId, hCount⟩ | ⟨hId, hStale⟩
    · rw [hZero] at hIndex
      simp at hIndex
    · rw [UInt16.le_iff_toNat_le] at hRange
      omega
    · rw [hId]
      refine ⟨?_, Position.of_self _ _⟩
      -- A disagreeing fragment gets through only once the
      -- frame is complete, and then it is stale.
      by_cases hCovers : Covers fs seen
      · simp [liveFrameId, hGathers.live_of_covers hCovers]
      · have hSame :=
          hAgrees _ (hGathers.live_of_missing hCovers)
            (by rw [Assembly.frameId_gather, hId])
        rw [Assembly.count_gather,
          toNat_length_of_isCut hCut] at hSame
        exact absurd hSame.symm hCount
    · refine ⟨?_, hStale⟩
      by_cases hCovers : Covers fs seen
      · simp [liveFrameId, hGathers.live_of_covers hCovers]
      · simp [liveFrameId,
          hGathers.live_of_missing hCovers, Ne.symm hId]
  · exact Or.inl hFault

/- Noise changes nothing about the frame. -/
theorem Gathers.step_of_isNoise
    (hCut : Fragment.IsCut frameId data fs)
    {seen : List Event}
    (hGathers : r.Gathers frameId fs seen)
    {e : Event}
    (hNoise :
      e.IsNoise r.config.restartWindow frameId fs.length) :
    (Covers fs (seen ++ [e]) ↔ Covers fs seen) ∧
      (r.step e).1.OnlyCompletes none ∧
      (r.step e).2.Gathers frameId fs (seen ++ [e]) := by
  have hArrivals :
      arrivals fs (seen ++ [e]) = arrivals fs seen := by
    cases hFragment : e.fragment? with
    | none => simp [arrivals, hFragment]
    | some f =>
        simp [arrivals, hFragment,
          notMem_of_isNoise hCut hNoise hFragment]
  have hCovers :
      Covers fs (seen ++ [e]) ↔ Covers fs seen := by
    rw [covers_iff, covers_iff, hArrivals]
  have hBoth :
      (r.step e).1.OnlyCompletes none ∧
        SameFrames r (r.step e).2 := by
    cases hFragment : e.fragment? with
    | none =>
        simp only [Event.IsNoise, hFragment] at hNoise
        rcases r.step_of_fragment?_none hFragment hNoise
          with ⟨hIngest, _, hAfter⟩
        refine ⟨?_, ?_⟩
        · constructor <;> simp [hIngest]
        · constructor <;> simp [hAfter, recordMalformed]
    | some f =>
        have hDropped :=
          hGathers.dropped_of_isNoise hCut hNoise hFragment
        exact (step_of_dropped hFragment hDropped).2
  exact ⟨hCovers, hBoth.1,
    hGathers.concat hBoth.2 hCovers (fun _ => hArrivals)⟩

/-
  Any event of the frame or beside it: the frame completes
  when its last missing fragment arrives.
-/
theorem Gathers.step
    (hCut : Fragment.IsCut frameId data fs)
    (hSize : data.length ≤ r.config.maxFrameSize)
    {seen : List Event}
    (hGathers : r.Gathers frameId fs seen)
    {e : Event}
    (hEvent :
      (∃ f ∈ fs, e.fragment? = some f) ∨
        e.IsNoise r.config.restartWindow frameId
          fs.length) :
    (r.step e).1.OnlyCompletes
        (if Covers fs (seen ++ [e]) ∧ ¬ Covers fs seen then
          some ⟨frameId, data⟩
        else none) ∧
      (r.step e).2.Gathers frameId fs (seen ++ [e]) := by
  rcases hEvent with ⟨f, hf, hFragment⟩ | hNoise
  · exact hGathers.step_of_mem hCut hSize hFragment hf
  · rcases hGathers.step_of_isNoise hCut hNoise with
      ⟨hCovers, hQuiet, hAfter⟩
    have hNone :
        ¬ (Covers fs (seen ++ [e]) ∧ ¬ Covers fs seen) := by
      rw [hCovers]
      exact fun hBoth => hBoth.2 hBoth.1
    rw [if_neg hNone]
    exact ⟨hQuiet, hAfter⟩

/- The frame goes on gathering through a run. -/
theorem Gathers.after
    (hCut : Fragment.IsCut frameId data fs)
    (hSize : data.length ≤ r.config.maxFrameSize)
    {seen : List Event}
    (hGathers : r.Gathers frameId fs seen)
    {es : List Event}
    (hEvents :
      ∀ e ∈ es, (∃ f ∈ fs, e.fragment? = some f) ∨
        e.IsNoise r.config.restartWindow frameId
          fs.length) :
    (r.after es).Gathers frameId fs (seen ++ es) := by
  induction es using List.reverseRecOn with
  | nil => simpa [Reassembler.after] using hGathers
  | append_singleton es e ih =>
      have hBefore :=
        ih (fun e' he' => hEvents e' (by simp [he']))
      rw [after_concat, ← List.append_assoc]
      refine (hBefore.step hCut ?_ ?_).2
      · rw [config_after]
        exact hSize
      · rw [config_after]
        exact hEvents e (by simp)

/-
  Each answer of a run completes the frame if its event
  brings what was missing last, and says nothing else.
-/
theorem Gathers.getElem?_run
    (hCut : Fragment.IsCut frameId data fs)
    (hSize : data.length ≤ r.config.maxFrameSize)
    {seen : List Event}
    (hGathers : r.Gathers frameId fs seen)
    {es : List Event}
    (hEvents :
      ∀ e ∈ es, (∃ f ∈ fs, e.fragment? = some f) ∨
        e.IsNoise r.config.restartWindow frameId
          fs.length)
    {j : Nat}
    {answer : Answer}
    {s : Reassembler}
    (hAnswer : (r.run es)[j]? = some (answer, s)) :
    answer.OnlyCompletes
      (if Covers fs (seen ++ es.take (j + 1)) ∧
          ¬ Covers fs (seen ++ es.take j) then
        some ⟨frameId, data⟩
      else none) := by
  rw [Reassembler.getElem?_run] at hAnswer
  rcases Option.map_eq_some_iff.mp hAnswer with
    ⟨e, hAt, hStep⟩
  have hNow :
      (r.after (es.take j)).Gathers frameId fs
        (seen ++ es.take j) :=
    hGathers.after hCut hSize
      (fun e' he' => hEvents e' (List.mem_of_mem_take he'))
  have hFits :
      data.length ≤
        (r.after (es.take j)).config.maxFrameSize := by
    rw [config_after]
    exact hSize
  have hEvent :
      (∃ f ∈ fs, e.fragment? = some f) ∨
        e.IsNoise
          (r.after (es.take j)).config.restartWindow
          frameId fs.length := by
    rw [config_after]
    exact hEvents e (List.mem_of_getElem? hAt)
  have hSays := (hNow.step hCut hFits hEvent).1
  have hTake :
      seen ++ es.take j ++ [e] =
        seen ++ es.take (j + 1) := by
    rw [List.take_add_one, hAt, List.append_assoc]
    rfl
  rw [hStep, hTake] at hSays
  exact hSays

/-
  The first fragment of a frame starts it, whatever was
  under assembly.
-/
theorem gathers_of_start
    (hCut : Fragment.IsCut frameId data fs)
    (hSize : data.length ≤ r.config.maxFrameSize)
    (hOther : r.liveFrameId ≠ some frameId)
    (hPosition : r.positionOf frameId ≠ .stale)
    {e : Event}
    {f : Fragment}
    (hFragment : e.fragment? = some f)
    (hf : f ∈ fs) :
    (r.step e).1.ingest =
        { completed :=
            if Covers fs [e] then some ⟨frameId, data⟩
            else none
          started := some frameId
          abandoned := r.liveFrameId
          gap := r.gapBefore frameId } ∧
      (r.step e).2.Gathers frameId fs [e] := by
  have hId := hCut.frameId_eq f hf
  have hCount : f.count = UInt16.ofNat fs.length := by
    apply UInt16.toNat_inj.mp
    rw [hCut.count_eq f hf, toNat_length_of_isCut hCut]
  have hFault : r.fault? f = none := by
    rw [fault?_eq_none_iff]
    refine ⟨hCut.index_lt hf, ?_⟩
    intro a hLive hSame
    apply absurd _ hOther
    rw [liveFrameId, hLive, Option.map_some, hSame, hId]
  have hStep :=
    push_of_starts hFault (by rw [hId]; exact hOther)
      (by rw [hId]; exact hPosition)
  have hStart :
      r.start f =
        store (r.prepared f)
          (Assembly.gather frameId
            (UInt16.ofNat fs.length) (arrivals fs [])) f
          { started := some frameId
            abandoned := r.liveFrameId
            gap := r.gapBefore frameId } := by
    rw [start_eq, hId, hCount]
    rfl
  have hFits :
      data.length ≤ (r.prepared f).config.maxFrameSize := by
    rw [config_prepared]
    exact hSize
  have hLast :
      (r.prepared f).lastStarted = some frameId := by
    rw [lastStarted_prepared, hId]
  rw [r.step_of_fragment? hFragment, stepFragment, hStep,
    hStart]
  exact store_of_isCut hCut hFits hLast [] hFragment hf rfl

end Cut

------------------------------------------------------------
-- Any Order Of Arrival
------------------------------------------------------------

/-
  Events that cover the fragments do so at one of them for
  the first time.
-/
theorem exists_first_covers
    {fs : List Fragment}
    {es : List Event}
    (hNil : ¬ Covers fs [])
    (hCovers : Covers fs es) :
    ∃ i < es.length,
      ¬ Covers fs (es.take i) ∧
        Covers fs (es.take (i + 1)) := by
  have hExists : ∃ n, Covers fs (es.take n) :=
    ⟨es.length, by simpa using hCovers⟩
  have hLength : Nat.find hExists ≤ es.length :=
    Nat.find_min' hExists (by simpa using hCovers)
  have hFound := Nat.find_spec hExists
  cases hFirst : Nat.find hExists with
  | zero =>
      rw [hFirst] at hFound
      exact absurd (by simpa using hFound) hNil
  | succ i =>
      rw [hFirst] at hFound hLength
      refine ⟨i, by omega, ?_, hFound⟩
      exact Nat.find_min hExists (by omega)

/- There is only one such event. -/
theorem covers_take_iff
    {fs : List Fragment}
    {es : List Event}
    {i : Nat}
    (hBefore : ¬ Covers fs (es.take i))
    (hAt : Covers fs (es.take (i + 1)))
    (j : Nat) :
    (Covers fs (es.take (j + 1)) ∧
      ¬ Covers fs (es.take j)) ↔ j = i := by
  have hMono : ∀ m n, m ≤ n →
      Covers fs (es.take m) → Covers fs (es.take n) := by
    intro m n hmn hCovers
    exact hCovers.mono
      (List.take_subset_take_left es hmn)
  constructor
  · rintro ⟨hYes, hNo⟩
    rcases Nat.lt_trichotomy j i with hLess | rfl | hMore
    · exact absurd (hMono _ _ hLess hYes) hBefore
    · rfl
    · exact absurd (hMono _ _ hMore hAt) hNo
  · rintro rfl
    exact ⟨hAt, hBefore⟩

/-
  A frame that may be started is completed by its fragments
  in any order and with any repetition, in any state of the
  reassembler and amid any noise.  Exactly one event
  completes it, the one at which the last missing fragment
  arrives.  No event but the first starts or abandons a
  frame, and the first one starts this frame and abandons
  the one that was under assembly.
-/
theorem any_order_completes_once
    (r : Reassembler)
    (frameId : UInt32)
    (data : Bytes)
    (mtu : Nat)
    (fs : List Fragment)
    (first : Event)
    (rest : List Event)
    (hOther : r.liveFrameId ≠ some frameId)
    (hPosition : r.positionOf frameId ≠ .stale)
    (hSize : data.length ≤ r.config.maxFrameSize)
    (hSplit : Fragment.split frameId data mtu = .ok fs)
    (hFirst : ∃ f ∈ fs, first.fragment? = some f)
    (hRest :
      ∀ e ∈ rest, (∃ f ∈ fs, e.fragment? = some f) ∨
        e.IsNoise r.config.restartWindow frameId fs.length)
    (hAll : Covers fs (first :: rest)) :
    ∃ i < (first :: rest).length,
      ¬ Covers fs ((first :: rest).take i) ∧
        Covers fs ((first :: rest).take (i + 1)) ∧
        ∀ j answer s,
          (r.run (first :: rest))[j]? = some (answer, s) →
            answer.ingest.completed =
                (if j = i then some ⟨frameId, data⟩
                else none) ∧
              answer.ingest.started =
                (if j = 0 then some frameId else none) ∧
              answer.ingest.abandoned =
                (if j = 0 then r.liveFrameId
                else none) := by
  have hCut := Fragment.isCut_of_split hSplit
  rcases exists_first_covers (not_covers_nil hCut) hAll with
    ⟨i, hLength, hBefore, hAt⟩
  refine ⟨i, hLength, hBefore, hAt, ?_⟩
  intro j answer s hAnswer
  have hOnce := covers_take_iff hBefore hAt j
  rcases hFirst with ⟨f, hf, hFragment⟩
  rcases gathers_of_start hCut hSize hOther hPosition
      hFragment hf with ⟨hIngest, hGathers⟩
  cases j with
  | zero =>
      have hSame : (r.step first).1 = answer :=
        congrArg Prod.fst (Option.some.inj hAnswer)
      have hCompletes : Covers fs [first] ↔ 0 = i := by
        rw [← hOnce]
        simp [not_covers_nil hCut]
      rw [← hSame, hIngest]
      simp [hCompletes]
  | succ j =>
      have hConfig := config_step r first
      rw [← hConfig] at hSize hRest
      have hSays :=
        hGathers.getElem?_run hCut hSize hRest hAnswer
      have hCompletes :
          (Covers fs ([first] ++ rest.take (j + 1)) ∧
            ¬ Covers fs ([first] ++ rest.take j)) ↔
            j + 1 = i := by
        rw [← hOnce]
        rfl
      simp only [hSays.completed_eq, hSays.started_eq,
        hSays.abandoned_eq, hCompletes]
      simp

/-
  The last fragment of a frame comes first, while another
  frame is under assembly, and the first one comes last,
  after a malformed datagram, a fragment that disagrees, one
  of the frame that was retired, and a repetition.
-/
theorem any_order_completes_once_amid_noise :
    let r : Reassembler :=
      ({} : Reassembler).after [.fragment ⟨3, 0, 2, [9]⟩]
    let fs : List Fragment :=
      [⟨4, 0, 2, [1, 2]⟩, ⟨4, 1, 2, [3]⟩]
    let first : Event := .fragment ⟨4, 1, 2, [3]⟩
    let rest : List Event :=
      [.malformed, .fragment ⟨4, 0, 3, [7]⟩,
        .fragment ⟨3, 1, 2, [8]⟩, .fragment ⟨4, 1, 2, [3]⟩,
        .fragment ⟨4, 0, 2, [1, 2]⟩]
    Fragment.split 4 [1, 2, 3] 2 = .ok fs ∧
      Covers fs (first :: rest) ∧
      ∃ i < (first :: rest).length,
        ¬ Covers fs ((first :: rest).take i) ∧
          Covers fs ((first :: rest).take (i + 1)) ∧
          ∀ j answer s,
            (r.run (first :: rest))[j]? =
                some (answer, s) →
              answer.ingest.completed =
                  (if j = i then some ⟨4, [1, 2, 3]⟩
                  else none) ∧
                answer.ingest.started =
                  (if j = 0 then some 4 else none) ∧
                answer.ingest.abandoned =
                  (if j = 0 then r.liveFrameId
                  else none) := by
  intro r fs first rest
  have hSplit : Fragment.split 4 [1, 2, 3] 2 = .ok fs := by
    rfl
  have hAll : Covers fs (first :: rest) := by
    decide
  exact ⟨hSplit, hAll,
    any_order_completes_once r 4 [1, 2, 3] 2 fs first rest
      (by decide) (by decide) (by decide) hSplit (by decide)
      (by decide) hAll⟩

end Reassembler

end Reframe
