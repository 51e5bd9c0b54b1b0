import Reframe.Proofs.Fragment.Codec
import Reframe.Proofs.Fragment.Writer
import Reframe.Proofs.Reassembler.Delivery

/-
  What a receiver makes of the frames of a sender whose sink
  may refuse datagrams.

  A frame that fails leaves its number to the next one, and
  the receiver may hold a part of it by then.  The next frame
  is completed over that part if both have as many fragments,
  and is refused otherwise.

  Main declarations:
    * `Sender.remnant?`
    * `Sender.Agrees`
    * `Reassembler.Holds`
    * `Reassembler.Holds.run`
    * `Reassembler.Holds.run_of_isCut`
    * `Reassembler.Awaits`
    * `Reassembler.Awaits.send`
    * `Reassembler.sent_frame_completes_iff_agrees`
-/

namespace Reframe

------------------------------------------------------------
-- What A Sender Leaves Behind
------------------------------------------------------------

/- The arrivals of the datagrams that were accepted. -/
def Sending.events
    (s : Sending) : List Reassembler.Event :=
  s.delivery.datagrams.map .datagram

namespace Sender

/- The arrivals of all datagrams of a run. -/
def events
    (log : List (Bytes × Sending)) :
    List Reassembler.Event :=
  log.flatMap (fun p => p.2.events)

/-
  The frame of which a part is left with the receiver once
  another frame was sent.  A frame that was sent leaves none.
  Of those that failed since then it is the first one of
  which a datagram was accepted.
-/
def leave?
    (left : Option Bytes)
    (p : Bytes × Sending) : Option Bytes :=
  match p.2.result with
  | .ok _ => none
  | .error _ =>
      if p.2.delivery.datagrams = [] then left
      else left.or (some p.1)

/- The frame of which a part is left after a run. -/
def remnant?
    (log : List (Bytes × Sending)) : Option Bytes :=
  log.foldl leave? none

/-
  A frame has as many fragments as the one of which a part
  is left, if one is.
-/
def Agrees
    (mtu : Nat)
    (left : Option Bytes)
    (data : Bytes) : Prop :=
  ∀ part ∈ left,
    Fragment.sliceCount part.length mtu =
      Fragment.sliceCount data.length mtu

instance
    (mtu : Nat)
    (left : Option Bytes)
    (data : Bytes) :
    Decidable (Agrees mtu left data) := by
  unfold Agrees
  infer_instance

end Sender

namespace Reassembler

/-
  A run over datagrams is one over the fragments that were
  encoded in them.
-/
theorem run_datagrams
    {gs : List Fragment}
    {ds : List Bytes}
    (hEncodes :
      List.Forall₂ (fun f d => f.encode [] = .ok d) gs ds)
    (r : Reassembler) :
    r.run (ds.map .datagram) = r.run (gs.map .fragment) ∧
      r.after (ds.map .datagram) =
        r.after (gs.map .fragment) := by
  induction hEncodes generalizing r with
  | nil => exact ⟨rfl, rfl⟩
  | @cons f d gs ds hEncode _ ih =>
      have hStep :
          r.step (.datagram d) = r.step (.fragment f) := by
        simp only [step, Fragment.decode_of_encode hEncode]
      rcases ih (r.step (.fragment f)).2 with
        ⟨hRun, hAfter⟩
      simp only [List.map_cons, run, hStep, hRun]
      refine ⟨trivial, ?_⟩
      simp only [after, List.foldl_cons, hStep]
      exact hAfter

------------------------------------------------------------
-- Fragments That Disagree
------------------------------------------------------------

/-
  Fragments of the frame under assembly that disagree on
  their number are all refused.
-/
theorem run_of_disagrees
    {r : Reassembler}
    {a : Assembly}
    (hLive : r.live = some a)
    {gs : List Fragment}
    (hOther :
      ∀ f ∈ gs,
        f.frameId = a.frameId ∧ f.count.toNat ≠ a.count) :
    completions (r.run (gs.map .fragment)) = [] ∧
      SameFrames r (r.after (gs.map .fragment)) := by
  induction gs generalizing r with
  | nil => exact ⟨rfl, ⟨rfl, rfl, rfl⟩⟩
  | cons f gs ih =>
      have hFault : r.fault? f ≠ none := by
        intro hNone
        rw [fault?_eq_none_iff] at hNone
        rcases hOther f (by simp) with ⟨hId, hCount⟩
        exact hCount (hNone.2 a hLive hId.symm).symm
      have hFragment :
          (Event.fragment f).fragment? = some f := rfl
      rcases step_of_dropped hFragment (Or.inl hFault) with
        ⟨_, hQuiet, hSame⟩
      rcases ih (hSame.live_eq.trans hLive)
          (fun g hg => hOther g (by simp [hg])) with
        ⟨hNone, hRest⟩
      refine ⟨?_, ?_⟩
      · rw [List.map_cons, completions_run_cons,
          hQuiet.completed_eq, hNone]
        rfl
      · exact
          ⟨hRest.config_eq.trans hSame.config_eq,
            hRest.live_eq.trans hSame.live_eq,
            hRest.lastStarted_eq.trans
              hSame.lastStarted_eq⟩

------------------------------------------------------------
-- A Part That Is Held
------------------------------------------------------------

/-
  The receiver holds parts of frames with one number, all
  without their last fragment.
-/
structure Holds
    (r : Reassembler)
    (frameId : UInt32)
    (n : UInt16)
    (size : Nat)
    (arrived : List Fragment) : Prop where
  lastStarted_eq : r.lastStarted = some frameId
  live_eq :
    r.live = some (Assembly.gather frameId n arrived)
  fallsShort : Assembly.FallsShort n size arrived

section Held

variable {r : Reassembler} {frameId : UInt32} {n : UInt16}
variable {size : Nat} {arrived : List Fragment}

/- A fragment that agrees with the held part joins it. -/
theorem Holds.step_eq
    (hHolds : r.Holds frameId n size arrived)
    {f : Fragment}
    (hId : f.frameId = frameId)
    (hCount : f.count.toNat = n.toNat)
    (hIndex : f.index.toNat < n.toNat) :
    let x :=
      store { r with live := none }
        (Assembly.gather frameId n arrived) f {}
    r.step (.fragment f) = (.taken x.1, x.2) := by
  have hFault : r.fault? f = none := by
    rw [fault?_eq_none_iff, hCount]
    refine ⟨hIndex, ?_⟩
    intro a hLive _
    rw [hHolds.live_eq, Option.some.injEq] at hLive
    rw [← hLive, Assembly.count_gather]
  have hPush :=
    push_of_joins hFault hHolds.live_eq
      (by rw [Assembly.frameId_gather, hId])
  rw [step, stepFragment, hPush]

/-
  A fragment that is not the last one of its frame joins the
  part, and nothing is completed.
-/
theorem Holds.step
    (hHolds : r.Holds frameId n size arrived)
    (hFits : (n.toNat - 1) * size ≤ r.config.maxFrameSize)
    {f : Fragment}
    (hId : f.frameId = frameId)
    (hCount : f.count.toNat = n.toNat)
    (hShort : Assembly.FallsShort n size [f]) :
    (r.step (.fragment f)).1.ingest.completed = none ∧
      (r.step (.fragment f)).2.Holds frameId n size
        (arrived ++ [f]) := by
  have hBoth := hHolds.fallsShort.append hShort
  have hBefore := (hShort f (by simp)).1
  have hOpen :=
    hBoth.not_isComplete_gather (by omega) frameId
  have hSmall := hBoth.buffered_gather_le frameId
  rw [Assembly.gather_concat] at hOpen hSmall
  rw [hHolds.step_eq hId hCount (by omega)]
  rcases store_cases { r with live := none }
      (Assembly.gather frameId n arrived) f {} with
    ⟨hOver, _⟩ | ⟨_, hDone, _⟩ | ⟨_, _, hStore⟩
  · dsimp only at hOver
    omega
  · exact absurd hDone hOpen
  · rw [hStore]
    refine ⟨rfl, hHolds.lastStarted_eq, ?_, hBoth⟩
    rw [Assembly.gather_concat]

/-
  Fragments that are not the last ones of their frame join
  the part, and nothing is completed.
-/
theorem Holds.run
    (hHolds : r.Holds frameId n size arrived)
    (hFits : (n.toNat - 1) * size ≤ r.config.maxFrameSize)
    {gs : List Fragment}
    (hOwn :
      ∀ f ∈ gs,
        f.frameId = frameId ∧ f.count.toNat = n.toNat)
    (hShort : Assembly.FallsShort n size gs) :
    completions (r.run (gs.map .fragment)) = [] ∧
      (r.after (gs.map .fragment)).Holds frameId n size
        (arrived ++ gs) := by
  induction gs using List.reverseRecOn with
  | nil =>
      rw [List.append_nil]
      exact ⟨rfl, hHolds⟩
  | append_singleton gs f ih =>
      rcases hOwn f (by simp) with ⟨hId, hCount⟩
      rcases ih (fun g hg => hOwn g (by simp [hg]))
          (fun g hg => hShort g (by simp [hg])) with
        ⟨hNone, hBefore⟩
      rcases hBefore.step (by rw [config_after]; exact hFits)
          hId hCount (fun g hg => hShort g (by simp_all))
        with ⟨hNow, hAfter⟩
      rw [List.append_assoc] at hAfter
      simp only [List.map_append, List.map_singleton,
        run_append, completions_append, hNone, after_concat]
      refine ⟨?_, hAfter⟩
      rw [completions_run_cons, hNow]
      rfl

end Held

------------------------------------------------------------
-- One Frame
------------------------------------------------------------

section Cut

variable {r : Reassembler} {frameId : UInt32} {n : UInt16}
variable {data : Bytes} {mtu : Nat} {fs sent : List Fragment}

/- The arrivals of fragments bring these fragments. -/
theorem exists_fragment_of_mem_map
    (hSubset : sent ⊆ fs) :
    ∀ e ∈ sent.map Event.fragment,
      ∃ f ∈ fs, e.fragment? = some f := by
  intro e he
  rcases List.mem_map.mp he with ⟨f, hf, rfl⟩
  exact ⟨f, hSubset hf, rfl⟩

/- The arrivals of all fragments cover them. -/
theorem covers_fragments
    (fs : List Fragment) :
    Covers fs (fs.map .fragment) := by
  intro f hf
  exact ⟨.fragment f, List.mem_map_of_mem hf, rfl⟩

/- There is an arrival of a frame that was cut. -/
theorem map_fragment_ne_nil
    (hCut : Fragment.IsCut frameId data fs) :
    fs.map Event.fragment ≠ [] := by
  apply List.ne_nil_of_length_pos
  rw [List.length_map]
  exact hCut.length_pos

/- A frame that fails falls short of its last fragment. -/
theorem fallsShort_of_part
    (hSplit : Fragment.split frameId data mtu = .ok fs)
    (hCount : n.toNat = fs.length)
    (hPrefix : sent <+: fs)
    (hPart : sent ≠ fs) :
    Assembly.FallsShort n (Fragment.sliceSize mtu) sent := by
  intro f hf
  have hCut := Fragment.isCut_of_split hSplit
  have hIndex := hCut.index_lt_of_front hPrefix hf
  have hLess : sent.length < fs.length := by
    apply Nat.lt_of_le_of_ne hPrefix.length_le
    intro hSame
    exact hPart (hPrefix.eq_of_length hSame)
  refine ⟨by omega, ?_⟩
  exact
    Fragment.length_payload_le_of_split hSplit
      (hPrefix.subset hf)

/- The full slices of a frame are within its size. -/
theorem pred_mul_sliceSize_le
    (hSplit : Fragment.split frameId data mtu = .ok fs)
    (hCount : n.toNat = fs.length) :
    (n.toNat - 1) * Fragment.sliceSize mtu ≤
      data.length := by
  rw [hCount, Fragment.length_of_split hSplit]
  exact Fragment.pred_sliceCount_mul_sliceSize_le _ _

/-
  A frame that is sent over a part of a frame with as many
  fragments is completed.
-/
theorem Holds.run_of_isCut
    {arrived : List Fragment}
    (hHolds :
      r.Holds frameId n (Fragment.sliceSize mtu) arrived)
    (hSplit : Fragment.split frameId data mtu = .ok fs)
    (hCount : n.toNat = fs.length)
    (hSize : data.length ≤ r.config.maxFrameSize) :
    completions (r.run (fs.map .fragment)) =
        [⟨frameId, data⟩] ∧
      (r.after (fs.map .fragment)).lastStarted =
        some frameId ∧
      (r.after (fs.map .fragment)).live = none := by
  have hCut := Fragment.isCut_of_split hSplit
  rcases List.eq_nil_or_concat fs with hNil | hConcat
  · have hPos := hCut.length_pos
    rw [hNil] at hPos
    exact absurd hPos (by simp)
  rcases hConcat with ⟨front, f, hFront⟩
  rw [List.concat_eq_append] at hFront
  have hOwn :
      ∀ g ∈ fs,
        g.frameId = frameId ∧ g.count.toNat = n.toNat := by
    intro g hg
    rw [hCut.count_eq g hg, hCount]
    exact ⟨hCut.frameId_eq g hg, rfl⟩
  have hShort :=
    fallsShort_of_part hSplit hCount
      (hFront ▸ List.prefix_append front [f])
      (by simp [hFront])
  have hLast : f ∈ fs := by
    simp [hFront]
  have hIndex := hCut.index_lt hLast
  rcases hHolds.run
      ((pred_mul_sliceSize_le hSplit hCount).trans hSize)
      (fun g hg => hOwn g (by simp [hFront, hg])) hShort
    with ⟨hNone, hBefore⟩
  rcases Assembly.gather_append_of_isCut hCut hCount
      hHolds.fallsShort.index_lt with
    ⟨hComplete, hData, hBuffered⟩
  rw [hFront, ← List.append_assoc, Assembly.gather_concat]
    at hComplete hData hBuffered
  rw [hFront, List.map_append, List.map_singleton,
    run_append, completions_append, after_concat, hNone,
    completions_run_cons,
    hBefore.step_eq (hOwn f hLast).1 (hOwn f hLast).2
      (by rw [← (hOwn f hLast).2]; exact hIndex)]
  rcases store_cases
      { r.after (front.map .fragment) with live := none }
      (Assembly.gather frameId n (arrived ++ front)) f {}
    with ⟨hOver, _⟩ | ⟨_, _, hStore⟩ | ⟨_, hOpen, _⟩
  · rw [hBuffered] at hOver
    simp only [config_after] at hOver
    omega
  · rw [hStore, hData, Assembly.frameId_gather]
    exact ⟨rfl, hBefore.lastStarted_eq, rfl⟩
  · exact absurd hComplete hOpen

/-
  The first fragments of a frame that may be started are
  held.
-/
theorem holds_of_start
    (hSplit : Fragment.split frameId data mtu = .ok fs)
    (hSize : data.length ≤ r.config.maxFrameSize)
    (hOther : r.liveFrameId ≠ some frameId)
    (hPosition : r.positionOf frameId ≠ .stale)
    (hPrefix : sent <+: fs)
    (hPart : sent ≠ fs)
    (hSome : sent ≠ []) :
    completions (r.run (sent.map .fragment)) = [] ∧
      (r.after (sent.map .fragment)).Holds frameId
        (UInt16.ofNat fs.length) (Fragment.sliceSize mtu)
        sent := by
  have hCut := Fragment.isCut_of_split hSplit
  have hCount := toNat_length_of_isCut hCut
  have hShort :=
    fallsShort_of_part hSplit hCount hPrefix hPart
  have hArrivals :
      arrivals fs (sent.map .fragment) = sent := by
    have hAll : ∀ f ∈ sent, f ∈ fs :=
      fun f hf => hPrefix.subset hf
    simpa [arrivals, Event.fragment?, List.filterMap_map,
      Function.comp_def] using hAll
  have hMissing : ¬ Covers fs (sent.map .fragment) := by
    rw [covers_iff, hArrivals,
      ← Assembly.isComplete_gather_iff_of_isCut hCut hCount
        (fun f hf => hPrefix.subset hf)]
    apply hShort.not_isComplete_gather
    rw [hCount]
    exact hCut.length_pos
  rcases run_of_start hCut hSize hOther hPosition
      (by simpa using hSome)
      (exists_fragment_of_mem_map hPrefix.subset) with
    ⟨_, hNone, hGathers⟩
  rw [if_neg hMissing] at hNone
  have hLive := hGathers.live_of_missing hMissing
  rw [hArrivals] at hLive
  exact ⟨hNone, hGathers.lastStarted_eq, hLive, hShort⟩

end Cut

------------------------------------------------------------
-- Frame After Frame
------------------------------------------------------------

/-
  The receiver is ready for the next frame of a writer: it
  may start the frame, or it holds a part of one that was to
  have the same number.
-/
def Awaits
    (r : Reassembler)
    (w : FragmentWriter)
    (left : Option Bytes) : Prop :=
  match left with
  | none =>
      r.liveFrameId ≠ some w.nextFrameId ∧
        r.positionOf w.nextFrameId ≠ .stale
  | some part =>
      ∃ n arrived,
        n.toNat =
            Fragment.sliceCount part.length w.mtu ∧
          r.Holds w.nextFrameId n
            (Fragment.sliceSize w.mtu) arrived

/- The number after the one started last may be started. -/
theorem awaits_next
    {r : Reassembler}
    {w : FragmentWriter}
    (hLast : r.lastStarted = some w.nextFrameId)
    (hLive : ∀ a ∈ r.live, a.frameId = w.nextFrameId) :
    r.Awaits { w with nextFrameId := w.nextFrameId + 1 }
      none := by
  have hOne := Position.distance_succ w.nextFrameId
  refine ⟨?_, ?_⟩
  · intro hSame
    rcases Option.map_eq_some_iff.mp hSame with
      ⟨a, hSome, hId⟩
    dsimp only at hId
    rw [← hId, hLive a hSome] at hOne
    simp [Position.distance] at hOne
  · have hForward :
        Position.IsForward
          (Position.distance w.nextFrameId
            (w.nextFrameId + 1)) := by
      rw [hOne]
      decide
    rw [positionOf, hLast, Position.of_eq_ahead _ hForward]
    simp

section Sent

variable {r : Reassembler} {w : FragmentWriter}
variable {left : Option Bytes} {data : Bytes}
variable {fs sent : List Fragment}

/-
  Fragments of a frame with another number of fragments than
  the one of which a part is held are all refused.
-/
theorem Awaits.run_of_not_agrees
    (hAwaits : r.Awaits w left)
    (hSplit :
      Fragment.split w.nextFrameId data w.mtu = .ok fs)
    (hAgrees : ¬ Sender.Agrees w.mtu left data)
    (hSubset : sent ⊆ fs) :
    completions (r.run (sent.map .fragment)) = [] ∧
      SameFrames r (r.after (sent.map .fragment)) ∧
      r.lastStarted = some w.nextFrameId ∧
      ∀ a ∈ r.live, a.frameId = w.nextFrameId := by
  have hCut := Fragment.isCut_of_split hSplit
  cases left with
  | none => simp [Sender.Agrees] at hAgrees
  | some part =>
      rcases hAwaits with ⟨n, arrived, hCount, hHolds⟩
      have hOther : fs.length ≠ n.toNat := by
        intro hSame
        apply hAgrees
        simp [Sender.Agrees, ← hCount, ← hSame,
          Fragment.length_of_split hSplit]
      have hDisagree :
          ∀ f ∈ sent,
            f.frameId =
                (Assembly.gather w.nextFrameId n
                  arrived).frameId ∧
              f.count.toNat ≠
                (Assembly.gather w.nextFrameId n
                  arrived).count := by
        intro f hf
        rw [Assembly.frameId_gather, Assembly.count_gather,
          hCut.count_eq f (hSubset hf)]
        exact ⟨hCut.frameId_eq f (hSubset hf), hOther⟩
      rcases run_of_disagrees hHolds.live_eq hDisagree with
        ⟨hNone, hSame⟩
      refine ⟨hNone, hSame, hHolds.lastStarted_eq, ?_⟩
      intro a hLive
      rw [hHolds.live_eq, Option.mem_some_iff] at hLive
      rw [← hLive, Assembly.frameId_gather]

/-
  A frame that is sent is completed if it agrees with what
  is held, and leaves the receiver ready for the next one.
-/
theorem Awaits.run_of_sent
    (hAwaits : r.Awaits w left)
    (hSplit :
      Fragment.split w.nextFrameId data w.mtu = .ok fs)
    (hSize : data.length ≤ r.config.maxFrameSize) :
    completions (r.run (fs.map .fragment)) =
        (if Sender.Agrees w.mtu left data then
          [⟨w.nextFrameId, data⟩]
        else []) ∧
      (r.after (fs.map .fragment)).Awaits
        { w with nextFrameId := w.nextFrameId + 1 }
        none := by
  have hCut := Fragment.isCut_of_split hSplit
  by_cases hAgrees : Sender.Agrees w.mtu left data
  · rw [if_pos hAgrees]
    cases left with
    | none =>
        have hCovers := covers_fragments fs
        rcases run_of_start hCut hSize hAwaits.1 hAwaits.2
            (map_fragment_ne_nil hCut)
            (exists_fragment_of_mem_map
              (List.Subset.refl fs)) with
          ⟨_, hDone, hGathers⟩
        rw [if_pos hCovers] at hDone
        refine ⟨hDone, awaits_next ?_ ?_⟩
        · exact hGathers.lastStarted_eq
        · simp [hGathers.live_of_covers hCovers]
    | some part =>
        rcases hAwaits with ⟨n, arrived, hCount, hHolds⟩
        rw [hAgrees part rfl,
          ← Fragment.length_of_split hSplit] at hCount
        rcases hHolds.run_of_isCut hSplit hCount hSize with
          ⟨hDone, hLast, hIdle⟩
        refine ⟨hDone, awaits_next hLast ?_⟩
        simp [hIdle]
  · rw [if_neg hAgrees]
    rcases hAwaits.run_of_not_agrees hSplit hAgrees
        (List.Subset.refl fs) with
      ⟨hNone, hSame, hLast, hLive⟩
    refine ⟨hNone, awaits_next ?_ ?_⟩
    · rw [hSame.lastStarted_eq]
      exact hLast
    · rw [hSame.live_eq]
      exact hLive

/-
  A frame that fails completes nothing.  If some of it was
  sent, the receiver holds a part of it, unless it held one
  before.
-/
theorem Awaits.run_of_failed
    (hAwaits : r.Awaits w left)
    (hSplit :
      Fragment.split w.nextFrameId data w.mtu = .ok fs)
    (hSize : data.length ≤ r.config.maxFrameSize)
    (hPrefix : sent <+: fs)
    (hPart : sent ≠ fs)
    (hSome : sent ≠ []) :
    completions (r.run (sent.map .fragment)) = [] ∧
      (r.after (sent.map .fragment)).Awaits w
        (left.or (some data)) := by
  have hCut := Fragment.isCut_of_split hSplit
  have hLength := Fragment.length_of_split hSplit
  cases left with
  | none =>
      rcases holds_of_start hSplit hSize hAwaits.1
          hAwaits.2 hPrefix hPart hSome with
        ⟨hNone, hHolds⟩
      refine ⟨hNone, UInt16.ofNat fs.length, sent, ?_, ?_⟩
      · rw [toNat_length_of_isCut hCut, hLength]
      · exact hHolds
  | some part =>
      rw [Option.some_or]
      by_cases hAgrees :
          Sender.Agrees w.mtu (some part) data
      · rcases hAwaits with ⟨n, arrived, hCount, hHolds⟩
        have hSame : n.toNat = fs.length := by
          rw [hCount, hAgrees part rfl, hLength]
        rcases hHolds.run
            ((pred_mul_sliceSize_le hSplit hSame).trans
              hSize)
            (fun f hf =>
              ⟨hCut.frameId_eq f (hPrefix.subset hf),
                (hCut.count_eq f
                  (hPrefix.subset hf)).trans hSame.symm⟩)
            (fallsShort_of_part hSplit hSame hPrefix
              hPart) with
          ⟨hNone, hAfter⟩
        exact ⟨hNone, n, _, hCount, hAfter⟩
      · rcases hAwaits.run_of_not_agrees hSplit hAgrees
            hPrefix.subset with
          ⟨hNone, hSame, _, _⟩
        rcases hAwaits with ⟨n, arrived, hCount, hHolds⟩
        refine ⟨hNone, n, arrived, hCount, ?_⟩
        exact
          ⟨hSame.lastStarted_eq.trans
              hHolds.lastStarted_eq,
            hSame.live_eq.trans hHolds.live_eq,
            hHolds.fallsShort⟩

end Sent

/-
  A frame that is sent to a receiver that is ready for it:
  it is completed if it was sent and agrees with what is
  held, and the receiver is ready for the next one.
-/
theorem Awaits.send
    {r : Reassembler}
    {x : Sender}
    {left : Option Bytes}
    (hAwaits : r.Awaits x.writer left)
    {data : Bytes}
    (hSize : data.length ≤ r.config.maxFrameSize) :
    let s := x.send data
    (∀ frameId, s.result = .ok frameId →
      completions (r.run s.events) =
        if Sender.Agrees x.writer.mtu left data then
          [⟨frameId, data⟩]
        else []) ∧
      (∀ e, s.result = .error e →
        completions (r.run s.events) = []) ∧
      (r.after s.events).Awaits s.writer
        (Sender.leave? left (data, s)) := by
  intro s
  have hAttempt : x.writer.Attempt data s :=
    x.writer.attempt data x.sink
  cases hAttempt with
  | unsplit e hResult hNothing hWriter =>
      simp only [Sender.leave?, hResult, hNothing, hWriter,
        Sending.events, List.map_nil]
      refine ⟨?_, ?_, ?_⟩
      · intro frameId hOk
        cases hOk
      · intro _ _
        rfl
      · exact hAwaits
  | failed e fs sent hSplit hPrefix hPart hEncodes hResult
      hWriter =>
      rcases run_datagrams hEncodes r with ⟨hRun, hAfter⟩
      simp only [Sender.leave?, hResult, hWriter,
        Sending.events, hRun, hAfter]
      by_cases hNothing : sent = []
      · subst hNothing
        rw [if_pos (List.forall₂_nil_left_iff.mp hEncodes)]
        refine ⟨?_, ?_, ?_⟩
        · intro frameId hOk
          cases hOk
        · intro _ _
          rfl
        · exact hAwaits
      · have hSome : s.delivery.datagrams ≠ [] := by
          intro hNone
          rw [hNone] at hEncodes
          exact hNothing
            (List.forall₂_nil_right_iff.mp hEncodes)
        rw [if_neg hSome]
        rcases hAwaits.run_of_failed hSplit hSize hPrefix
            hPart hNothing with ⟨hNone, hNext⟩
        refine ⟨?_, ?_, ?_⟩
        · intro frameId hOk
          cases hOk
        · intro _ _
          exact hNone
        · exact hNext
  | sent fs hSplit hEncodes hResult hWriter =>
      rcases run_datagrams hEncodes r with ⟨hRun, hAfter⟩
      rcases hAwaits.run_of_sent hSplit hSize with
        ⟨hDone, hNext⟩
      simp only [Sender.leave?, hResult, hWriter,
        Sending.events, hRun, hAfter]
      refine ⟨?_, ?_, ?_⟩
      · intro frameId hOk
        rw [← Except.ok.inj hOk]
        exact hDone
      · intro e hError
        cases hError
      · exact hNext

/-
  A fresh receiver of what a sender sends is ready for the
  next frame of the sender.
-/
theorem awaits_after
    (config : ReassemblerConfig)
    (x : Sender)
    {frames : List Bytes}
    (hSizes :
      ∀ data ∈ frames, data.length ≤ config.maxFrameSize) :
    (after { config := config }
        (Sender.events (x.run frames))).Awaits
      (x.after frames).writer
      (Sender.remnant? (x.run frames)) := by
  induction frames using List.reverseRecOn with
  | nil =>
      refine ⟨?_, ?_⟩
      · simp [liveFrameId, after, Sender.events,
          Sender.run]
      · simp [positionOf, after, Sender.events, Sender.run,
          Position.of]
  | append_singleton frames data ih =>
      have hBefore :=
        ih (fun other hOther => hSizes other (by
          simp [hOther]))
      have hSize : data.length ≤ config.maxFrameSize :=
        hSizes data (by simp)
      have hEvents :
          Sender.events (x.run (frames ++ [data])) =
            Sender.events (x.run frames) ++
              ((x.after frames).send data).events := by
        simp [Sender.events, Sender.run_concat]
      have hLeft :
          Sender.remnant? (x.run (frames ++ [data])) =
            Sender.leave? (Sender.remnant? (x.run frames))
              (data, (x.after frames).send data) := by
        simp [Sender.remnant?, Sender.run_concat]
      rw [hEvents, hLeft, after_append, Sender.after_concat]
      refine (hBefore.send ?_).2.2
      rw [config_after]
      exact hSize

/-
  The datagrams of a frame that was sent complete it under
  its number, and nothing else, unless the receiver holds a
  part of a failed frame that was to have this number and
  has another number of fragments.  Those of a frame that
  fails never complete anything.
-/
theorem sent_frame_completes_iff_agrees
    (config : ReassemblerConfig)
    (x : Sender)
    (frames : List Bytes)
    (data : Bytes)
    (hSizes :
      ∀ frame ∈ frames ++ [data],
        frame.length ≤ config.maxFrameSize) :
    let log := x.run frames
    let s := (x.after frames).send data
    let r :=
      after { config := config } (Sender.events log)
    (∀ frameId, s.result = .ok frameId →
      completions (r.run s.events) =
        if Sender.Agrees x.writer.mtu
            (Sender.remnant? log) data then
          [⟨frameId, data⟩]
        else []) ∧
      ∀ e, s.result = .error e →
        completions (r.run s.events) = [] := by
  intro log s r
  have hFront :
      ∀ frame ∈ frames,
        frame.length ≤ config.maxFrameSize :=
    fun frame hFrame => hSizes frame (by simp [hFrame])
  have hAwaits := awaits_after config x hFront
  have hSize : data.length ≤ r.config.maxFrameSize := by
    rw [config_after]
    exact hSizes data (by simp)
  rcases hAwaits.send hSize with ⟨hSent, hFailed, _⟩
  rw [Sender.mtu_after] at hSent
  exact ⟨hSent, hFailed⟩

/-
  A frame fails at its last fragment, the next one at its
  second, and a third one with as many fragments is completed
  over what they left.
-/
theorem sent_frame_completes_iff_agrees_after_failures :
    let x : Sender :=
      { writer := .withMtu 2
        sink :=
          { results :=
              [none, none, some .messageTooLong, none,
                some ⟨.interrupted, ""⟩,
                some .messageTooLong] } }
    let frames : List Bytes := [[1, 2, 3, 4, 5], [6, 7, 8]]
    let data : Bytes := [9, 10, 11, 12, 13, 14]
    (∀ frame ∈ frames ++ [data], frame.length ≤ 6) ∧
      completions
          ((after { config := { maxFrameSize := 6 } }
              (Sender.events (x.run frames))).run
            ((x.after frames).send data).events) =
        [⟨0, data⟩] := by
  intro x frames data
  have hSizes :
      ∀ frame ∈ frames ++ [data], frame.length ≤ 6 := by
    decide
  have hSent :
      ((x.after frames).send data).result = .ok 0 := by
    cbv
  have hAgrees :
      Sender.Agrees x.writer.mtu
        (Sender.remnant? (x.run frames)) data := by
    decide
  have hDone :=
    (sent_frame_completes_iff_agrees { maxFrameSize := 6 } x
      frames data hSizes).1 0 hSent
  rw [if_pos hAgrees] at hDone
  exact ⟨hSizes, hDone⟩

/-
  A frame of one fragment is sent after one of two fragments
  failed at the second, and is not completed.
-/
theorem not_all_sent_frames_complete :
    ¬ ∀ (config : ReassemblerConfig) (mtu : Nat)
        (sink : DatagramSink) (frames : List Bytes)
        (data : Bytes) (later : List Bytes)
        (frameId : UInt32),
        let x : Sender := ⟨.withMtu mtu, sink⟩
        (∀ frame ∈ frames ++ data :: later,
          frame.length ≤ config.maxFrameSize) →
          (frames ++ data :: later).length < 2147483648 →
            ((x.after frames).send data).result =
                .ok frameId →
              ⟨frameId, data⟩ ∈
                completions
                  (run { config := config }
                    (Sender.events
                      (x.run
                        (frames ++ data :: later)))) := by
  intro hAll
  have hLost :=
    hAll {} 1 { results := [none, some .messageTooLong] }
      [[1, 2]] [3] [] 0 (by decide) (by decide) (by rfl)
  revert hLost
  decide

end Reassembler

end Reframe
