import Reframe.Proofs.Fragment.Codec
import Reframe.Proofs.Reassembler.Delivery

/-
  Frames are cut, sent over a channel that loses, repeats
  and reorders the datagrams of each frame, and rebuilt.

  Frames of which nothing arrives leave a gap, frames of
  which a part arrives are abandoned at the next one, and
  all others are completed.  This holds across the wrap of
  the frame numbers, as long as fewer than half a lap of
  frames in a row are lost.

  Main declarations:
    * `Shipment`
    * `Shipment.IsSound`
    * `Shipment.IsComplete`
    * `Reassembler.run_of_chain`
    * `Reassembler.delivers_over_lossy_channel`
-/

namespace Reframe

------------------------------------------------------------
-- Shipments
------------------------------------------------------------

/-
  A frame on its way over a channel: its bytes, the size of
  the slices it is cut into, and the datagrams that arrive.
-/
structure Shipment where
  data : Bytes
  mtu : Nat
  delivered : List Bytes
deriving DecidableEq, Repr

namespace Shipment

/- The fragments of a frame under its number. -/
def fragments
    (s : Shipment)
    (frameId : UInt32) : List Fragment :=
  (Fragment.split frameId s.data s.mtu).toOption.getD []

/-
  The frame can be cut and is within the limit, and what
  arrives are datagrams of its fragments.
-/
structure IsSound
    (s : Shipment)
    (frameId : UInt32)
    (limit : Nat) : Prop where
  splits :
    Fragment.split frameId s.data s.mtu =
      .ok (s.fragments frameId)
  length_le : s.data.length ≤ limit
  drawn :
    ∀ d ∈ s.delivered,
      ∃ f ∈ s.fragments frameId, f.encode [] = .ok d

/- A datagram of each fragment arrives. -/
def IsComplete
    (s : Shipment)
    (frameId : UInt32) : Prop :=
  ∀ f ∈ s.fragments frameId,
    ∃ d ∈ s.delivered, f.encode [] = .ok d

instance
    (s : Shipment)
    (frameId : UInt32) :
    Decidable (s.IsComplete frameId) := by
  unfold IsComplete
  infer_instance

/- The arrivals of the datagrams of a frame. -/
def events
    (s : Shipment) : List Reassembler.Event :=
  s.delivered.map .datagram

/- What arrives of a frame are its fragments. -/
theorem IsSound.fragment_of_mem_events
    {s : Shipment}
    {frameId : UInt32}
    {limit : Nat}
    (hSound : s.IsSound frameId limit)
    {e : Reassembler.Event}
    (he : e ∈ s.events) :
    ∃ f ∈ s.fragments frameId, e.fragment? = some f := by
  rcases List.mem_map.mp he with ⟨d, hd, rfl⟩
  rcases hSound.drawn d hd with ⟨f, hf, hEncode⟩
  have hDecode := Fragment.decode_of_encode hEncode
  refine ⟨f, hf, ?_⟩
  simp [Reassembler.Event.fragment?, hDecode,
    Except.toOption]

/- All fragments arrive when a datagram of each does. -/
theorem IsSound.covers_iff_isComplete
    {s : Shipment}
    {frameId : UInt32}
    {limit : Nat}
    (hSound : s.IsSound frameId limit) :
    Reassembler.Covers (s.fragments frameId) s.events ↔
      s.IsComplete frameId := by
  constructor
  · intro hCovers f hf
    rcases hCovers f hf with ⟨e, he, hFragment⟩
    rcases List.mem_map.mp he with ⟨d, hd, rfl⟩
    rcases hSound.drawn d hd with ⟨g, hg, hEncode⟩
    have hDecode := Fragment.decode_of_encode hEncode
    have hSame : g = f := by
      simpa [Reassembler.Event.fragment?, hDecode,
        Except.toOption] using hFragment
    subst hSame
    exact ⟨d, hd, hEncode⟩
  · intro hComplete f hf
    rcases hComplete f hf with ⟨d, hd, hEncode⟩
    have hDecode := Fragment.decode_of_encode hEncode
    refine ⟨.datagram d, List.mem_map_of_mem hd, ?_⟩
    simp [Reassembler.Event.fragment?, hDecode,
      Except.toOption]

/- Nothing is complete of which nothing arrives. -/
theorem IsSound.delivered_ne_nil
    {s : Shipment}
    {frameId : UInt32}
    {limit : Nat}
    (hSound : s.IsSound frameId limit)
    (hComplete : s.IsComplete frameId) :
    s.delivered ≠ [] := by
  intro hNil
  rw [← hSound.covers_iff_isComplete, events, hNil]
    at hComplete
  exact Reassembler.not_covers_nil
    (Fragment.isCut_of_split hSound.splits) hComplete

end Shipment

namespace Reassembler

------------------------------------------------------------
-- One Frame After Another
------------------------------------------------------------

/- The frame that the receiver rebuilds of a shipment. -/
def frameAt
    (start : UInt32)
    (p : Shipment × Nat) : CompletedFrame where
  frameId := numberAt start p.2
  data := p.1.data

/- The turn from one frame to the next one that arrives. -/
def turnBetween
    (start : UInt32)
    (p q : Shipment × Nat) : Turn where
  started := some (numberAt start q.2)
  abandoned :=
    if p.1.IsComplete (numberAt start p.2) then none
    else some (numberAt start p.2)
  gap :=
    if p.2 + 1 < q.2 then
      some ⟨numberAt start p.2, numberAt start q.2⟩
    else none

/- What arrives of a frame that may be started. -/
theorem run_of_shipment
    {r : Reassembler}
    {start : UInt32}
    {p : Shipment × Nat}
    (hSound :
      p.1.IsSound (numberAt start p.2)
        r.config.maxFrameSize)
    (hDelivered : p.1.delivered ≠ [])
    (hOther : r.liveFrameId ≠ some (numberAt start p.2))
    (hPosition :
      r.positionOf (numberAt start p.2) ≠ .stale) :
    turns (r.run p.1.events) =
        [⟨some (numberAt start p.2), r.liveFrameId,
          r.gapBefore (numberAt start p.2)⟩] ∧
      completions (r.run p.1.events) =
        (if p.1.IsComplete (numberAt start p.2) then
          [frameAt start p]
        else []) ∧
      (r.after p.1.events).Gathers (numberAt start p.2)
        (p.1.fragments (numberAt start p.2)) p.1.events := by
  have hCut := Fragment.isCut_of_split hSound.splits
  have hNonempty : p.1.events ≠ [] := by
    simpa [Shipment.events] using hDelivered
  have hEvents :
      ∀ e ∈ p.1.events,
        ∃ f ∈ p.1.fragments (numberAt start p.2),
          e.fragment? = some f :=
    fun e he => hSound.fragment_of_mem_events he
  rcases run_of_start hCut hSound.length_le hOther
      hPosition hNonempty hEvents with
    ⟨hTurns, hCompletions, hGathers⟩
  simp only [hSound.covers_iff_isComplete] at hCompletions
  exact ⟨hTurns, hCompletions, hGathers⟩

/-
  After the datagrams of one frame, the next frame that is
  less than half a lap ahead may be started, and the turn to
  it is known.
-/
theorem Gathers.turn_eq
    {r : Reassembler}
    {start : UInt32}
    {p q : Shipment × Nat}
    {limit : Nat}
    (hSound : p.1.IsSound (numberAt start p.2) limit)
    (hGathers :
      r.Gathers (numberAt start p.2)
        (p.1.fragments (numberAt start p.2)) p.1.events)
    (hOrder : p.2 < q.2)
    (hNear : q.2 - p.2 < 2147483648) :
    r.liveFrameId ≠ some (numberAt start q.2) ∧
      r.positionOf (numberAt start q.2) ≠ .stale ∧
      Turn.mk (some (numberAt start q.2)) r.liveFrameId
          (r.gapBefore (numberAt start q.2)) =
        turnBetween start p q := by
  have hForward :=
    isForward_distance_numberAt start hOrder hNear
  have hPosition :
      r.positionOf (numberAt start q.2) =
        .ahead (SequenceGap.missing
          ⟨numberAt start p.2, numberAt start q.2⟩) := by
    rw [positionOf, hGathers.lastStarted_eq]
    exact Position.of_eq_ahead _ hForward
  have hMissing :=
    toNat_missing_numberAt start hOrder (by omega)
  have hGap :
      r.gapBefore (numberAt start q.2) =
        (turnBetween start p q).gap := by
    have hPositive :
        0 < SequenceGap.missing
            ⟨numberAt start p.2, numberAt start q.2⟩ ↔
          p.2 + 1 < q.2 := by
      rw [UInt32.lt_iff_toNat_lt, hMissing]
      change 0 < q.2 - p.2 - 1 ↔ p.2 + 1 < q.2
      omega
    simp only [gapBefore, hPosition,
      hGathers.lastStarted_eq, hPositive, turnBetween]
  have hLive :
      r.liveFrameId = (turnBetween start p q).abandoned := by
    have hCovers := hSound.covers_iff_isComplete
    by_cases hComplete :
        p.1.IsComplete (numberAt start p.2)
    · simp [liveFrameId, turnBetween, hComplete,
        hGathers.live_of_covers (hCovers.mpr hComplete)]
    · have hMissingOne :=
        hGathers.live_of_missing (mt hCovers.mp hComplete)
      simp [liveFrameId, turnBetween, hComplete,
        hMissingOne]
  refine ⟨?_, ?_, ?_⟩
  · rw [hLive]
    intro hSame
    have hEqual :
        numberAt start p.2 = numberAt start q.2 := by
      by_cases hComplete :
          p.1.IsComplete (numberAt start p.2)
      · simp [turnBetween, hComplete] at hSame
      · simpa [turnBetween, hComplete] using hSame
    have hDistance :=
      toNat_distance_numberAt start (i := p.2) (j := q.2)
        (by omega) (by omega)
    rw [← hEqual] at hDistance
    simp [Position.distance] at hDistance
    omega
  · rw [hPosition]
    simp
  · rw [hLive, hGap]
    rfl

/-
  The frames of which something arrives, one after another:
  the first one is started, and then each turn is known.
-/
theorem run_of_chain
    {r : Reassembler}
    {start : UInt32}
    {p : Shipment × Nat}
    {ps : List (Shipment × Nat)}
    (hSound :
      ∀ q ∈ p :: ps,
        q.1.IsSound (numberAt start q.2)
          r.config.maxFrameSize)
    (hDelivered : ∀ q ∈ p :: ps, q.1.delivered ≠ [])
    (hPairs :
      ∀ pq ∈ (p :: ps).zip ps,
        pq.1.2 < pq.2.2 ∧ pq.2.2 - pq.1.2 < 2147483648)
    (hOther : r.liveFrameId ≠ some (numberAt start p.2))
    (hPosition :
      r.positionOf (numberAt start p.2) ≠ .stale) :
    let run :=
      r.run ((p :: ps).flatMap (fun q => q.1.events))
    turns run =
        ⟨some (numberAt start p.2), r.liveFrameId,
            r.gapBefore (numberAt start p.2)⟩ ::
          ((p :: ps).zip ps).map
            (fun pq => turnBetween start pq.1 pq.2) ∧
      completions run =
        ((p :: ps).filter
          (fun q =>
            q.1.IsComplete (numberAt start q.2))).map
          (frameAt start) := by
  intro run
  induction ps generalizing r p with
  | nil =>
      rcases run_of_shipment (hSound p (by simp))
          (hDelivered p (by simp)) hOther hPosition with
        ⟨hTurns, hCompletions, _⟩
      have hRun : run = r.run p.1.events := by
        simp [run]
      rw [hRun, hTurns, hCompletions]
      refine ⟨rfl, ?_⟩
      by_cases hComplete :
          p.1.IsComplete (numberAt start p.2) <;>
        simp [hComplete]
  | cons q ps ih =>
      rcases run_of_shipment (hSound p (by simp))
          (hDelivered p (by simp)) hOther hPosition with
        ⟨hTurns, hCompletions, hGathers⟩
      rw [List.zip_cons_cons, List.forall_mem_cons]
        at hPairs
      rcases hPairs with ⟨⟨hOrder, hNear⟩, hPairs'⟩
      rcases hGathers.turn_eq (hSound p (by simp)) hOrder
          hNear with ⟨hOther', hPosition', hTurn⟩
      have hSound' :
          ∀ q' ∈ q :: ps,
            q'.1.IsSound (numberAt start q'.2)
              (r.after
                p.1.events).config.maxFrameSize := by
        rw [config_after]
        exact fun q' hq' =>
          hSound q' (List.mem_cons_of_mem p hq')
      have hDelivered' :
          ∀ q' ∈ q :: ps, q'.1.delivered ≠ [] :=
        fun q' hq' =>
          hDelivered q' (List.mem_cons_of_mem p hq')
      rcases ih hSound' hDelivered' hPairs' hOther'
          hPosition' with ⟨hAllTurns, hAllCompletions⟩
      have hRun :
          run =
            r.run p.1.events ++
              (r.after p.1.events).run
                ((q :: ps).flatMap
                  (fun q => q.1.events)) := by
        simp only [run]
        rw [List.flatMap_cons, run_append]
      rw [hRun, turns_append, completions_append, hTurns,
        hAllTurns, hCompletions, hAllCompletions, hTurn]
      refine ⟨rfl, ?_⟩
      by_cases hComplete :
          p.1.IsComplete (numberAt start p.2) <;>
        simp [hComplete]

------------------------------------------------------------
-- All Frames Of A Sender
------------------------------------------------------------

/- The frames of which something arrives. -/
def arriving
    (ships : List Shipment) : List (Shipment × Nat) :=
  ships.zipIdx.filter (fun p => p.1.delivered ≠ [])

/- The frames that arrive one right after the other. -/
def successive
    (ships : List Shipment) :
    List ((Shipment × Nat) × (Shipment × Nat)) :=
  (arriving ships).zip (arriving ships).tail

/- Of two frames in a row the first one comes first. -/
theorem lt_of_mem_zip_tail
    {ps : List (Shipment × Nat)}
    (hOrder : ps.Pairwise (fun p q => p.2 < q.2)) :
    ∀ pq ∈ ps.zip ps.tail, pq.1.2 < pq.2.2 := by
  induction hOrder with
  | nil => simp
  | @cons p ps hHead _ ih =>
      cases ps with
      | nil => simp
      | cons q ps =>
          rw [List.tail_cons, List.zip_cons_cons,
            List.forall_mem_cons]
          exact ⟨hHead q (by simp), ih⟩

/- The frames that arrive stand in order. -/
theorem lt_of_mem_successive
    {ships : List Shipment}
    {pq : (Shipment × Nat) × (Shipment × Nat)}
    (hPair : pq ∈ successive ships) :
    pq.1.2 < pq.2.2 := by
  have hPlaces :
      (ships.zipIdx.map Prod.snd).Pairwise (· < ·) := by
    rw [List.zipIdx_map_snd]
    exact List.pairwise_lt_range'
  have hOrder :
      (arriving ships).Pairwise (fun p q => p.2 < q.2) :=
    (List.pairwise_map.mp hPlaces).filter _
  exact lt_of_mem_zip_tail hOrder pq hPair

/- Frames of which nothing arrives bring no event. -/
theorem events_arriving
    (ships : List Shipment)
    (k : Nat) :
    ((ships.zipIdx k).filter
        (fun p => p.1.delivered ≠ [])).flatMap
        (fun p => p.1.events) =
      ships.flatMap Shipment.events := by
  induction ships generalizing k with
  | nil => rfl
  | cons s ships ih =>
      rw [List.zipIdx_cons, List.filter_cons,
        List.flatMap_cons]
      by_cases hNone : s.delivered = []
      · have hQuiet : s.events = [] := by
          simp [Shipment.events, hNone]
        rw [if_neg (by simpa using hNone), hQuiet,
          List.nil_append]
        exact ih (k + 1)
      · rw [if_pos (by simpa using hNone),
          List.flatMap_cons, ih]

/- What arrives has a place among all frames. -/
theorem mem_arriving_iff
    {ships : List Shipment}
    {p : Shipment × Nat} :
    p ∈ arriving ships ↔
      p ∈ ships.zipIdx ∧ p.1.delivered ≠ [] := by
  simp [arriving]

/- Only frames of which something arrives are complete. -/
theorem filter_isComplete_arriving
    {ships : List Shipment}
    {start : UInt32}
    {limit : Nat}
    (hSound :
      ∀ p ∈ ships.zipIdx,
        p.1.IsSound (numberAt start p.2) limit) :
    (arriving ships).filter
        (fun p => p.1.IsComplete (numberAt start p.2)) =
      ships.zipIdx.filter
        (fun p =>
          p.1.IsComplete (numberAt start p.2)) := by
  rw [arriving, List.filter_filter]
  apply List.filter_congr
  intro p hp
  have hDelivered := (hSound p hp).delivered_ne_nil
  simpa using hDelivered

/-
  Frames are numbered consecutively, cut, sent, and partly
  lost.  Every frame whose fragments all arrive is completed
  once, with its number and its bytes, in order.  The first
  frame of which something arrives is started in place of
  what was under assembly.  At each later one, the frame in
  front of it is abandoned unless it was completed, and the
  frames in between, if there are any, are a gap.
-/
theorem delivers_over_lossy_channel
    (r : Reassembler)
    (start : UInt32)
    (ships : List Shipment)
    (hSound :
      ∀ (i : Nat) (s : Shipment), ships[i]? = some s →
        s.IsSound (numberAt start i) r.config.maxFrameSize)
    (hFirst :
      ∀ p, (arriving ships).head? = some p →
        r.liveFrameId ≠ some (numberAt start p.2) ∧
          r.positionOf (numberAt start p.2) ≠ .stale)
    (hNear :
      ∀ pq ∈ successive ships,
        pq.2.2 - pq.1.2 < 2147483648) :
    let run := r.run (ships.flatMap Shipment.events)
    completions run =
        (ships.zipIdx.filter
          (fun p =>
            p.1.IsComplete (numberAt start p.2))).map
          (frameAt start) ∧
      turns run =
        ((arriving ships).head?.map
          (fun p =>
            ⟨some (numberAt start p.2), r.liveFrameId,
              r.gapBefore (numberAt start p.2)⟩)).toList ++
          (successive ships).map
            (fun pq => turnBetween start pq.1 pq.2) ∧
      ∀ pq ∈ successive ships,
        (SequenceGap.missing
          ⟨numberAt start pq.1.2,
            numberAt start pq.2.2⟩).toNat =
              pq.2.2 - pq.1.2 - 1 := by
  intro run
  have hMissing :
      ∀ pq ∈ successive ships,
        (SequenceGap.missing
          ⟨numberAt start pq.1.2,
            numberAt start pq.2.2⟩).toNat =
              pq.2.2 - pq.1.2 - 1 := by
    intro pq hPair
    have hDistance := hNear pq hPair
    exact toNat_missing_numberAt start
      (lt_of_mem_successive hPair) (by omega)
  have hSoundAt :
      ∀ p ∈ ships.zipIdx,
        p.1.IsSound (numberAt start p.2)
          r.config.maxFrameSize := by
    intro p hp
    exact hSound p.2 p.1
      (List.mem_zipIdx_iff_getElem?.mp hp)
  have hEvents := events_arriving ships 0
  change (arriving ships).flatMap _ = _ at hEvents
  have hPairs :
      ∀ pq ∈ successive ships,
        pq.1.2 < pq.2.2 ∧ pq.2.2 - pq.1.2 < 2147483648 :=
    fun pq hPair =>
      ⟨lt_of_mem_successive hPair, hNear pq hPair⟩
  have hArrives :
      ∀ p ∈ arriving ships,
        p.1.IsSound (numberAt start p.2)
            r.config.maxFrameSize ∧
          p.1.delivered ≠ [] := by
    intro p hp
    rcases mem_arriving_iff.mp hp with ⟨hMember, hSome⟩
    exact ⟨hSoundAt p hMember, hSome⟩
  rw [← filter_isComplete_arriving hSoundAt]
  refine and_assoc.mp ⟨?_, hMissing⟩
  simp only [run, ← hEvents]
  simp only [successive] at hPairs ⊢
  cases hList : arriving ships with
  | nil => simp [Reassembler.run, completions, turns]
  | cons p ps =>
      rw [hList] at hArrives hPairs hFirst
      rcases hFirst p rfl with ⟨hOther, hPosition⟩
      rcases run_of_chain (fun q hq => (hArrives q hq).1)
          (fun q hq => (hArrives q hq).2) hPairs hOther
          hPosition with ⟨hTurns, hCompletions⟩
      exact ⟨hCompletions, hTurns⟩

/-
  While a frame is under assembly, four frames are sent
  across the wrap: the first one arrives out of order and
  repeated, the second one is lost, half of the third one
  is, and the last one arrives.
-/
theorem delivers_over_lossy_channel_across_wrap :
    let r : Reassembler :=
      ({} : Reassembler).after
        [.fragment ⟨4294967294, 0, 2, [9]⟩]
    let ships : List Shipment :=
      [⟨[1, 2], 1,
          [Fragment.wire ⟨4294967295, 1, 2, [2]⟩,
            Fragment.wire ⟨4294967295, 1, 2, [2]⟩,
            Fragment.wire ⟨4294967295, 0, 2, [1]⟩]⟩,
        ⟨[3], 1, []⟩,
        ⟨[4, 5], 1, [Fragment.wire ⟨1, 1, 2, [5]⟩]⟩,
        ⟨[6], 1, [Fragment.wire ⟨2, 0, 1, [6]⟩]⟩]
    let run := r.run (ships.flatMap Shipment.events)
    completions run =
        [⟨4294967295, [1, 2]⟩, ⟨2, [6]⟩] ∧
      turns run =
        [⟨some 4294967295, some 4294967294, none⟩,
          ⟨some 1, none, some ⟨4294967295, 1⟩⟩,
          ⟨some 2, some 1, none⟩] := by
  intro r ships run
  have hSound :
      ∀ (i : Nat) (s : Shipment), ships[i]? = some s →
        s.IsSound (numberAt 4294967295 i)
          r.config.maxFrameSize := by
    intro i s hAt
    rcases i with _ | _ | _ | _ | i
    · cases hAt
      exact ⟨rfl, by decide, by decide⟩
    · cases hAt
      exact ⟨rfl, by decide, by decide⟩
    · cases hAt
      exact ⟨rfl, by decide, by decide⟩
    · cases hAt
      exact ⟨rfl, by decide, by decide⟩
    · simp [ships] at hAt
  have hFirst :
      ∀ p, (arriving ships).head? = some p →
        r.liveFrameId ≠
            some (numberAt 4294967295 p.2) ∧
          r.positionOf (numberAt 4294967295 p.2) ≠
            .stale := by
    intro p hp
    cases hp
    decide
  rcases delivers_over_lossy_channel r 4294967295 ships
      hSound hFirst (by decide) with
    ⟨hCompletions, hTurns, _⟩
  exact ⟨hCompletions.trans (by decide),
    hTurns.trans (by decide)⟩

/- A frame of one byte that arrives. -/
def single
    (frameId : UInt32)
    (byte : UInt8) : Shipment where
  data := [byte]
  mtu := 1
  delivered := [Fragment.wire ⟨frameId, 0, 1, [byte]⟩]

/- A frame of one byte that arrives is sound. -/
theorem isSound_single
    (frameId : UInt32)
    (byte : UInt8)
    {limit : Nat}
    (hLimit : 1 ≤ limit) :
    (single frameId byte).IsSound frameId limit := by
  have hSplit :
      Fragment.split frameId [byte] 1 =
        .ok [⟨frameId, 0, 1, [byte]⟩] := by
    simp [Fragment.split, Fragment.sliceCount,
      Fragment.sliceSize, Fragment.countLimit,
      Fragment.slices]
  have hFragments :
      (single frameId byte).fragments frameId =
        [⟨frameId, 0, 1, [byte]⟩] := by
    simp [Shipment.fragments, single, hSplit,
      Except.toOption]
  refine ⟨?_, hLimit, ?_⟩
  · rw [hFragments]
    exact hSplit
  · intro d hd
    rw [List.mem_singleton.mp hd, hFragments]
    refine ⟨_, List.mem_singleton.mpr rfl, ?_⟩
    simp [Fragment.encode, Fragment.payloadLimit]

/- Any number of frames of which nothing arrives. -/
def silence
    (n : Nat) : List Shipment :=
  List.replicate n ⟨[], 1, []⟩

/- The arrivals of two frames with silence in between. -/
theorem events_silence
    (first last : Shipment)
    (n : Nat) :
    (first :: (silence n ++ [last])).flatMap
        Shipment.events =
      first.events ++ last.events := by
  have hQuiet :
      (silence n).flatMap Shipment.events = [] := by
    simp [silence, Shipment.events]
  rw [List.flatMap_cons, List.flatMap_append, hQuiet]
  simp

/- Two sound frames with silence in between are sound. -/
theorem isSound_silence
    {first last : Shipment}
    {n limit : Nat}
    {start : UInt32}
    (hFirst : first.IsSound (numberAt start 0) limit)
    (hLast : last.IsSound (numberAt start (n + 1)) limit)
    (i : Nat)
    (s : Shipment)
    (hAt : (first :: (silence n ++ [last]))[i]? = some s) :
    s.IsSound (numberAt start i) limit := by
  cases i with
  | zero =>
      cases hAt
      exact hFirst
  | succ i =>
      rw [List.getElem?_cons_succ] at hAt
      rcases Nat.lt_trichotomy i n with hLess | rfl | hMore
      · have hSilent : s = ⟨[], 1, []⟩ := by
          simpa [silence, List.getElem?_append, hLess]
            using hAt.symm
        subst hSilent
        exact ⟨rfl, Nat.zero_le _, by simp⟩
      · have hSame : s = last := by
          simpa [silence, List.getElem?_append]
            using hAt.symm
        rw [hSame]
        exact hLast
      · have hPast : (silence n ++ [last]).length ≤ i := by
          simp [silence]
          omega
        rw [List.getElem?_eq_none hPast] at hAt
        cases hAt

/- The first frame that arrives in front of silence. -/
theorem head?_arriving_silence
    {first last : Shipment}
    {n : Nat}
    (hFirst : first.delivered ≠ []) :
    (arriving (first :: (silence n ++ [last]))).head? =
      some (first, 0) := by
  simp [arriving, hFirst]

/- A complete frame after silence is to be completed. -/
theorem frameAt_mem_of_silence
    {first last : Shipment}
    {n : Nat}
    {start : UInt32}
    (hLast : last.IsComplete (numberAt start (n + 1))) :
    frameAt start (last, n + 1) ∈
      ((first :: (silence n ++ [last])).zipIdx.filter
        (fun p => p.1.IsComplete (numberAt start p.2))).map
        (frameAt start) := by
  apply List.mem_map_of_mem
  rw [List.mem_filter, List.mem_zipIdx_iff_getElem?]
  simp [silence, hLast]

/-
  Past half a lap of lost frames, the next frame counts as
  older than the last one: all of it arrives, and it is not
  completed.
-/
theorem not_delivers_past_half_lap :
    let r : Reassembler :=
      { config := { restartWindow := none } }
    let ships :=
      single 0 1 ::
        (silence 2147483647 ++ [single 2147483648 2])
    (∀ (i : Nat) (s : Shipment), ships[i]? = some s →
        s.IsSound (numberAt 0 i) r.config.maxFrameSize) ∧
      (∀ p, (arriving ships).head? = some p →
        r.liveFrameId ≠ some (numberAt 0 p.2) ∧
          r.positionOf (numberAt 0 p.2) ≠ .stale) ∧
      completions (r.run (ships.flatMap Shipment.events)) ≠
        (ships.zipIdx.filter
          (fun p => p.1.IsComplete (numberAt 0 p.2))).map
          (frameAt 0) := by
  intro r ships
  have hLimit : 1 ≤ r.config.maxFrameSize := by
    decide
  refine ⟨?_, ?_, ?_⟩
  · exact isSound_silence (isSound_single 0 1 hLimit)
      (isSound_single 2147483648 2 hLimit)
  · intro p hp
    rw [head?_arriving_silence (by decide)] at hp
    cases hp
    decide
  · rw [events_silence]
    intro hSame
    have hMember :=
      @frameAt_mem_of_silence (single 0 1)
        (single 2147483648 2) 2147483647 0 (by decide)
    rw [← hSame] at hMember
    exact absurd hMember (by decide)

end Reassembler

end Reframe
