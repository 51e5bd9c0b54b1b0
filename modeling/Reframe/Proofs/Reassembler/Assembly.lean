import Reframe.Reassembler.Assembly
import Reframe.Proofs.Fragment.Split
import Mathlib.Algebra.BigOperators.Fin
import Mathlib.Algebra.BigOperators.Group.Finset.Piecewise
import Mathlib.Algebra.Order.BigOperators.Group.Finset

/-
  What an assembly holds after some fragments were taken
  into it.

  The counts of an assembly are those of its slots, and each
  slot holds the payload that was taken in last for its
  index.  So an assembly is complete when every index has
  arrived, and its data are then the payloads in order.

  Main declarations:
    * `Fragment.lastPayload?`
    * `Assembly.IsCounted`
    * `Assembly.isComplete_iff`
    * `Assembly.gather`
    * `Assembly.payload?_gather`
    * `Assembly.isCounted_gather`
    * `Assembly.gather_append_of_isCut`
    * `Assembly.FallsShort`
-/

namespace Reframe

------------------------------------------------------------
-- The Last Payload For An Index
------------------------------------------------------------

namespace Fragment

/- The payload of the last fragment with an index. -/
def lastPayload?
    (fs : List Fragment)
    (i : Nat) : Option Bytes :=
  ((fs.filter (fun f => f.index.toNat = i)).getLast?).map
    payload

/- A fragment replaces what arrived for its index. -/
theorem lastPayload?_concat
    (fs : List Fragment)
    (f : Fragment)
    (i : Nat) :
    lastPayload? (fs ++ [f]) i =
      if f.index.toNat = i then some f.payload
      else lastPayload? fs i := by
  by_cases hIndex : f.index.toNat = i <;>
    simp [lastPayload?, hIndex]

/- Later fragments replace what arrived before them. -/
theorem lastPayload?_append
    (fs gs : List Fragment)
    (i : Nat) :
    lastPayload? (fs ++ gs) i =
      (lastPayload? gs i).or (lastPayload? fs i) := by
  simp [lastPayload?, List.getLast?_append, Option.map_or]

/- The last payload for an index came with a fragment. -/
theorem exists_of_lastPayload?
    {fs : List Fragment}
    {i : Nat}
    {bs : Bytes}
    (hLast : lastPayload? fs i = some bs) :
    ∃ f ∈ fs, f.index.toNat = i ∧ f.payload = bs := by
  rcases Option.map_eq_some_iff.mp hLast with
    ⟨f, hFound, hPayload⟩
  have hMember := List.mem_of_getLast? hFound
  rw [List.mem_filter] at hMember
  exact ⟨f, hMember.1, by simpa using hMember.2, hPayload⟩

/- There is a last payload if the index arrived at all. -/
theorem isSome_lastPayload?_iff
    (fs : List Fragment)
    (i : Nat) :
    (lastPayload? fs i).isSome ↔
      ∃ f ∈ fs, f.index.toNat = i := by
  simp [lastPayload?]

end Fragment

------------------------------------------------------------
-- Counts
------------------------------------------------------------

namespace Assembly

/-
  The running counts of an assembly are those of its slots:
  how many are filled, and how many bytes are in them.
-/
structure IsCounted
    (a : Assembly) : Prop where
  received_eq :
    a.received =
      ((Finset.range a.count).filter
        (fun i => (a.payload? i).isSome)).card
  buffered_eq :
    a.buffered = ∑ i ∈ Finset.range a.count, a.sizeAt i

/- Nothing has arrived for an empty assembly. -/
@[simp]
theorem payload?_empty
    (frameId : UInt32)
    (n : UInt16)
    (i : Nat) :
    (empty frameId n).payload? i = none := by
  simp only [payload?, empty, Array.getD_eq_getD_getElem?,
    Array.getElem?_replicate]
  split <;> rfl

/- The payload that is taken in is the one of its index. -/
theorem payload?_insert
    (a : Assembly)
    {index : UInt16}
    (payload : Bytes)
    (hIndex : index.toNat < a.count)
    (i : Nat) :
    (a.insert index payload).payload? i =
      if index.toNat = i then some payload
      else a.payload? i := by
  simp only [count] at hIndex
  simp only [payload?, insert, Array.getD_eq_getD_getElem?,
    Array.getElem?_setIfInBounds]
  split
  · simp
  · rfl

/- An empty assembly holds nothing. -/
theorem isCounted_empty
    (frameId : UInt32)
    (n : UInt16) :
    (empty frameId n).IsCounted := by
  constructor
  · simp only [payload?_empty]
    simp [empty]
  · simp only [sizeAt, payload?_empty]
    simp [empty]

/- Taking a payload in keeps the counts right. -/
theorem isCounted_insert
    {a : Assembly}
    {index : UInt16}
    (hCounted : a.IsCounted)
    (payload : Bytes)
    (hIndex : index.toNat < a.count) :
    (a.insert index payload).IsCounted := by
  have hMember : index.toNat ∈ Finset.range a.count :=
    Finset.mem_range.mpr hIndex
  constructor
  · have hFilled :
        (Finset.range a.count).filter
            (fun i =>
              ((a.insert index payload).payload? i).isSome) =
          Insert.insert index.toNat
            ((Finset.range a.count).filter
              (fun i => (a.payload? i).isSome)) := by
      ext i
      simp only [payload?_insert a payload hIndex,
        Finset.mem_filter, Finset.mem_insert]
      by_cases hi : index.toNat = i
      · subst i
        simp [hMember]
      · simp [hi, Ne.symm hi]
    rw [count_insert, hFilled]
    cases hNew : a.payload? index.toNat with
    | none =>
        rw [Finset.card_insert_of_notMem (by simp [hNew])]
        simp [Assembly.insert, hNew, hCounted.received_eq]
    | some old =>
        rw [Finset.insert_eq_of_mem (by
          simp [hNew, hIndex])]
        simp [Assembly.insert, hNew, hCounted.received_eq]
  · have hSizes :
        (a.insert index payload).sizeAt =
          Function.update a.sizeAt index.toNat
            payload.length := by
      funext i
      by_cases hi : index.toNat = i
      · subst i
        simp [sizeAt, payload?_insert a payload hIndex]
      · simp [sizeAt, payload?_insert a payload hIndex, hi,
          Function.update_of_ne (Ne.symm hi)]
    have hSplit :=
      Finset.sum_eq_add_sum_sdiff_singleton_of_mem hMember
        a.sizeAt
    rw [← hCounted.buffered_eq] at hSplit
    rw [count_insert, hSizes,
      Finset.sum_update_of_mem hMember]
    simp only [Assembly.insert]
    omega

/- The data are the filled slots, one after the other. -/
theorem data_eq
    (a : Assembly) :
    a.data =
      (List.range a.count).flatMap
        (fun i => (a.payload? i).getD []) := by
  have hSlots :
      a.slots.toList =
        (List.range a.count).map a.payload? := by
    apply List.ext_getElem
    · simp [count]
    · intro i hLeft hRight
      simp only [Array.length_toList] at hLeft
      simp [payload?, Array.getD_eq_getD_getElem?, hLeft]
  rw [data, hSlots, List.flatMap_map]

/- The bytes that are held are as many as are counted. -/
theorem IsCounted.length_data
    {a : Assembly}
    (hCounted : a.IsCounted) :
    a.data.length = a.buffered := by
  rw [data_eq, hCounted.buffered_eq, List.length_flatMap,
    Finset.sum_range, ← List.sum_ofFn]
  congr 1
  apply List.ext_getElem
  · simp
  · intro i hLeft hRight
    simp [sizeAt]

/- An assembly is complete when every slot is filled. -/
theorem IsCounted.isComplete_iff
    {a : Assembly}
    (hCounted : a.IsCounted) :
    a.IsComplete ↔
      ∀ i < a.count, (a.payload? i).isSome := by
  have hAll :=
    Finset.card_filter_eq_iff
      (s := Finset.range a.count)
      (p := fun i => ((a.payload? i).isSome : Prop))
  rw [Finset.card_range] at hAll
  rw [IsComplete, hCounted.received_eq, hAll]
  simp

------------------------------------------------------------
-- Gathering Fragments
------------------------------------------------------------

/- The assembly into which fragments were taken in order. -/
def gather
    (frameId : UInt32)
    (n : UInt16)
    (fs : List Fragment) : Assembly :=
  fs.foldl (fun a f => a.insert f.index f.payload)
    (empty frameId n)

/- The fragment that arrives last is taken in last. -/
theorem gather_concat
    (frameId : UInt32)
    (n : UInt16)
    (fs : List Fragment)
    (f : Fragment) :
    gather frameId n (fs ++ [f]) =
      (gather frameId n fs).insert f.index f.payload := by
  simp [gather]

/- Gathering keeps the number of the frame. -/
@[simp]
theorem frameId_gather
    (frameId : UInt32)
    (n : UInt16)
    (fs : List Fragment) :
    (gather frameId n fs).frameId = frameId := by
  induction fs using List.reverseRecOn with
  | nil => rfl
  | append_singleton fs f ih =>
      rw [gather_concat, frameId_insert, ih]

/- Gathering keeps the number of fragments. -/
@[simp]
theorem count_gather
    (frameId : UInt32)
    (n : UInt16)
    (fs : List Fragment) :
    (gather frameId n fs).count = n.toNat := by
  induction fs using List.reverseRecOn with
  | nil => simp [gather]
  | append_singleton fs f ih =>
      rw [gather_concat, count_insert, ih]

section Gathered

variable {frameId : UInt32} {n : UInt16}
variable {fs : List Fragment}

/- The counts of gathered fragments are right. -/
theorem isCounted_gather
    (hIndices : ∀ f ∈ fs, f.index.toNat < n.toNat) :
    (gather frameId n fs).IsCounted := by
  induction fs using List.reverseRecOn with
  | nil => exact isCounted_empty frameId n
  | append_singleton fs f ih =>
      rw [gather_concat]
      apply isCounted_insert
      · exact ih (fun g hg => hIndices g (by simp [hg]))
      · rw [count_gather]
        exact hIndices f (by simp)

/- A slot holds the last payload that arrived for it. -/
theorem payload?_gather
    (hIndices : ∀ f ∈ fs, f.index.toNat < n.toNat)
    (i : Nat) :
    (gather frameId n fs).payload? i =
      Fragment.lastPayload? fs i := by
  induction fs using List.reverseRecOn with
  | nil => simp [gather, Fragment.lastPayload?]
  | append_singleton fs f ih =>
      have hIndex :
          f.index.toNat < (gather frameId n fs).count := by
        rw [count_gather]
        exact hIndices f (by simp)
      rw [gather_concat, payload?_insert _ _ hIndex,
        Fragment.lastPayload?_concat,
        ih (fun g hg => hIndices g (by simp [hg]))]

/- Gathered fragments are complete with the last index. -/
theorem isComplete_gather_iff
    (hIndices : ∀ f ∈ fs, f.index.toNat < n.toNat) :
    (gather frameId n fs).IsComplete ↔
      ∀ i < n.toNat, ∃ f ∈ fs, f.index.toNat = i := by
  rw [(isCounted_gather hIndices).isComplete_iff,
    count_gather]
  simp only [payload?_gather hIndices,
    Fragment.isSome_lastPayload?_iff]

/- The data are the last payloads in index order. -/
theorem data_gather
    (hIndices : ∀ f ∈ fs, f.index.toNat < n.toNat) :
    (gather frameId n fs).data =
      (List.range n.toNat).flatMap
        (fun i => (Fragment.lastPayload? fs i).getD []) := by
  rw [data_eq, count_gather]
  simp only [payload?_gather hIndices]

end Gathered

------------------------------------------------------------
-- Gathering The Fragments Of One Frame
------------------------------------------------------------

section Cut

variable {frameId : UInt32} {data : Bytes} {n : UInt16}
variable {fs arrived : List Fragment}

/- The indices of a frame's fragments have a slot. -/
theorem index_lt_of_isCut
    (hCut : Fragment.IsCut frameId data fs)
    (hCount : n.toNat = fs.length)
    (hArrived : ∀ f ∈ arrived, f ∈ fs) :
    ∀ f ∈ arrived, f.index.toNat < n.toNat := by
  intro f hf
  have hIndex := hCut.index_lt (hArrived f hf)
  rw [hCut.count_eq f (hArrived f hf)] at hIndex
  omega

/- Each payload that arrived is the one of its place. -/
theorem lastPayload?_of_isCut
    (hCut : Fragment.IsCut frameId data fs)
    (hArrived : ∀ f ∈ arrived, f ∈ fs)
    {i : Nat}
    {bs : Bytes}
    (hLast :
      Fragment.lastPayload? arrived i = some bs) :
    (fs[i]?).map Fragment.payload = some bs := by
  rcases Fragment.exists_of_lastPayload? hLast with
    ⟨f, hf, rfl, rfl⟩
  rw [hCut.getElem?_index (hArrived f hf)]
  rfl

/- A frame is complete when all its fragments arrived. -/
theorem isComplete_gather_iff_of_isCut
    (hCut : Fragment.IsCut frameId data fs)
    (hCount : n.toNat = fs.length)
    (hArrived : ∀ f ∈ arrived, f ∈ fs) :
    (gather frameId n arrived).IsComplete ↔
      ∀ f ∈ fs, f ∈ arrived := by
  rw [isComplete_gather_iff
    (index_lt_of_isCut hCut hCount hArrived)]
  constructor
  · intro hAll f hf
    have hIndex := hCut.index_lt hf
    rw [hCut.count_eq f hf, ← hCount] at hIndex
    rcases hAll f.index.toNat hIndex with ⟨g, hg, hSame⟩
    rwa [hCut.eq_of_index_eq hf (hArrived g hg) hSame.symm]
  · intro hAll i hi
    rw [hCount] at hi
    have hAt : fs[i]? = some fs[i] :=
      List.getElem?_eq_getElem hi
    exact
      ⟨fs[i], hAll _ (List.getElem_mem hi),
        hCut.index_eq i _ hAt⟩

/- What arrived of a frame is no longer than the frame. -/
theorem buffered_gather_le_of_isCut
    (hCut : Fragment.IsCut frameId data fs)
    (hCount : n.toNat = fs.length)
    (hArrived : ∀ f ∈ arrived, f ∈ fs) :
    (gather frameId n arrived).buffered ≤ data.length := by
  have hIndices := index_lt_of_isCut hCut hCount hArrived
  rw [← (isCounted_gather hIndices).length_data,
    data_gather hIndices, hCut.data_eq, hCount,
    List.length_flatMap, List.length_flatMap]
  apply List.sum_le_sum
  intro i _
  cases hLast : Fragment.lastPayload? arrived i with
  | none => simp
  | some bs =>
      rw [lastPayload?_of_isCut hCut hArrived hLast]

/- All fragments of a frame together hold its bytes. -/
theorem data_gather_of_isCut
    (hCut : Fragment.IsCut frameId data fs)
    (hCount : n.toNat = fs.length)
    (hArrived : ∀ f ∈ arrived, f ∈ fs)
    (hAll : ∀ f ∈ fs, f ∈ arrived) :
    (gather frameId n arrived).data = data := by
  have hIndices := index_lt_of_isCut hCut hCount hArrived
  have hComplete :=
    (isComplete_gather_iff_of_isCut hCut hCount
      hArrived).mpr hAll
  rw [isComplete_gather_iff hIndices] at hComplete
  rw [data_gather hIndices, hCut.data_eq, ← hCount,
    List.flatMap_def, List.flatMap_def]
  congr 1
  apply List.map_congr_left
  intro i hi
  have hSome :=
    (Fragment.isSome_lastPayload?_iff arrived i).mpr
      (hComplete i (List.mem_range.mp hi))
  rcases Option.isSome_iff_exists.mp hSome with ⟨bs, hLast⟩
  rw [hLast, lastPayload?_of_isCut hCut hArrived hLast]

/-
  The fragments of a frame replace what arrived before them
  under its number.
-/
theorem gather_append_of_isCut
    (hCut : Fragment.IsCut frameId data fs)
    (hCount : n.toNat = fs.length)
    (hIndices : ∀ f ∈ arrived, f.index.toNat < n.toNat) :
    (gather frameId n (arrived ++ fs)).IsComplete ∧
      (gather frameId n (arrived ++ fs)).data = data ∧
      (gather frameId n (arrived ++ fs)).buffered =
        data.length := by
  have hOwn :=
    index_lt_of_isCut hCut hCount (fun f hf => hf)
  have hBoth :
      ∀ f ∈ arrived ++ fs, f.index.toNat < n.toNat := by
    intro f hf
    rcases List.mem_append.mp hf with hOld | hNew
    · exact hIndices f hOld
    · exact hOwn f hNew
  have hAll :=
    (isComplete_gather_iff_of_isCut hCut hCount
      (fun f hf => hf)).mpr (fun f hf => hf)
  rw [isComplete_gather_iff hOwn] at hAll
  have hData :
      (gather frameId n (arrived ++ fs)).data = data := by
    rw [← data_gather_of_isCut hCut hCount
        (fun f hf => hf) (fun f hf => hf),
      data_gather hBoth, data_gather hOwn,
      List.flatMap_def, List.flatMap_def]
    congr 1
    apply List.map_congr_left
    intro i hi
    have hSome :=
      (Fragment.isSome_lastPayload?_iff fs i).mpr
        (hAll i (List.mem_range.mp hi))
    rcases Option.isSome_iff_exists.mp hSome with
      ⟨bs, hLast⟩
    rw [Fragment.lastPayload?_append, hLast, Option.some_or]
  refine ⟨?_, hData, ?_⟩
  · rw [isComplete_gather_iff hBoth]
    intro i hi
    rcases hAll i hi with ⟨f, hf, hIndex⟩
    exact ⟨f, List.mem_append_right _ hf, hIndex⟩
  · rw [← (isCounted_gather hBoth).length_data, hData]

end Cut

------------------------------------------------------------
-- Gathering Fragments Without The Last One
------------------------------------------------------------

section Short

variable {n : UInt16} {size : Nat} {fs : List Fragment}

/-
  None of the fragments has the last index, and none is
  longer than a slice.
-/
def FallsShort
    (n : UInt16)
    (size : Nat)
    (fs : List Fragment) : Prop :=
  ∀ f ∈ fs,
    f.index.toNat + 1 < n.toNat ∧ f.payload.length ≤ size

/- Fragments without the last one go together. -/
theorem FallsShort.append
    {gs : List Fragment}
    (hShort : FallsShort n size fs)
    (hMore : FallsShort n size gs) :
    FallsShort n size (fs ++ gs) := by
  intro f hf
  rcases List.mem_append.mp hf with hOld | hNew
  · exact hShort f hOld
  · exact hMore f hNew

/- Each of the fragments has a slot. -/
theorem FallsShort.index_lt
    (hShort : FallsShort n size fs) :
    ∀ f ∈ fs, f.index.toNat < n.toNat := by
  intro f hf
  have hIndex := (hShort f hf).1
  omega

/- A frame without its last fragment is incomplete. -/
theorem FallsShort.not_isComplete_gather
    (hShort : FallsShort n size fs)
    (hPos : 0 < n.toNat)
    (frameId : UInt32) :
    ¬ (gather frameId n fs).IsComplete := by
  rw [isComplete_gather_iff hShort.index_lt]
  intro hAll
  rcases hAll (n.toNat - 1) (by omega) with
    ⟨f, hf, hIndex⟩
  have hBefore := (hShort f hf).1
  omega

/- Every slot but the last holds at most a slice. -/
theorem FallsShort.buffered_gather_le
    (hShort : FallsShort n size fs)
    (frameId : UInt32) :
    (gather frameId n fs).buffered ≤
      (n.toNat - 1) * size := by
  rw [(isCounted_gather hShort.index_lt).buffered_eq,
    count_gather]
  have hSizes :
      ∀ i, (gather frameId n fs).sizeAt i ≤
        if i + 1 < n.toNat then size else 0 := by
    intro i
    rw [sizeAt, payload?_gather hShort.index_lt]
    cases hLast : Fragment.lastPayload? fs i with
    | none => simp
    | some bs =>
        rcases Fragment.exists_of_lastPayload? hLast with
          ⟨f, hf, rfl, rfl⟩
        simpa [(hShort f hf).1] using (hShort f hf).2
  refine (Finset.sum_le_sum (fun i _ => hSizes i)).trans ?_
  rw [← Finset.sum_filter, Finset.sum_const, smul_eq_mul]
  apply Nat.mul_le_mul_right
  have hBelow :
      (Finset.range n.toNat).filter
          (fun i => i + 1 < n.toNat) ⊆
        Finset.range (n.toNat - 1) := by
    intro i hi
    simp only [Finset.mem_filter, Finset.mem_range]
      at hi ⊢
    omega
  simpa using Finset.card_le_card hBelow

end Short

end Assembly

end Reframe
