import Reframe.Fragment.Split

/-
  A frame that is cut into fragments: each fragment stands
  at the place that its index names, all of them agree on
  the number of the frame and of its fragments, and their
  payloads in order are the frame.

  Main declarations:
    * `Fragment.sliceCount_le_iff`
    * `Fragment.getElem?_slices`
    * `Fragment.IsCut`
    * `Fragment.length_of_split`
    * `Fragment.isCut_of_split`
-/

namespace Reframe

namespace Fragment

------------------------------------------------------------
-- Slices
------------------------------------------------------------

/- As many slices are cut as were asked for. -/
@[simp]
theorem length_slices
    (size n : Nat)
    (data : Bytes) :
    (slices size n data).length = n := by
  induction n generalizing data with
  | zero => rfl
  | succ n ih => simp [slices, ih]

/- Slices in order are the bytes they were cut from. -/
theorem flatten_slices
    (size n : Nat)
    (data : Bytes) :
    (slices size n data).flatten =
      data.take (n * size) := by
  induction n generalizing data with
  | zero => simp [slices]
  | succ n ih =>
      have hSize : (n + 1) * size = size + n * size := by
        rw [Nat.succ_mul, Nat.add_comm]
      rw [slices, List.flatten_cons, ih, hSize,
        List.take_add]

/- No slice is longer than it was asked for. -/
theorem length_le_of_mem_slices
    {size n : Nat}
    {data slice : Bytes}
    (hSlice : slice ∈ slices size n data) :
    slice.length ≤ size := by
  induction n generalizing data with
  | zero => simp [slices] at hSlice
  | succ n ih =>
      rw [slices, List.mem_cons] at hSlice
      rcases hSlice with rfl | hRest
      · exact List.length_take_le _ _
      · exact ih hRest

/- Slices have at least one byte. -/
theorem sliceSize_pos
    (mtu : Nat) :
    0 < sliceSize mtu := by
  unfold sliceSize
  omega

/- Every frame needs a slice. -/
theorem sliceCount_pos
    (size mtu : Nat) :
    0 < sliceCount size mtu := by
  simp only [sliceCount]
  omega

/-
  A frame needs no more slices than have room for it, except
  that it needs at least one.
-/
theorem sliceCount_le_iff
    (size mtu : Nat)
    {m : Nat}
    (hPositive : 0 < m) :
    sliceCount size mtu ≤ m ↔ size ≤ m * sliceSize mtu := by
  have hSize := sliceSize_pos mtu
  have hWhole := Nat.div_add_mod size (sliceSize mtu)
  have hLess :=
    Nat.div_lt_iff_lt_mul (x := size) (y := m) hSize
  simp only [sliceCount]
  by_cases hExact : size % sliceSize mtu = 0
  · have hRoom :
        size / sliceSize mtu ≤ m ↔
          size ≤ m * sliceSize mtu := by
      have hCancel :=
        Nat.mul_le_mul_right_iff
          (n := size / sliceSize mtu) (m := m) hSize
      rw [hExact, Nat.add_zero, Nat.mul_comm] at hWhole
      rw [hWhole] at hCancel
      exact hCancel.symm
    rw [if_pos hExact, ← hRoom]
    omega
  · have hRest : size ≠ m * sliceSize mtu := by
      rintro hSame
      rw [hSame, Nat.mul_mod_left] at hExact
      exact hExact rfl
    rw [if_neg hExact]
    omega

/- The slices that a frame needs have room for it. -/
theorem le_sliceCount_mul_sliceSize
    (size mtu : Nat) :
    size ≤ sliceCount size mtu * sliceSize mtu :=
  (sliceCount_le_iff size mtu
    (sliceCount_pos size mtu)).mp (Nat.le_refl _)

/- Fewer slices than a frame needs have no room for it. -/
theorem mul_sliceSize_lt
    {size mtu m : Nat}
    (hFewer : m < sliceCount size mtu)
    (hSize : 0 < size) :
    m * sliceSize mtu < size := by
  cases m with
  | zero =>
      rw [Nat.zero_mul]
      exact hSize
  | succ m =>
      have hRoom :=
        sliceCount_le_iff size mtu (Nat.succ_pos m)
      rw [← Nat.not_le, ← hRoom, Nat.not_le]
      exact hFewer

/- All slices of a frame but the last one are full. -/
theorem pred_sliceCount_mul_sliceSize_le
    (size mtu : Nat) :
    (sliceCount size mtu - 1) * sliceSize mtu ≤ size := by
  have hPositive := sliceCount_pos size mtu
  rcases Nat.eq_zero_or_pos size with rfl | hSize
  · have hOne : sliceCount 0 mtu ≤ 1 :=
      (sliceCount_le_iff 0 mtu (by omega)).mpr (by omega)
    have hNone : sliceCount 0 mtu - 1 = 0 := by omega
    have hStart :
        (sliceCount 0 mtu - 1) * sliceSize mtu = 0 := by
      rw [hNone, Nat.zero_mul]
    exact Nat.le_of_eq hStart
  · exact Nat.le_of_lt (mul_sliceSize_lt (by omega) hSize)

/- Each slice stands where it was cut from. -/
theorem getElem?_slices
    (size n : Nat)
    (data : Bytes)
    {i : Nat}
    (hIndex : i < n) :
    (slices size n data)[i]? =
      some ((data.drop (i * size)).take size) := by
  induction n generalizing data i with
  | zero => omega
  | succ n ih =>
      cases i with
      | zero => simp [slices]
      | succ i =>
          have hShift : size + i * size = (i + 1) * size := by
            rw [Nat.succ_mul, Nat.add_comm]
          rw [slices, List.getElem?_cons_succ,
            ih (data.drop size) (by omega), List.drop_drop,
            hShift]

------------------------------------------------------------
-- Cuts
------------------------------------------------------------

/-
  The fragments of a frame, in order.
-/
structure IsCut
    (frameId : UInt32)
    (data : Bytes)
    (fs : List Fragment) : Prop where
  length_pos : 0 < fs.length
  length_le : fs.length ≤ countLimit
  frameId_eq : ∀ f ∈ fs, f.frameId = frameId
  count_eq : ∀ f ∈ fs, f.count.toNat = fs.length
  index_eq :
    ∀ (i : Nat) (f : Fragment),
      fs[i]? = some f → f.index.toNat = i
  flatten_eq : (fs.map payload).flatten = data

/- A frame is split into as many fragments as it needs. -/
theorem length_of_split
    {frameId : UInt32}
    {data : Bytes}
    {mtu : Nat}
    {fs : List Fragment}
    (hSplit : split frameId data mtu = .ok fs) :
    fs.length = sliceCount data.length mtu := by
  unfold split at hSplit
  dsimp only at hSplit
  split at hSplit
  · simp at hSplit
  · simp only [Except.ok.injEq] at hSplit
    simp [← hSplit]

/- The payloads of a frame are no longer than a slice. -/
theorem length_payload_le_of_split
    {frameId : UInt32}
    {data : Bytes}
    {mtu : Nat}
    {fs : List Fragment}
    (hSplit : split frameId data mtu = .ok fs)
    {f : Fragment}
    (hf : f ∈ fs) :
    f.payload.length ≤ sliceSize mtu := by
  unfold split at hSplit
  dsimp only at hSplit
  split at hSplit
  · simp at hSplit
  · simp only [Except.ok.injEq] at hSplit
    rw [← hSplit, List.mem_mapIdx] at hf
    rcases hf with ⟨i, hi, rfl⟩
    exact length_le_of_mem_slices (List.getElem_mem hi)

/- A frame that is split is cut into its fragments. -/
theorem isCut_of_split
    {frameId : UInt32}
    {data : Bytes}
    {mtu : Nat}
    {fs : List Fragment}
    (hSplit : split frameId data mtu = .ok fs) :
    IsCut frameId data fs := by
  have hLength := length_of_split hSplit
  unfold split at hSplit
  dsimp only at hSplit
  split at hSplit
  · simp at hSplit
  · rename_i hCount
    simp only [Except.ok.injEq] at hSplit
    have hLimit : fs.length ≤ countLimit := by omega
    have hSmall : ∀ n, n ≤ fs.length →
        (UInt16.ofNat n).toNat = n := by
      intro n hn
      simp only [countLimit] at hLimit
      exact UInt16.toNat_ofNat_of_lt' (by
        simp only [UInt16.size]
        omega)
    refine
      { length_pos := ?_, length_le := hLimit,
        frameId_eq := ?_, count_eq := ?_, index_eq := ?_,
        flatten_eq := ?_ }
    · rw [hLength]
      exact sliceCount_pos _ _
    · intro f hMember
      rw [← hSplit, List.mem_mapIdx] at hMember
      rcases hMember with ⟨i, hi, rfl⟩
      rfl
    · intro f hMember
      rw [← hSplit, List.mem_mapIdx] at hMember
      rcases hMember with ⟨i, hi, rfl⟩
      dsimp only
      rw [← hLength]
      exact hSmall _ (Nat.le_refl _)
    · intro i f hAt
      have hi : i < fs.length :=
        (List.getElem?_eq_some_iff.mp hAt).1
      rw [← hSplit, List.getElem?_mapIdx] at hAt
      rcases Option.map_eq_some_iff.mp hAt with
        ⟨slice, _, rfl⟩
      exact hSmall i (by omega)
    · have hPayloads :
          fs.map payload =
            slices (sliceSize mtu)
              (sliceCount data.length mtu) data := by
        rw [← hSplit]
        apply List.ext_getElem?
        intro i
        simp [Function.comp_def]
      rw [hPayloads, flatten_slices]
      exact List.take_of_length_le
        (le_sliceCount_mul_sliceSize _ _)

namespace IsCut

variable {frameId : UInt32} {data : Bytes}
variable {fs : List Fragment}

/- A fragment stands at the place that its index names. -/
theorem getElem?_index
    (hCut : IsCut frameId data fs)
    {f : Fragment}
    (hMember : f ∈ fs) :
    fs[f.index.toNat]? = some f := by
  rcases List.mem_iff_getElem?.mp hMember with ⟨i, hAt⟩
  rw [hCut.index_eq i f hAt]
  exact hAt

/- The index of a fragment is below its count. -/
theorem index_lt
    (hCut : IsCut frameId data fs)
    {f : Fragment}
    (hMember : f ∈ fs) :
    f.index.toNat < f.count.toNat := by
  rw [hCut.count_eq f hMember]
  exact
    (List.getElem?_eq_some_iff.mp
      (hCut.getElem?_index hMember)).1

/- The first fragments of a cut have the first indices. -/
theorem index_lt_of_front
    (hCut : IsCut frameId data fs)
    {front : List Fragment}
    (hPrefix : front <+: fs)
    {f : Fragment}
    (hf : f ∈ front) :
    f.index.toNat < front.length := by
  rcases List.mem_iff_getElem?.mp hf with ⟨i, hAt⟩
  rcases hPrefix with ⟨rest, rfl⟩
  have hi := (List.getElem?_eq_some_iff.mp hAt).1
  have hWhole : (front ++ rest)[i]? = some f := by
    rw [List.getElem?_append_left hi]
    exact hAt
  rw [hCut.index_eq i f hWhole]
  exact hi

/- Fragments of a cut with one index are the same. -/
theorem eq_of_index_eq
    (hCut : IsCut frameId data fs)
    {f g : Fragment}
    (hf : f ∈ fs)
    (hg : g ∈ fs)
    (hIndex : f.index.toNat = g.index.toNat) :
    f = g := by
  have hAt := hCut.getElem?_index hf
  rw [hIndex, hCut.getElem?_index hg] at hAt
  exact (Option.some.inj hAt).symm

/- The frame is what its fragments carry, in order. -/
theorem data_eq
    (hCut : IsCut frameId data fs) :
    data =
      (List.range fs.length).flatMap
        (fun i => ((fs[i]?).map payload).getD []) := by
  have hPayloads :
      fs.map payload =
        (List.range fs.length).map
          (fun i => ((fs[i]?).map payload).getD []) := by
    apply List.ext_getElem
    · simp
    · intro i hLeft hRight
      simp only [List.length_map] at hLeft
      simp [hLeft]
  rw [← hCut.flatten_eq, hPayloads, List.flatMap_def]

end IsCut

end Fragment

end Reframe
