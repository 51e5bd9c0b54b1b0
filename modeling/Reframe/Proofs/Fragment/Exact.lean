import Reframe.Proofs.Fragment.Split
import Mathlib.Algebra.Order.Floor.Div

/-
  What a frame is cut into, exactly, and that it can be cut
  by computing in machine words: no sum or product on the
  way is too large, and no slice reaches past the frame.

  Main declarations:
    * `Fragment.splitInWords`
    * `Fragment.sliceCount_eq`
    * `Fragment.split_eq`
    * `Fragment.sliceInWords_eq`
    * `Fragment.splitInWords_eq`
    * `Fragment.split_is_exact`
-/

namespace Reframe

namespace Fragment

------------------------------------------------------------
-- Cutting In Machine Words
------------------------------------------------------------

/- The first number that is too large for a machine word. -/
def wordLimit : Nat :=
  2 ^ 64

/- The value of a sum or a product, if it fits in a word. -/
def inWord
    (n : Nat) : Option Nat :=
  if n < wordLimit then some n else none

/-
  The bytes from one place up to another one, if the places
  are in order and within the bytes.
-/
def between?
    (data : Bytes)
    (start stop : Nat) : Option Bytes :=
  if start ≤ stop ∧ stop ≤ data.length then
    some ((data.drop start).take (stop - start))
  else none

/- The number of slices that a frame needs, in words. -/
def sliceCountInWords
    (size mtu : Nat) : Option Nat := do
  let whole := size / sliceSize mtu
  let needed ←
    if size % sliceSize mtu = 0 then some whole
    else inWord (whole + 1)
  some (max needed 1)

/- A slice of a frame, its bounds computed in words. -/
def sliceInWords
    (data : Bytes)
    (mtu index : Nat) : Option Bytes := do
  let start ← inWord (index * sliceSize mtu)
  let full ← inWord (start + sliceSize mtu)
  between? data start (min full data.length)

/- The fragment of a frame at a place, in words. -/
def fragmentInWords
    (frameId : UInt32)
    (data : Bytes)
    (mtu n index : Nat) : Option Fragment := do
  let payload ← sliceInWords data mtu index
  some ⟨frameId, UInt16.ofNat index, UInt16.ofNat n, payload⟩

/-
  Cut a frame into fragments, computing in words.  There is
  no result if a sum or a product is too large for a word or
  a slice is not within the frame.
-/
def splitInWords
    (frameId : UInt32)
    (data : Bytes)
    (mtu : Nat) :
    Option (Except FrameError (List Fragment)) := do
  let n ← sliceCountInWords data.length mtu
  if countLimit < n then
    let limit ← inWord (countLimit * sliceSize mtu)
    some (.error (.payloadTooLarge data.length limit))
  else if data = [] then
    some (.ok [⟨frameId, 0, 1, []⟩])
  else
    let fs ←
      (List.range n).mapM
        (fragmentInWords frameId data mtu n)
    some (.ok fs)

------------------------------------------------------------
-- Fragments By Their Place
------------------------------------------------------------

/- A frame needs its size over that of a slice, rounded up. -/
theorem sliceCount_eq
    (size mtu : Nat) :
    sliceCount size mtu =
      max 1 (size ⌈/⌉ sliceSize mtu) := by
  apply eq_of_forall_ge_iff
  intro m
  rcases Nat.eq_zero_or_pos m with rfl | hPositive
  · have hSome := sliceCount_pos size mtu
    omega
  · rw [sliceCount_le_iff size mtu hPositive, max_le_iff,
      ceilDiv_le_iff_le_mul (sliceSize_pos mtu),
      Nat.mul_comm]
    omega

/- The fragment of a frame at a place. -/
def fragmentAt
    (frameId : UInt32)
    (data : Bytes)
    (mtu index : Nat) : Fragment where
  frameId := frameId
  index := UInt16.ofNat index
  count := UInt16.ofNat (sliceCount data.length mtu)
  payload :=
    (data.drop (index * sliceSize mtu)).take (sliceSize mtu)

/- A frame is cut into the fragments at its places. -/
theorem split_eq
    (frameId : UInt32)
    (data : Bytes)
    (mtu : Nat) :
    split frameId data mtu =
      if countLimit < sliceCount data.length mtu then
        .error
          (.payloadTooLarge data.length (splitLimit mtu))
      else
        .ok ((List.range (sliceCount data.length mtu)).map
          (fragmentAt frameId data mtu)) := by
  simp only [split]
  split
  · rfl
  · congr 1
    apply List.ext_getElem?
    intro i
    rw [List.getElem?_mapIdx, List.getElem?_map]
    by_cases hIndex : i < sliceCount data.length mtu
    · rw [getElem?_slices _ _ _ hIndex,
        List.getElem?_range hIndex]
      rfl
    · rw [List.getElem?_eq_none (by simpa using hIndex),
        List.getElem?_eq_none (by simpa using hIndex)]
      rfl

/- A frame can be cut unless it exceeds the limit. -/
theorem countLimit_lt_iff
    (size mtu : Nat) :
    countLimit < sliceCount size mtu ↔
      splitLimit mtu < size := by
  have hLimit :=
    sliceCount_le_iff size mtu
      (m := countLimit) (by decide)
  rw [splitLimit, ← Nat.not_le, hLimit, Nat.not_le]

------------------------------------------------------------
-- Nothing Is Too Large
------------------------------------------------------------

section Words

variable {data : Bytes} {mtu : Nat}

/- What is below the limit fits in a word. -/
theorem inWord_eq
    {n : Nat}
    (hWord : n < wordLimit) :
    inWord n = some n :=
  if_pos hWord

/- The number of slices is computed in words. -/
theorem sliceCountInWords_eq
    {size : Nat}
    (hSize : size < 2 ^ 63) :
    sliceCountInWords size mtu =
      some (sliceCount size mtu) := by
  have hWhole := Nat.div_le_self size (sliceSize mtu)
  have hNext :
      inWord (size / sliceSize mtu + 1) =
        some (size / sliceSize mtu + 1) :=
    inWord_eq (by
      unfold wordLimit
      omega)
  by_cases hExact : size % sliceSize mtu = 0 <;>
    simp [sliceCountInWords, sliceCount, hExact, hNext]

/-
  The bounds of a slice are computed in words.  The slice
  starts within the frame, and behind the first one a slice
  is no longer than what lies in front of it.
-/
theorem sliceInWords_eq
    (hData : data.length < 2 ^ 63)
    (hMtu : mtu < 2 ^ 64)
    (hSome : data ≠ [])
    {index : Nat}
    (hIndex : index < sliceCount data.length mtu) :
    sliceInWords data mtu index =
      some ((data.drop (index * sliceSize mtu)).take
        (sliceSize mtu)) := by
  have hStart :
      index * sliceSize mtu < data.length :=
    mul_sliceSize_lt hIndex (List.length_pos_iff.mpr hSome)
  -- At index zero the sum is the size of a slice; further
  -- on it is at most twice the start.
  have hStop :
      index * sliceSize mtu + sliceSize mtu < wordLimit := by
    rcases Nat.eq_zero_or_pos index with rfl | hLater
    · unfold wordLimit sliceSize
      omega
    · have hFront :=
        Nat.le_mul_of_pos_left (sliceSize mtu) hLater
      unfold wordLimit
      omega
  have hFirst :
      inWord (index * sliceSize mtu) =
        some (index * sliceSize mtu) :=
    inWord_eq (by omega)
  have hLast := inWord_eq hStop
  have hWithin :
      index * sliceSize mtu ≤
          min (index * sliceSize mtu + sliceSize mtu)
            data.length ∧
        min (index * sliceSize mtu + sliceSize mtu)
            data.length ≤
          data.length := by
    omega
  simp only [sliceInWords, hFirst, hLast, Option.bind_eq_bind,
    Option.bind_some, between?, if_pos hWithin,
    Option.some.injEq]
  rw [List.take_eq_take_iff, List.length_drop]
  omega

/- Results that are all there are collected. -/
theorem mapM_eq_some
    {α β : Type}
    {f : α → Option β}
    {g : α → β}
    {xs : List α}
    (hEach : ∀ x ∈ xs, f x = some (g x)) :
    xs.mapM f = some (xs.map g) := by
  induction xs with
  | nil => rfl
  | cons x xs ih =>
      rw [List.forall_mem_cons] at hEach
      simp [List.mapM_cons, hEach.1, ih hEach.2]

/- A frame is cut by computing in words. -/
theorem splitInWords_eq
    (frameId : UInt32)
    (hData : data.length < 2 ^ 63)
    (hMtu : mtu < 2 ^ 64) :
    splitInWords frameId data mtu =
      some (split frameId data mtu) := by
  rw [split_eq]
  by_cases hLarge : countLimit < sliceCount data.length mtu
  · have hLimit :
        inWord (countLimit * sliceSize mtu) =
          some (splitLimit mtu) := by
      have hOver :=
        (countLimit_lt_iff data.length mtu).mp hLarge
      apply inWord_eq
      rw [splitLimit] at hOver
      unfold wordLimit
      omega
    simp [splitInWords, sliceCountInWords_eq hData, hLarge,
      hLimit]
  · rw [if_neg hLarge]
    rcases eq_or_ne data [] with rfl | hSome
    · have hOne : sliceCount 0 mtu = 1 := by
        have hSome := sliceCount_pos 0 mtu
        have hRoom :=
          sliceCount_le_iff 0 mtu (m := 1) (by decide)
        omega
      have hCount :
          sliceCountInWords 0 mtu = some (sliceCount 0 mtu) :=
        sliceCountInWords_eq hData
      rw [hOne] at hCount
      rw [List.length_nil, hOne]
      simp [splitInWords, hCount, countLimit, fragmentAt,
        hOne]
    · have hEach :
          ∀ i ∈ List.range (sliceCount data.length mtu),
            fragmentInWords frameId data mtu
                (sliceCount data.length mtu) i =
              some (fragmentAt frameId data mtu i) := by
        intro i hMember
        rw [List.mem_range] at hMember
        rw [fragmentInWords,
          sliceInWords_eq hData hMtu hSome hMember]
        rfl
      simp [splitInWords, sliceCountInWords_eq hData, hLarge,
        hSome, mapM_eq_some hEach]

end Words

------------------------------------------------------------
-- Exactness
------------------------------------------------------------

/- Where a fragment of a frame stands, and what it carries. -/
theorem getElem?_of_split
    {frameId : UInt32}
    {data : Bytes}
    {mtu : Nat}
    {fs : List Fragment}
    (hSplit : split frameId data mtu = .ok fs)
    {i : Nat}
    {f : Fragment}
    (hAt : fs[i]? = some f) :
    i < sliceCount data.length mtu ∧
      f = fragmentAt frameId data mtu i := by
  have hLength := length_of_split hSplit
  have hIndex := (List.getElem?_eq_some_iff.mp hAt).1
  rw [hLength] at hIndex
  rw [split_eq] at hSplit
  split at hSplit
  · cases hSplit
  · rw [← Except.ok.inj hSplit, List.getElem?_map,
      List.getElem?_range hIndex] at hAt
    exact ⟨hIndex, (Option.some.inj hAt).symm⟩

/-
  All slices but the last one are full, and none is empty
  unless the frame is.
-/
theorem length_payload_fragmentAt
    (frameId : UInt32)
    {data : Bytes}
    {mtu index : Nat}
    (hIndex : index < sliceCount data.length mtu) :
    (index + 1 < sliceCount data.length mtu →
        (fragmentAt frameId data mtu index).payload.length =
          sliceSize mtu) ∧
      (fragmentAt frameId data mtu index).payload.length ≤
        sliceSize mtu ∧
      (data ≠ [] →
        (fragmentAt frameId data mtu index).payload ≠
          []) := by
  have hLength :
      (fragmentAt frameId data mtu index).payload.length =
        min (sliceSize mtu)
          (data.length - index * sliceSize mtu) := by
    simp [fragmentAt]
  have hSize := sliceSize_pos mtu
  refine ⟨?_, ?_, ?_⟩
  · intro hNext
    have hFull :
        (index + 1) * sliceSize mtu ≤ data.length := by
      have hRoom :=
        sliceCount_le_iff data.length mtu
          (m := index + 1) (by omega)
      omega
    rw [Nat.succ_mul] at hFull
    omega
  · omega
  · intro hSome
    have hStart :=
      mul_sliceSize_lt hIndex
        (List.length_pos_iff.mpr hSome)
    rw [← List.length_pos_iff, hLength]
    omega

/-
  A frame can be cut exactly if it has no more bytes than
  the most fragments of full size carry.  Its fragments
  carry its bytes in order, all but the last one as many as
  fit.  For less than 2 ^ 63 bytes and a slice size that is
  a machine word, all of this is computed in words.
-/
theorem split_is_exact
    (frameId : UInt32)
    (data : Bytes)
    (mtu : Nat) :
    ((∃ fs, split frameId data mtu = .ok fs) ↔
        data.length ≤ 65535 * max mtu 1) ∧
      (65535 * max mtu 1 < data.length →
        split frameId data mtu =
          .error (.payloadTooLarge data.length
            (65535 * max mtu 1))) ∧
      (∀ fs, split frameId data mtu = .ok fs →
        fs.length = max 1 (data.length ⌈/⌉ max mtu 1) ∧
          (fs.map payload).flatten = data ∧
          ∀ i f, fs[i]? = some f →
            f.frameId = frameId ∧
              f.index.toNat = i ∧
              f.count.toNat = fs.length ∧
              (i + 1 < fs.length →
                f.payload.length = max mtu 1) ∧
              f.payload.length ≤ max mtu 1 ∧
              (data ≠ [] → f.payload ≠ [])) ∧
      (data.length < 2 ^ 63 → mtu < 2 ^ 64 →
        splitInWords frameId data mtu =
          some (split frameId data mtu)) := by
  have hFits := countLimit_lt_iff data.length mtu
  have hLimit : splitLimit mtu = 65535 * max mtu 1 := rfl
  rw [hLimit] at hFits
  refine ⟨?_, ?_, ?_, ?_⟩
  · rw [split_eq, ← Nat.not_lt, ← hFits]
    split
    · rename_i hLarge
      simp [hLarge]
    · rename_i hSmall
      simp [hSmall]
  · intro hLarge
    rw [split_eq, if_pos (hFits.mpr hLarge), hLimit]
  · intro fs hSplit
    have hCut := isCut_of_split hSplit
    have hLength := length_of_split hSplit
    refine ⟨?_, hCut.flatten_eq, ?_⟩
    · rw [hLength, sliceCount_eq]
      rfl
    · intro i f hAt
      have hMember := List.mem_of_getElem? hAt
      rcases getElem?_of_split hSplit hAt with
        ⟨hIndex, hFragment⟩
      rcases length_payload_fragmentAt frameId hIndex with
        ⟨hFull, hMost, hSome⟩
      rw [← hFragment] at hFull hMost hSome
      rw [← hLength] at hFull
      exact
        ⟨hCut.frameId_eq f hMember, hCut.index_eq i f hAt,
          hCut.count_eq f hMember, hFull, hMost, hSome⟩
  · intro hData hMtu
    exact splitInWords_eq frameId hData hMtu

/-
  Five bytes are cut in twos, and with the largest size that
  is a word.  One byte more than there are fragments cannot
  be cut in ones.
-/
theorem split_is_exact_at_bounds :
    let data : Bytes := [1, 2, 3, 4, 5]
    let fs : List Fragment :=
      [⟨7, 0, 3, [1, 2]⟩, ⟨7, 1, 3, [3, 4]⟩, ⟨7, 2, 3, [5]⟩]
    let word : Nat := 2 ^ 64 - 1
    let tooMany : Bytes := List.replicate 65536 0
    split 7 data 2 = .ok fs ∧
      fs.length = max 1 (data.length ⌈/⌉ 2) ∧
      (fs.map payload).flatten = data ∧
      (⟨7, 1, 3, [3, 4]⟩ : Fragment).payload.length = 2 ∧
      (⟨7, 2, 3, [5]⟩ : Fragment).payload ≠ [] ∧
      data.length < 2 ^ 63 ∧
      word < 2 ^ 64 ∧
      splitInWords 7 data word =
        some (.ok [⟨7, 0, 1, data⟩]) ∧
      split 7 tooMany 1 =
        .error (.payloadTooLarge 65536 65535) := by
  intro data fs word tooMany
  have hSplit : split 7 data 2 = .ok fs := by
    simp only [data, fs]
    rfl
  have hWhole :
      split 7 data word = .ok [⟨7, 0, 1, data⟩] := by
    simp only [data, word]
    rfl
  have hShort : data.length < 2 ^ 63 := by
    decide
  have hWord : word < 2 ^ 64 := by
    decide
  have hLength : tooMany.length = 65536 :=
    List.length_replicate
  rcases split_is_exact 7 data 2 with ⟨_, _, hExact, _⟩
  rcases hExact fs hSplit with ⟨hCount, hBytes, hEach⟩
  rcases hEach 1 ⟨7, 1, 3, [3, 4]⟩ rfl with
    ⟨_, _, _, hFull, _, _⟩
  rcases hEach 2 ⟨7, 2, 3, [5]⟩ rfl with
    ⟨_, _, _, _, _, hSome⟩
  rcases split_is_exact 7 data word with ⟨_, _, _, hWords⟩
  rcases split_is_exact 7 tooMany 1 with ⟨_, hRefused, _, _⟩
  rw [hWhole] at hWords
  rw [hLength] at hRefused
  exact
    ⟨hSplit, hCount, hBytes, hFull (by decide),
      hSome (by decide), hShort, hWord, hWords hShort hWord,
      hRefused (by decide)⟩

end Fragment

end Reframe
