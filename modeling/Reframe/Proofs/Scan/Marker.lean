import Reframe.Scan.Marker

/-
  What the search for a marker finds: the first place at or
  after a position where the marker stands, if it stands
  anywhere.

  Main declarations:
    * `Marker.IsAt`
    * `Marker.find?_eq_some_iff`
    * `Marker.find?_eq_none_iff`
    * `Marker.find?_append`
    * `Marker.find?_resume`
-/

namespace Reframe

namespace Marker

------------------------------------------------------------
-- Places Of A Marker
------------------------------------------------------------

/- The two bytes of a marker stand at a place. -/
def IsAt
    (m : Marker)
    (bs : Bytes)
    (k : Nat) : Prop :=
  bs[k]? = some m.first ∧ bs[k + 1]? = some m.second

/- The place at the front. -/
theorem isAt_zero_iff
    (m : Marker)
    (a b : UInt8)
    (rest : Bytes) :
    m.IsAt (a :: b :: rest) 0 ↔
      a = m.first ∧ b = m.second := by
  simp [IsAt]

/- The places behind the front. -/
theorem isAt_cons_succ_iff
    (m : Marker)
    (a : UInt8)
    (rest : Bytes)
    (k : Nat) :
    m.IsAt (a :: rest) (k + 1) ↔ m.IsAt rest k := by
  simp [IsAt]

/- The places behind bytes that are dropped. -/
theorem isAt_drop_iff
    (m : Marker)
    (bs : Bytes)
    (n k : Nat) :
    m.IsAt (bs.drop n) k ↔ m.IsAt bs (n + k) := by
  simp [IsAt, Nat.add_assoc]

/- A start marker does not overlap with another one. -/
theorem not_isAt_start_succ
    {bs : Bytes}
    {k : Nat}
    (hAt : start.IsAt bs k) :
    ¬ start.IsAt bs (k + 1) := by
  intro hNext
  have hByte := hAt.2.symm.trans hNext.1
  simp [start] at hByte

/- A marker stands within the bytes. -/
theorem IsAt.lt_length
    {m : Marker}
    {bs : Bytes}
    {k : Nat}
    (hAt : m.IsAt bs k) :
    k + 1 < bs.length := by
  rcases List.getElem?_eq_some_iff.mp hAt.2 with ⟨hk, _⟩
  exact hk

/- More bytes do not change the places in the old ones. -/
theorem isAt_append_iff
    (m : Marker)
    {bs : Bytes}
    (more : Bytes)
    {k : Nat}
    (hWithin : k + 1 < bs.length) :
    m.IsAt (bs ++ more) k ↔ m.IsAt bs k := by
  rw [IsAt, IsAt, List.getElem?_append_left hWithin,
    List.getElem?_append_left (by omega)]

------------------------------------------------------------
-- What Is Found
------------------------------------------------------------

/- What a search comes to. -/
theorem search?_spec
    (m : Marker)
    (i : Nat)
    (bs : Bytes) :
    (∃ d, m.search? i bs = some (i + d) ∧ m.IsAt bs d ∧
      ∀ k < d, ¬ m.IsAt bs k) ∨
    (m.search? i bs = none ∧ ∀ k, ¬ m.IsAt bs k) := by
  fun_induction search? m i bs with
  | case1 i a b rest hHere =>
      apply Or.inl
      refine ⟨0, rfl, ?_, by simp⟩
      rw [isAt_zero_iff]
      exact hHere
  | case2 i a b rest hNot ih =>
      have hFront : ¬ m.IsAt (a :: b :: rest) 0 := by
        rw [isAt_zero_iff]
        exact hNot
      rcases ih with
        ⟨d, hFound, hAt, hBefore⟩ | ⟨hNone, hAll⟩
      · apply Or.inl
        refine ⟨d + 1, ?_, ?_, ?_⟩
        · rw [hFound]
          congr 1
          omega
        · rw [isAt_cons_succ_iff]
          exact hAt
        · intro k hk
          cases k with
          | zero => exact hFront
          | succ k =>
              rw [isAt_cons_succ_iff]
              exact hBefore k (by omega)
      · apply Or.inr
        refine ⟨hNone, ?_⟩
        intro k
        cases k with
        | zero => exact hFront
        | succ k =>
            rw [isAt_cons_succ_iff]
            exact hAll k
  | case3 bs i hShort =>
      apply Or.inr
      refine ⟨rfl, ?_⟩
      intro k hAt
      have hLength := hAt.lt_length
      cases bs with
      | nil => simp at hLength
      | cons a rest =>
          cases rest with
          | nil => simp at hLength
          | cons b rest => exact hShort a b rest rfl

/- What a search from a position comes to. -/
theorem find?_cases
    (m : Marker)
    (bs : Bytes)
    (i : Nat) :
    (∃ j, m.find? bs i = some j ∧ i ≤ j ∧ m.IsAt bs j ∧
      ∀ k, i ≤ k → k < j → ¬ m.IsAt bs k) ∨
    (m.find? bs i = none ∧
      ∀ k, i ≤ k → ¬ m.IsAt bs k) := by
  rcases m.search?_spec i (bs.drop i) with
    ⟨d, hFound, hAt, hBefore⟩ | ⟨hNone, hAll⟩
  · apply Or.inl
    rw [isAt_drop_iff] at hAt
    refine ⟨i + d, hFound, by omega, hAt, ?_⟩
    intro k hLow hHigh
    have hNot := hBefore (k - i) (by omega)
    rw [isAt_drop_iff] at hNot
    rwa [Nat.add_sub_of_le hLow] at hNot
  · apply Or.inr
    refine ⟨hNone, ?_⟩
    intro k hLow
    have hNot := hAll (k - i)
    rw [isAt_drop_iff] at hNot
    rwa [Nat.add_sub_of_le hLow] at hNot

/- The first place of a marker is found. -/
theorem find?_eq_some_iff
    (m : Marker)
    (bs : Bytes)
    (i j : Nat) :
    m.find? bs i = some j ↔
      i ≤ j ∧ m.IsAt bs j ∧
        ∀ k, i ≤ k → k < j → ¬ m.IsAt bs k := by
  rcases m.find?_cases bs i with
    ⟨j', hFound, hLow, hAt, hBefore⟩ | ⟨hNone, hAll⟩
  · rw [hFound, Option.some.injEq]
    constructor
    · rintro rfl
      exact ⟨hLow, hAt, hBefore⟩
    · rintro ⟨hLow', hAt', hBefore'⟩
      rcases Nat.lt_trichotomy j' j with
        hLess | hSame | hMore
      · exact absurd hAt (hBefore' j' hLow hLess)
      · exact hSame
      · exact absurd hAt' (hBefore j hLow' hMore)
  · rw [hNone]
    constructor
    · intro hSome
      cases hSome
    · rintro ⟨hLow, hAt, _⟩
      exact absurd hAt (hAll j hLow)

/- Nothing is found when the marker stands nowhere. -/
theorem find?_eq_none_iff
    (m : Marker)
    (bs : Bytes)
    (i : Nat) :
    m.find? bs i = none ↔
      ∀ k, i ≤ k → ¬ m.IsAt bs k := by
  rcases m.find?_cases bs i with
    ⟨j, hFound, hLow, hAt, _⟩ | ⟨hNone, hAll⟩
  · rw [hFound]
    constructor
    · intro hNone
      cases hNone
    · intro hAll
      exact absurd hAt (hAll j hLow)
  · exact ⟨fun _ => hAll, fun _ => hNone⟩

------------------------------------------------------------
-- Growing And Shrinking Bytes
------------------------------------------------------------

/- More bytes do not change what was found. -/
theorem find?_append
    {m : Marker}
    {bs : Bytes}
    {i j : Nat}
    (hFound : m.find? bs i = some j)
    (more : Bytes) :
    m.find? (bs ++ more) i = some j := by
  rw [find?_eq_some_iff] at hFound ⊢
  rcases hFound with ⟨hLow, hAt, hBefore⟩
  have hWithin := hAt.lt_length
  refine ⟨hLow, ?_, ?_⟩
  · rw [isAt_append_iff m more hWithin]
    exact hAt
  · intro k hk hLess
    rw [isAt_append_iff m more (by omega)]
    exact hBefore k hk hLess

/- A search may go on where the marker was not before. -/
theorem find?_resume
    {m : Marker}
    {bs : Bytes}
    {i n : Nat}
    (hOrder : i ≤ n)
    (hBefore : ∀ k, i ≤ k → k < n → ¬ m.IsAt bs k) :
    m.find? bs n = m.find? bs i := by
  rcases m.find?_cases bs n with
    ⟨j, hFound, hLow, hAt, hSince⟩ | ⟨hNone, hAll⟩
  · rw [hFound, eq_comm, find?_eq_some_iff]
    refine ⟨by omega, hAt, ?_⟩
    intro k hk hLess
    by_cases hEarly : k < n
    · exact hBefore k hk hEarly
    · exact hSince k (by omega) hLess
  · rw [hNone, eq_comm, find?_eq_none_iff]
    intro k hk
    by_cases hEarly : k < n
    · exact hBefore k hk hEarly
    · exact hAll k (by omega)

/- A search in bytes of which the front was dropped. -/
theorem find?_drop
    (m : Marker)
    (bs : Bytes)
    (n i : Nat) :
    m.find? (bs.drop n) i =
      (m.find? bs (n + i)).map (fun j => j - n) := by
  rcases m.find?_cases bs (n + i) with
    ⟨j, hFound, hLow, hAt, hBefore⟩ | ⟨hNone, hAll⟩
  · rw [hFound, Option.map_some, find?_eq_some_iff,
      isAt_drop_iff, Nat.add_sub_of_le (by omega)]
    refine ⟨by omega, hAt, ?_⟩
    intro k hk hLess
    rw [isAt_drop_iff]
    exact hBefore (n + k) (by omega) (by omega)
  · rw [hNone, Option.map_none, find?_eq_none_iff]
    intro k hk
    rw [isAt_drop_iff]
    exact hAll (n + k) (by omega)

end Marker

end Reframe
