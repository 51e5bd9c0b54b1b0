import Reframe.Sequence

/-
  Where numbers that are counted up from a first one stand
  relative to each other, across the wrap.

  Main declarations:
    * `Position.of_eq_ahead`
    * `Position.cases_of_ne_stale`
    * `Position.missing_of_ahead`
    * `Position.of_eq_restart_iff`
    * `dvd_of_numberAt_eq`
    * `toNat_distance_numberAt`
    * `toNat_missing_numberAt`
-/

namespace Reframe

------------------------------------------------------------
-- Positions
------------------------------------------------------------

namespace Position

/- The frame that was started last is stale itself. -/
theorem of_self
    (window : Option UInt32)
    (frameId : UInt32) :
    of window (some frameId) frameId = .stale := by
  simp [of, distance]

/- The next number is one ahead. -/
theorem distance_succ
    (frameId : UInt32) :
    distance frameId (frameId + 1) = 1 := by
  rw [distance, UInt32.add_comm, UInt32.add_sub_cancel]

/- A number that is less than half a lap ahead is newer. -/
theorem of_eq_ahead
    (window : Option UInt32)
    {previous frameId : UInt32}
    (hForward : IsForward (distance previous frameId)) :
    of window (some previous) frameId =
      .ahead (distance previous frameId - 1) := by
  have hNonzero : distance previous frameId ≠ 0 := by
    intro hZero
    rw [hZero] at hForward
    exact absurd hForward.1 (by decide)
  simp [of, hNonzero, hForward]

/-
  A number that is not stale is newer, or it is at least the
  window and at most half a lap behind.
-/
theorem cases_of_ne_stale
    {window : Option UInt32}
    {previous frameId : UInt32}
    (hPosition :
      of window (some previous) frameId ≠ .stale) :
    IsForward (distance previous frameId) ∨
      ∃ w, window = some w ∧
        w.toNat ≤ (distance frameId previous).toNat ∧
        (distance frameId previous).toNat ≤
          2147483648 := by
  by_cases hSame : distance previous frameId = 0
  · simp [of, hSame] at hPosition
  by_cases hForward : IsForward (distance previous frameId)
  · exact Or.inl hForward
  · apply Or.inr
    cases window with
    | none => simp [of, hSame, hForward] at hPosition
    | some w =>
        by_cases hBehind : w ≤ distance frameId previous
        · refine
            ⟨w, rfl, UInt32.le_iff_toNat_le.mp hBehind, ?_⟩
          have hPrevious := previous.toNat_lt
          have hFrameId := frameId.toNat_lt
          rw [← UInt32.toNat_inj] at hSame
          simp only [IsForward, distance, UInt32.toNat_sub,
            UInt32.toNat_zero] at hSame hForward ⊢
          omega
        · simp [of, hSame, hForward, hBehind] at hPosition

/-
  The numbers in between that a position counts are those
  that are missing in the gap.
-/
theorem missing_of_ahead
    {window : Option UInt32}
    {previous frameId missing : UInt32}
    (hAhead :
      of window (some previous) frameId = .ahead missing) :
    SequenceGap.missing ⟨previous, frameId⟩ = missing := by
  simp only [of] at hAhead
  split at hAhead
  · cases hAhead
  · split at hAhead
    · exact Position.ahead.inj hAhead
    · split at hAhead
      · cases hAhead
      · split at hAhead <;> cases hAhead

/-
  A number counts as a restart when it is at least the
  window and at most half a lap behind.
-/
theorem of_eq_restart_iff
    {window last : Option UInt32}
    {frameId : UInt32}
    (hPosition : of window last frameId ≠ .stale) :
    of window last frameId = .restart ↔
      ∃ previous w, last = some previous ∧
        window = some w ∧
        w.toNat ≤ (distance frameId previous).toNat ∧
        (distance frameId previous).toNat ≤
          2147483648 := by
  cases last with
  | none => simp [of]
  | some previous =>
      constructor
      · intro hRestart
        rcases cases_of_ne_stale hPosition with
          hForward | ⟨w, hWindow, hNear, hFar⟩
        · rw [of_eq_ahead window hForward] at hRestart
          cases hRestart
        · exact ⟨previous, w, rfl, hWindow, hNear, hFar⟩
      · rintro ⟨_, w, hLast, rfl, hNear, hFar⟩
        rw [← Option.some.inj hLast] at hNear hFar
        have hPrevious := previous.toNat_lt
        have hFrameId := frameId.toNat_lt
        have hSame : distance previous frameId ≠ 0 := by
          intro hZero
          simp [of, hZero] at hPosition
        have hBack :
            ¬ IsForward (distance previous frameId) := by
          simp only [IsForward, distance, UInt32.toNat_sub]
            at hFar ⊢
          omega
        have hBehind : w ≤ distance frameId previous :=
          UInt32.le_iff_toNat_le.mpr hNear
        simp [of, hSame, hBack, hBehind]

end Position

------------------------------------------------------------
-- Numbers Counted From A First One
------------------------------------------------------------

/- The number at a place of a count that wraps. -/
def numberAt
    (start : UInt32)
    (i : Nat) : UInt32 :=
  start + UInt32.ofNat i

/- The count starts at its first number. -/
theorem numberAt_zero
    (start : UInt32) :
    numberAt start 0 = start :=
  UInt32.add_zero start

/- The number at the place of a number further on. -/
theorem numberAt_numberAt
    (start : UInt32)
    (i j : Nat) :
    numberAt (numberAt start i) j =
      numberAt start (i + j) := by
  simp only [numberAt, UInt32.ofNat_add, UInt32.add_assoc]

/- What is counted has the first number and those after. -/
theorem mapIdx_numberAt_cons
    {α β : Type}
    (f : UInt32 → α → β)
    (start : UInt32)
    (a : α)
    (as : List α) :
    (a :: as).mapIdx (fun i b => f (numberAt start i) b) =
      f start a ::
        as.mapIdx
          (fun i b => f (numberAt (start + 1) i) b) := by
  have hNext :
      ∀ i, numberAt start (i + 1) =
        numberAt (start + 1) i := by
    intro i
    rw [Nat.add_comm, ← numberAt_numberAt]
    rfl
  simp only [List.mapIdx_cons, numberAt_zero, hNext]

/- A number stands at its distance from another one. -/
theorem numberAt_distance
    (older newer : UInt32) :
    numberAt older (Position.distance older newer).toNat =
      newer := by
  simp only [numberAt, Position.distance,
    UInt32.ofNat_toNat, UInt32.add_comm older,
    UInt32.sub_add_cancel]

/- A number comes back after whole laps only. -/
theorem dvd_of_numberAt_eq
    {start : UInt32}
    {i : Nat}
    (hSame : numberAt start i = start) :
    4294967296 ∣ i := by
  have hStart := start.toNat_lt
  rw [numberAt, ← UInt32.toNat_inj, UInt32.toNat_add,
    UInt32.toNat_ofNat'] at hSame
  omega

/-
  The distance of two numbers is that of their places, when
  they are less than a lap apart.
-/
theorem toNat_distance_numberAt
    (start : UInt32)
    {i j : Nat}
    (hOrder : i ≤ j)
    (hLap : j - i < 4294967296) :
    (Position.distance (numberAt start i)
      (numberAt start j)).toNat = j - i := by
  have hStart := start.toNat_lt
  simp only [Position.distance, numberAt, UInt32.toNat_sub,
    UInt32.toNat_add, UInt32.toNat_ofNat']
  omega

/-
  A number less than half a lap after another one stands
  ahead of it.
-/
theorem isForward_distance_numberAt
    (start : UInt32)
    {i j : Nat}
    (hOrder : i < j)
    (hNear : j - i < 2147483648) :
    Position.IsForward
      (Position.distance (numberAt start i)
        (numberAt start j)) := by
  have hDistance :=
    toNat_distance_numberAt start (i := i) (j := j)
      (by omega) (by omega)
  unfold Position.IsForward
  omega

/- The number of the places between two numbers. -/
theorem toNat_missing_numberAt
    (start : UInt32)
    {i j : Nat}
    (hOrder : i < j)
    (hLap : j - i < 4294967296) :
    (SequenceGap.missing
      ⟨numberAt start i, numberAt start j⟩).toNat =
        j - i - 1 := by
  have hDistance :=
    toNat_distance_numberAt start (i := i) (j := j)
      (by omega) hLap
  have hOne : (1 : UInt32) ≤
      Position.distance (numberAt start i)
        (numberAt start j) := by
    rw [UInt32.le_iff_toNat_le, hDistance]
    change 1 ≤ j - i
    omega
  change (Position.distance (numberAt start i)
    (numberAt start j) - 1).toNat = j - i - 1
  rw [UInt32.toNat_sub_of_le _ _ hOne, hDistance]
  rfl

end Reframe
