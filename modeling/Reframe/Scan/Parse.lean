import Reframe.Scan.Marker

/-
  This file defines the frames of a byte string that is
  known as a whole: each runs from the first start marker at
  or behind the end of the one in front to the first end
  marker behind it.

  Key definitions include:
    * `Marked.first?`
    * `Marked.frames`
    * `Marked.unfinished`
-/

namespace Reframe

namespace Marked

/- The bytes from the first start marker on. -/
def fromStart?
    (bs : Bytes) : Option Bytes :=
  (Marker.start.find? bs 0).map bs.drop

/- The first frame, and the bytes behind it. -/
def first?
    (bs : Bytes) : Option (Bytes × Bytes) :=
  match fromStart? bs with
  | none => none
  | some opened =>
      match Marker.stop.find? opened Marker.size with
      | none => none
      | some i =>
          let n := i + Marker.size
          some (opened.take n, opened.drop n)

/- The bytes behind a frame are fewer. -/
theorem length_lt_of_first?
    {bs frame rest : Bytes}
    (h : first? bs = some (frame, rest)) :
    rest.length < bs.length := by
  unfold first? fromStart? at h
  cases hs : Marker.start.find? bs 0 with
  | none => simp [hs] at h
  | some i =>
      simp only [hs, Option.map_some] at h
      split at h
      · simp at h
      · rename_i j hj
        simp only [Option.some.injEq, Prod.mk.injEq] at h
        have := (Marker.find?_bounds hj).2
        rw [← h.2]
        simp only [List.length_drop, Marker.size] at this ⊢
        omega

/- All complete frames, first one first. -/
def frames
    (bs : Bytes) : List Bytes :=
  match _h : first? bs with
  | none => []
  | some (frame, rest) => frame :: frames rest
termination_by bs.length
decreasing_by exact length_lt_of_first? _h

/- The bytes behind all complete frames. -/
def remainder
    (bs : Bytes) : Bytes :=
  match _h : first? bs with
  | none => bs
  | some (_, rest) => remainder rest
termination_by bs.length
decreasing_by exact length_lt_of_first? _h

/- The frame that is still open at the end, or nothing. -/
def unfinished
    (bs : Bytes) : Bytes :=
  (fromStart? (remainder bs)).getD []

end Marked

end Reframe
