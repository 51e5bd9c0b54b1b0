import Reframe.Image.Decoder
import Reframe.Image.Latest
import Mathlib.Data.List.Induction

/-
  What a decoder makes of frames one after the other, and
  what a slot holds after the pictures were put into it.

  Main declarations:
    * `Decoder.after`
    * `Decoder.results`
    * `Decoder.images`
    * `LatestImage.ofImages`
    * `LatestImage.newer?_ofImages`
-/

namespace Reframe

------------------------------------------------------------
-- Frames One After The Other
------------------------------------------------------------

namespace Decoder

variable {σ : Type}

/- The pictures of a result.  A failure has none. -/
def pictures : DecodeResult → List Image
| .ok images => images
| .error _ => []

/- The decoder after frames. -/
def after
    (d : Decoder σ)
    (frames : List Bytes) : Decoder σ :=
  frames.foldl (fun d data => (d.decode data).2) d

/- What a decoder makes of each of the frames. -/
def results
    (d : Decoder σ) : List Bytes → List DecodeResult
| [] => []
| data :: frames =>
    (d.decode data).1 :: results (d.decode data).2 frames

/- The pictures of all frames, in order. -/
def images
    (d : Decoder σ)
    (frames : List Bytes) : List Image :=
  (d.results frames).flatMap pictures

theorem after_append
    (d : Decoder σ)
    (frames frames' : List Bytes) :
    d.after (frames ++ frames') =
      (d.after frames).after frames' := by
  simp [after]

/- The results of two parts of the frames. -/
theorem results_append
    (d : Decoder σ)
    (frames frames' : List Bytes) :
    d.results (frames ++ frames') =
      d.results frames ++
        (d.after frames).results frames' := by
  induction frames generalizing d with
  | nil => rfl
  | cons data frames ih =>
      rw [List.cons_append, results, results, ih]
      rfl

/- Each frame has one result. -/
@[simp]
theorem length_results
    (d : Decoder σ)
    (frames : List Bytes) :
    (d.results frames).length = frames.length := by
  induction frames generalizing d with
  | nil => rfl
  | cons data frames ih => simp [results, ih]

/- The pictures of two parts of the frames. -/
theorem images_append
    (d : Decoder σ)
    (frames frames' : List Bytes) :
    d.images (frames ++ frames') =
      d.images frames ++ (d.after frames).images frames' := by
  rw [images, results_append, List.flatMap_append]
  rfl

/- One more frame adds its pictures. -/
theorem images_concat
    (d : Decoder σ)
    (frames : List Bytes)
    (data : Bytes) :
    d.images (frames ++ [data]) =
      d.images frames ++
        pictures ((d.after frames).decode data).1 := by
  rw [images_append]
  simp [images, results]

end Decoder

------------------------------------------------------------
-- Slots
------------------------------------------------------------

namespace LatestImage

/- The slot into which pictures were put. -/
def ofImages
    (images : List Image) : LatestImage where
  image := images.getLast?
  generation := images.length

/- Further pictures are put into the slot. -/
theorem publish_ofImages
    (images images' : List Image) :
    images'.foldl publish (ofImages images) =
      ofImages (images ++ images') := by
  induction images' using List.reverseRecOn with
  | nil => simp
  | append_singleton images' image ih =>
      rw [List.foldl_append, ih, ← List.append_assoc]
      simp [publish, ofImages, Nat.add_assoc]

/- Only those who have seen all pictures get none. -/
theorem newer?_ofImages_eq_none
    (images : List Image)
    (seen : Nat) :
    (ofImages images).newer? seen = none ↔
      images.length ≤ seen := by
  cases images using List.reverseRecOn with
  | nil => simp [newer?, ofImages]
  | append_singleton images image =>
      simp [newer?, ofImages]

/- The others get the newest one, with its number. -/
theorem newer?_ofImages_eq_some
    (images : List Image)
    (seen : Nat)
    (image : Image)
    (number : Nat) :
    (ofImages images).newer? seen = some (image, number) ↔
      seen < number ∧ number = images.length ∧
        images[number - 1]? = some image := by
  cases images using List.reverseRecOn with
  | nil =>
      have hNone :
          (ofImages []).newer? seen = none := rfl
      simp [hNone]
  | append_singleton images last =>
      have hNewer :
          (ofImages (images ++ [last])).newer? seen =
            if seen < images.length + 1 then
              some (last, images.length + 1)
            else none := by
        simp [newer?, ofImages]
      rw [hNewer, List.length_append, List.length_singleton]
      constructor
      · intro hSome
        rw [Option.ite_none_right_eq_some] at hSome
        rcases hSome with ⟨hSeen, hSame⟩
        cases hSame
        exact ⟨hSeen, rfl, by simp⟩
      · rintro ⟨hSeen, rfl, hLast⟩
        rw [if_pos hSeen]
        simp only [Nat.add_sub_cancel,
          List.getElem?_concat_length, Option.some.injEq]
          at hLast
        rw [hLast]

end LatestImage

end Reframe
