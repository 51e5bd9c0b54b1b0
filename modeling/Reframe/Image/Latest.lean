import Reframe.Image.Basic

/-
  This file defines the slot that holds the latest picture,
  and handles by which several parties share slots.

  Key definitions include:
    * `LatestImage`
    * `LatestImage.publish`
    * `LatestImage.newer?`
    * `SharedSlots`
-/

namespace Reframe

/-
  A slot: the latest picture, and how many pictures were
  published so far.
-/
structure LatestImage where
  image : Option Image := none
  generation : Nat := 0
deriving DecidableEq, Repr

namespace LatestImage

def publish
    (s : LatestImage)
    (image : Image) : LatestImage where
  image := some image
  generation := s.generation + 1

/- Empty the slot.  Counting goes on. -/
def clear
    (s : LatestImage) : LatestImage :=
  { s with image := none }

/-
  The picture and its number, if it is newer than the one
  with a given number.
-/
def newer?
    (s : LatestImage)
    (seen : Nat) : Option (Image × Nat) :=
  match s.image with
  | none => none
  | some image =>
      if seen < s.generation then some (image, s.generation)
      else none

end LatestImage

/-
  Slots and the handles on them.  Each handle is the number
  of its slot.
-/
structure SharedSlots where
  slots : List LatestImage := [{}]
  handles : List Nat := [0]
deriving DecidableEq, Repr

namespace SharedSlots

/- The number of the slot of a handle. -/
def slotOf
    (s : SharedSlots)
    (handle : Nat) : Nat :=
  s.handles.getD handle 0

def get
    (s : SharedSlots)
    (handle : Nat) : LatestImage :=
  s.slots.getD (s.slotOf handle) {}

def update
    (s : SharedSlots)
    (handle : Nat)
    (f : LatestImage → LatestImage) : SharedSlots :=
  { s with slots := s.slots.modify (s.slotOf handle) f }

/- A further handle on the slot of a handle. -/
def share
    (s : SharedSlots)
    (handle : Nat) : SharedSlots :=
  { s with handles := s.handles ++ [s.slotOf handle] }

/- A handle on a new slot. -/
def create
    (s : SharedSlots) : SharedSlots where
  slots := s.slots ++ [{}]
  handles := s.handles ++ [s.slots.length]

end SharedSlots

end Reframe
