import Reframe.Fragment.Basic

/-
  This file defines the assembly of one frame: a slot for
  each announced fragment, with running counts of the slots
  that are filled and of the bytes in them.

  Key definitions include:
    * `Assembly`
    * `Assembly.empty`
    * `Assembly.insert`
    * `Assembly.IsComplete`
    * `Assembly.data`
-/

namespace Reframe

/-
  A frame under assembly.  The last payload that arrived for
  an index is the one that counts.
-/
structure Assembly where
  frameId : UInt32
  slots : Array (Option Bytes)
  received : Nat := 0
  buffered : Nat := 0
deriving DecidableEq, Repr

namespace Assembly

/- The assembly of a frame of which nothing has arrived. -/
def empty
    (frameId : UInt32)
    (count : UInt16) : Assembly where
  frameId := frameId
  slots := Array.replicate count.toNat none

/- The number of fragments of the frame. -/
def count
    (a : Assembly) : Nat :=
  a.slots.size

/- The payload that arrived for an index, if one did. -/
def payload?
    (a : Assembly)
    (i : Nat) : Option Bytes :=
  a.slots.getD i none

/- The number of bytes that arrived for an index. -/
def sizeAt
    (a : Assembly)
    (i : Nat) : Nat :=
  ((a.payload? i).getD []).length

/- Take the payload of a fragment in. -/
def insert
    (a : Assembly)
    (index : UInt16)
    (payload : Bytes) : Assembly :=
  let i := index.toNat
  let isNew := (a.payload? i).isNone
  let kept := a.buffered - a.sizeAt i
  { a with
    slots := a.slots.setIfInBounds i (some payload)
    received := if isNew then a.received + 1 else a.received
    buffered := kept + payload.length }

/- Taking a payload in keeps the number of the frame. -/
@[simp]
theorem frameId_insert
    (a : Assembly)
    (index : UInt16)
    (payload : Bytes) :
    (a.insert index payload).frameId = a.frameId := by
  rfl

/- Taking a payload in keeps the number of fragments. -/
@[simp]
theorem count_insert
    (a : Assembly)
    (index : UInt16)
    (payload : Bytes) :
    (a.insert index payload).count = a.count := by
  simp [insert, count]

/- The assembly of a frame has a slot for each fragment. -/
@[simp]
theorem count_empty
    (frameId : UInt32)
    (n : UInt16) :
    (empty frameId n).count = n.toNat := by
  simp [empty, count]

/- Every fragment of the frame has arrived. -/
def IsComplete
    (a : Assembly) : Prop :=
  a.received = a.count

instance
    (a : Assembly) :
    Decidable a.IsComplete := by
  unfold IsComplete
  infer_instance

/- The payloads that arrived, in index order. -/
def data
    (a : Assembly) : Bytes :=
  a.slots.toList.flatMap (fun slot => slot.getD [])

end Assembly

end Reframe
