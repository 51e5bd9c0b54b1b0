import Reframe.ByteQueue

/-
  This file defines the two-byte markers that delimit
  frames in a byte stream, and the search for them.

  Key definitions include:
    * `Marker`
    * `Marker.start`
    * `Marker.stop`
    * `Marker.find?`
    * `Marker.findIn?`
-/

namespace Reframe

/- A marker of two bytes. -/
structure Marker where
  first : UInt8
  second : UInt8
deriving DecidableEq, Repr

namespace Marker

/- Opens a frame. -/
def start : Marker :=
  ⟨0xFF, 0xD8⟩

/- Closes a frame. -/
def stop : Marker :=
  ⟨0xFF, 0xD9⟩

/- The number of bytes of a marker. -/
def size : Nat :=
  2

/- The bytes of a marker. -/
def bytes
    (m : Marker) : Bytes :=
  [m.first, m.second]

/-
  The first place of a marker in bytes of which the first
  one has the number `i`.
-/
def search?
    (m : Marker)
    (i : Nat) : Bytes → Option Nat
| a :: b :: rest =>
    if a = m.first ∧ b = m.second then some i
    else search? m (i + 1) (b :: rest)
| _ => none

/- The first place of a marker at or after a position. -/
def find?
    (m : Marker)
    (bs : Bytes)
    (i : Nat) : Option Nat :=
  m.search? i (bs.drop i)

/- The same place in a queue. -/
def findIn?
    (m : Marker)
    (q : ByteQueue)
    (i : Nat) : Option Nat :=
  m.search? i (q.suffix i)

/- The search in a queue is the search in its bytes. -/
theorem findIn?_eq
    (m : Marker)
    (q : ByteQueue)
    (i : Nat) :
    m.findIn? q i = m.find? q.toList i := by
  simp [findIn?, find?]

/- A marker that is found lies within the bytes. -/
theorem search?_bounds
    {m : Marker}
    {i j : Nat}
    {bs : Bytes}
    (h : m.search? i bs = some j) :
    i ≤ j ∧ j + size ≤ i + bs.length := by
  fun_induction search? m i bs with
  | case1 i a b rest _ =>
      simp only [Option.some.injEq] at h
      subst h
      simp [size]
  | case2 i a b rest _ ih =>
      have := ih h
      simp only [List.length_cons] at this ⊢
      omega
  | case3 => simp at h

/- A marker that is found lies within the byte string. -/
theorem find?_bounds
    {m : Marker}
    {i j : Nat}
    {bs : Bytes}
    (h : m.find? bs i = some j) :
    i ≤ j ∧ j + size ≤ bs.length := by
  have hb := search?_bounds h
  simp only [List.length_drop, size] at hb ⊢
  omega

/- A marker that is found lies within the queue. -/
theorem findIn?_bounds
    {m : Marker}
    {i j : Nat}
    {q : ByteQueue}
    (h : m.findIn? q i = some j) :
    i ≤ j ∧ j + size ≤ q.size := by
  rw [findIn?_eq] at h
  simpa using find?_bounds h

end Marker

end Reframe
