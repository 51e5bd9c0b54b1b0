import Reframe.Bytes

/-
  This file defines byte strings that grow at their end and
  are used up from their front.

  The bytes that came last are kept in reverse, so that
  adding to a long string takes no longer than adding to a
  short one.  The list of a queue is the byte string that is
  meant, and each operation is described by what it does to
  that list.

  Key definitions include:
    * `ByteQueue`
    * `ByteQueue.toList`
    * `ByteQueue.append`
    * `ByteQueue.suffix`
    * `ByteQueue.drop`
-/

namespace Reframe

------------------------------------------------------------
-- Queues
------------------------------------------------------------

/-
  A byte string in two parts: bytes in order, and behind
  them bytes of which the last one comes first.
-/
structure ByteQueue where
  front : Bytes := []
  back : Bytes := []
  size : Nat := 0
  size_eq : size = front.length + back.length := by simp
deriving DecidableEq, Repr

namespace ByteQueue

def toList
    (q : ByteQueue) : Bytes :=
  match q.back with
  | [] => q.front
  | _ :: _ => q.front ++ q.back.reverse

def ofList
    (bs : Bytes) : ByteQueue where
  front := bs
  size := bs.length

def append
    (q : ByteQueue)
    (bs : Bytes) : ByteQueue where
  front := q.front
  back := bs.reverseAux q.back
  size := q.size + bs.length
  size_eq := by
    simp [q.size_eq, List.reverseAux_eq]
    omega

/-
  The bytes from a position on.  Those that came last are
  read off the back.
-/
def suffix
    (q : ByteQueue)
    (i : Nat) : Bytes :=
  let late := q.back.take (q.size - i)
  if late.length < q.size - i then q.toList.drop i
  else late.reverse

/- The two parts, one after the other. -/
theorem toList_eq
    (q : ByteQueue) :
    q.toList = q.front ++ q.back.reverse := by
  unfold toList
  split
  · rename_i h
    simp [h]
  · rfl

/- The size is the number of bytes. -/
@[simp]
theorem length_toList
    (q : ByteQueue) :
    q.toList.length = q.size := by
  simp [toList_eq, q.size_eq]

def drop
    (q : ByteQueue)
    (n : Nat) : ByteQueue where
  front := q.toList.drop n
  size := q.size - n

------------------------------------------------------------
-- Operations On The List
------------------------------------------------------------

@[simp]
theorem toList_ofList
    (bs : Bytes) :
    (ofList bs).toList = bs := by
  rfl

@[simp]
theorem toList_append
    (q : ByteQueue)
    (bs : Bytes) :
    (q.append bs).toList = q.toList ++ bs := by
  simp [toList_eq, append, List.reverseAux_eq]

@[simp]
theorem toList_drop
    (q : ByteQueue)
    (n : Nat) :
    (q.drop n).toList = q.toList.drop n := by
  rfl

/- The suffix holds the bytes from the position on. -/
@[simp]
theorem suffix_eq
    (q : ByteQueue)
    (i : Nat) :
    q.suffix i = q.toList.drop i := by
  unfold suffix
  dsimp only
  split
  · rfl
  · rename_i h
    have hsize := q.size_eq
    simp only [List.length_take] at h
    have hfront : q.front.length ≤ i := by omega
    rw [toList_eq, List.drop_append, List.drop_reverse,
      List.drop_eq_nil_of_le hfront, List.nil_append]
    congr 2
    omega

end ByteQueue

end Reframe
