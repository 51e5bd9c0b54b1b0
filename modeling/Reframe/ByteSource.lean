import Reframe.Fragment.Split
import Reframe.IoError

/-
  This file defines sources of bytes: what reading from a
  file, a connection or a standard input yields.
-/

namespace Reframe

inductive ReadEvent where
/- Bytes, handed out over as many reads as it takes. -/
| data (bs : Bytes)
/- One read that finds the end. -/
| finish
| fail (e : IoError)
deriving DecidableEq, Repr

/- A source, given by what lies ahead, and then its end. -/
abbrev ByteSource :=
  List ReadEvent

/- What one read yields.  No bytes at all mean the end. -/
abbrev Arrival :=
  Except IoError Bytes

namespace ByteSource

/- A read does not join the bytes of two events. -/
def read
    (capacity : Nat) : ByteSource → Arrival × ByteSource
| [] => (.ok [], [])
| .data [] :: rest => read capacity rest
| .data (b :: bs) :: rest =>
    (.ok ((b :: bs).take capacity),
      .data ((b :: bs).drop capacity) :: rest)
| .finish :: rest => (.ok [], rest)
| .fail e :: rest => (.error e, rest)

/- Bytes cut into pieces that are not empty. -/
def pieces
    (capacity : Nat)
    (bs : Bytes) : List Bytes :=
  Fragment.slices capacity
    ((bs.length + capacity - 1) / capacity) bs

def arrivalsOf
    (capacity : Nat) : ReadEvent → List Arrival
| .data bs => (pieces capacity bs).map Except.ok
| .finish => [.ok []]
| .fail e => [.error e]

/- What reads of a positive capacity yield, all in all. -/
def arrivals
    (capacity : Nat)
    (source : ByteSource) : List Arrival :=
  source.flatMap (arrivalsOf capacity)

end ByteSource

end Reframe
