/-
  This file defines byte strings and the little-endian words
  that datagram headers are made of.

  Key definitions include:
    * `Bytes`
    * `Bytes.FitBuffer`
    * `Bytes.ofWord16`
    * `Bytes.ofWord32`
    * `Bytes.word16At`
    * `Bytes.word32At`
    * `Bytes.ofText`
-/

namespace Reframe

/- A byte string, first byte first. -/
abbrev Bytes :=
  List UInt8

namespace Bytes

/- The byte at a position, or zero past the end. -/
def byteAt
    (bs : Bytes)
    (i : Nat) : Nat :=
  (bs.getD i 0).toNat

/- The most bytes that one buffer can have. -/
def bufferLimit : Nat :=
  9223372036854775807

def FitBuffer
    (n : Nat) : Prop :=
  n ≤ bufferLimit

instance
    (n : Nat) :
    Decidable (FitBuffer n) := by
  unfold FitBuffer
  infer_instance

def ofText
    (s : String) : Bytes :=
  s.toUTF8.toList

/- Two bytes, least significant first. -/
def ofWord16
    (w : UInt16) : Bytes :=
  [UInt8.ofNat (w.toNat % 256),
    UInt8.ofNat (w.toNat / 256)]

/- Four bytes, least significant first. -/
def ofWord32
    (w : UInt32) : Bytes :=
  [UInt8.ofNat (w.toNat % 256),
    UInt8.ofNat (w.toNat / 256 % 256),
    UInt8.ofNat (w.toNat / 65536 % 256),
    UInt8.ofNat (w.toNat / 16777216)]

/- The two-byte word that starts at a position. -/
def word16At
    (bs : Bytes)
    (i : Nat) : UInt16 :=
  UInt16.ofNat (bs.byteAt i + 256 * bs.byteAt (i + 1))

/- The four-byte word that starts at a position. -/
def word32At
    (bs : Bytes)
    (i : Nat) : UInt32 :=
  UInt32.ofNat
    (bs.byteAt i + 256 * bs.byteAt (i + 1) +
      65536 * bs.byteAt (i + 2) +
      16777216 * bs.byteAt (i + 3))

@[simp]
theorem length_ofWord16
    (w : UInt16) :
    (ofWord16 w).length = 2 := by
  rfl

@[simp]
theorem length_ofWord32
    (w : UInt32) :
    (ofWord32 w).length = 4 := by
  rfl

end Bytes

end Reframe
