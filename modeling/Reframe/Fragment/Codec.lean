import Reframe.FrameError

/-
  This file defines the datagram form of fragments: twelve
  bytes of header, then exactly as many bytes of payload as
  the header declares.

  Key definitions include:
    * `BufferWrite`
    * `Fragment.payloadLimit`
    * `Fragment.encode`
    * `Fragment.encodeInto`
    * `Fragment.decode`
-/

namespace Reframe

/-
  Writing to a buffer, which may fail.  What was written in
  front of a failure stays in the buffer.
-/
abbrev BufferWrite :=
  ExceptT FrameError (StateM Bytes)

def BufferWrite.put
    (bs : Bytes) : BufferWrite Unit :=
  modify (fun buffer => buffer ++ bs)

namespace Fragment

/- The longest payload whose length fits the header. -/
def payloadLimit : Nat :=
  4294967295

/-
  Append the datagram of a fragment to a buffer.  A payload
  past the limit is refused.
-/
def encode
    (f : Fragment)
    (buffer : Bytes) : Except FrameError Bytes :=
  if payloadLimit < f.payload.length then
    .error (.payloadTooLarge f.payload.length payloadLimit)
  else
    .ok (buffer ++ f.wire)

def write
    (f : Fragment) : BufferWrite Unit :=
  if payloadLimit < f.payload.length then
    throw (.payloadTooLarge f.payload.length payloadLimit)
  else do
    BufferWrite.put (Bytes.ofWord32 f.frameId)
    BufferWrite.put (Bytes.ofWord16 f.index)
    BufferWrite.put (Bytes.ofWord16 f.count)
    BufferWrite.put
      (Bytes.ofWord32 (UInt32.ofNat f.payload.length))
    BufferWrite.put f.payload

/-
  Write a fragment to a buffer that the caller keeps: what
  came of it, and the buffer after it.
-/
def encodeInto
    (f : Fragment)
    (buffer : Bytes) : Except FrameError Unit × Bytes :=
  (f.write.run.run buffer).run

def declaredLength
    (datagram : Bytes) : UInt32 :=
  datagram.word32At 8

/- The fragment that a well-formed datagram carries. -/
def ofWire
    (datagram : Bytes) : Fragment where
  frameId := datagram.word32At 0
  index := datagram.word16At 4
  count := datagram.word16At 6
  payload := datagram.drop headerSize

/-
  Decode a datagram.  It has to hold a header, and after
  the header exactly the declared number of bytes.
-/
def decode
    (datagram : Bytes) : Except FrameError Fragment :=
  let length := datagram.length
  if length < headerSize then
    .error (.malformedHeader length)
  else
    let declared := declaredLength datagram
    let actual := length - headerSize
    if actual = declared.toNat then .ok (ofWire datagram)
    else .error (.lengthMismatch declared actual)

end Fragment

end Reframe
