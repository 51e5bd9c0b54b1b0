import Reframe.Scan.Scanner

/-
  This file defines the cutting of frames out of a buffer
  that belongs to the caller, who may change it at any time.

  Key definitions include:
    * `BufferCodec`
    * `BufferCodec.decode`
    * `BufferCodec.decodeEnd`
    * `BufferCodec.run`
-/

namespace Reframe

/- A codec: the search, and the number of the next frame. -/
structure BufferCodec where
  state : FrameSearch := {}
  nextSequence : Nat := 0
deriving DecidableEq, Repr

/-
  What a call came to: a frame, if there is one, the bytes
  left to the caller, and the codec after it.
-/
structure Decoding where
  frame : Option ScannedFrame
  buffer : Bytes
  codec : BufferCodec
deriving DecidableEq, Repr

namespace BufferCodec

def withLimit
    (maxFrameSize : Nat) : BufferCodec where
  state := { maxFrameSize := maxFrameSize }

def stats
    (c : BufferCodec) : ScanStats :=
  c.state.stats

/- Cut the next frame off the front of a buffer. -/
def decode
    (c : BufferCodec)
    (buffer : Bytes) : Decoding :=
  let x := c.state.extract (.ofList buffer)
  match x.frame with
  | none =>
      ⟨none, x.rest.toList, { c with state := x.after }⟩
  | some data =>
      ⟨some ⟨c.nextSequence, data⟩, x.rest.toList,
        { state := x.after
          nextSequence := c.nextSequence + 1 }⟩

/-
  Cut the next frame off a buffer to which nothing will be
  added.  If there is none, the buffer is emptied.
-/
def decodeEnd
    (c : BufferCodec)
    (buffer : Bytes) : Decoding :=
  let d := c.decode buffer
  match d.frame with
  | some _ => d
  | none =>
      ⟨none, [],
        { d.codec with state := d.codec.state.reset }⟩

/- What may be done with a codec and its buffer. -/
inductive Event where
/- The caller adds bytes at the end. -/
| append (bs : Bytes)
/- The caller keeps a number of bytes at the front. -/
| truncate (n : Nat)
/- The caller drops a number of bytes at the front. -/
| advance (n : Nat)
| decode
| decodeEnd
deriving DecidableEq, Repr

def step
    (c : BufferCodec)
    (buffer : Bytes) : Event → Decoding
| .append bs => ⟨none, buffer ++ bs, c⟩
| .truncate n => ⟨none, buffer.take n, c⟩
| .advance n => ⟨none, buffer.drop n, c⟩
| .decode => c.decode buffer
| .decodeEnd => c.decodeEnd buffer

/- Let events happen in order, with the outcome of each. -/
def run
    (c : BufferCodec)
    (buffer : Bytes) : List Event → List Decoding
| [] => []
| e :: es =>
    let d := c.step buffer e
    d :: run d.codec d.buffer es

end BufferCodec

end Reframe
