import Reframe.Image.Decoder
import Reframe.LiveStream
import Reframe.Scan.Reader

/-
  This file defines the engine that pulls frames out of an
  open stream, one at a time, whenever they are asked for.

  A stream that fails ends like one that is over.

  Key definitions include:
    * `Puller`
    * `Puller.ofStream`
    * `Puller.nextFrame`
    * `Puller.framesUpTo`
    * `Puller.frames`
    * `Puller.nextImage`
    * `Puller.close`
-/

namespace Reframe

------------------------------------------------------------
-- Pullers
------------------------------------------------------------

/-
  A puller: where its stream comes from, the reader of the
  stream, the decoder, and whether it was closed.
-/
structure Puller (σ : Type) where
  label : String
  reader : FrameReader
  decoder : Decoder σ
  closed : Bool := false

namespace Puller

variable {σ : Type}

def ofStream
    (stream : LiveStream)
    (maxFrameSize chunkSize : Nat)
    (decoder : Decoder σ) : Puller σ where
  label := stream.label
  reader :=
    .ofSource stream.source maxFrameSize chunkSize
  decoder := decoder

def stats
    (p : Puller σ) : ScanStats :=
  p.reader.stats

/- Let go of the stream.  Nothing is handed out any more. -/
def close
    (p : Puller σ) : Puller σ :=
  if p.closed then p
  else { p with reader := p.reader.close, closed := true }

/-
  Hand out the next frame, or nothing once the stream is
  over.
-/
def nextFrame
    (p : Puller σ) : Option ScannedFrame × Puller σ :=
  if p.closed then (none, p)
  else
    match p.reader.read with
    | (.ok (some f), reader) =>
        (some f, { p with reader := reader })
    | (_, reader) =>
        (none, ({ p with reader := reader } : Puller σ).close)

/- A frame is handed out at the cost of the reader. -/
theorem measure_lt_of_nextFrame
    {p after : Puller σ}
    {f : ScannedFrame}
    (h : p.nextFrame = (some f, after)) :
    Prod.Lex (· < ·) (· < ·)
      after.reader.measure p.reader.measure := by
  unfold nextFrame at h
  split at h
  · simp at h
  · split at h
    · rename_i g reader hr
      simp only [Prod.mk.injEq] at h
      rw [← h.2]
      exact FrameReader.measure_lt_of_read hr
    · simp at h

------------------------------------------------------------
-- Several Frames
------------------------------------------------------------

def framesUpTo
    (p : Puller σ) : Nat → List ScannedFrame × Puller σ
| 0 => ([], p)
| n + 1 =>
    match p.nextFrame with
    | (none, after) => ([], after)
    | (some f, after) =>
        let r := after.framesUpTo n
        (f :: r.1, r.2)

def frames
    (p : Puller σ) : List ScannedFrame × Puller σ :=
  match _h : p.nextFrame with
  | (none, after) => ([], after)
  | (some f, after) =>
      let r := after.frames
      (f :: r.1, r.2)
termination_by p.reader.measure
decreasing_by exact measure_lt_of_nextFrame _h

------------------------------------------------------------
-- Pictures
------------------------------------------------------------

/-
  Hand out the next frame that gives a picture, with the
  last picture that it gives.  Frames that give none or are
  refused are passed over.
-/
def nextImage
    (p : Puller σ) :
    Option (ScannedFrame × Image) × Puller σ :=
  match _h : p.nextFrame with
  | (none, after) => (none, after)
  | (some f, after) =>
      let d := after.decoder.decode f.data
      match d.1 with
      | .ok images =>
          match images.getLast? with
          | some image =>
              (some (f, image),
                { after with decoder := d.2 })
          | none => nextImage { after with decoder := d.2 }
      | .error _ => nextImage { after with decoder := d.2 }
termination_by p.reader.measure
decreasing_by
  all_goals
    have h := measure_lt_of_nextFrame _h
    exact h

end Puller

end Reframe
