import Reframe.Feedback.Limiter
import Reframe.Fragment.Codec
import Reframe.Image.Decoder
import Reframe.Image.Latest
import Reframe.Receiver.Loop
import Reframe.Receiver.Stats

/-
  This file defines the engine that rebuilds frames from
  datagrams as they arrive, decodes them, and keeps the
  latest picture at hand.

  Gaps are reported to a sink of requests for reference
  frames, if there is one.  What one datagram brings about
  is taken as one step, and decoders return.  Left out is
  the end of a loop whose decoder breaks down.

  Key definitions include:
    * `FeedbackSink`
    * `Receiver`
    * `Receiver.take`
    * `Receiver.receive`
    * `Receiver.stats`
    * `Receiver.wait`
    * `Receiver.close`
-/

namespace Reframe

------------------------------------------------------------
-- Sinks Of Requests
------------------------------------------------------------

/-
  A sink of requests for reference frames: its state, what a
  request does to it and whether it is taken, and how many
  requests were delivered to their end or not.
-/
structure FeedbackSink (φ : Type) where
  state : φ
  request : φ → Bool × φ
  delivered : φ → Nat := fun _ => 0
  undelivered : φ → Nat := fun _ => 0

/- A sink, and the limiter that paces the requests to it. -/
structure FeedbackChannel (φ : Type) where
  limiter : FeedbackLimiter
  sink : FeedbackSink φ

namespace FeedbackChannel

variable {φ : Type}

def forCodec
    (codec : VideoCodec)
    (cooldown : Duration)
    (sink : FeedbackSink φ) : FeedbackChannel φ where
  limiter := .forCodec codec cooldown
  sink := sink

def observe
    (c : FeedbackChannel φ)
    (frameId : UInt32) : FeedbackChannel φ :=
  { c with limiter := c.limiter.observe frameId }

def onGap
    (c : FeedbackChannel φ)
    (now : Nat) : GapOutcome × FeedbackChannel φ :=
  let r := c.limiter.onGap c.sink.request c.sink.state now
  (r.outcome,
    { limiter := r.limiter
      sink := { c.sink with state := r.sink } })

end FeedbackChannel

------------------------------------------------------------
-- Receivers
------------------------------------------------------------

/-
  A receiver: the reassembler, the channel for requests, if
  there is one, the decoder, the latest picture, the counts
  that are its own, and its loop.
-/
structure Receiver (σ φ : Type) where
  reassembler : Reassembler := {}
  feedback : Option (FeedbackChannel φ) := none
  decoder : Decoder σ
  latest : LatestImage := {}
  counts : ReceiverStats := {}
  loop : ReceiveLoop

namespace Receiver

variable {σ φ : Type}

def countDatagram
    (r : Receiver σ φ) : Receiver σ φ :=
  { r with
    counts :=
      { r.counts with datagrams := r.counts.datagrams + 1 } }

def countGap
    (s : ReceiverStats) : GapOutcome → ReceiverStats
| .disabled => s
| .sent => { s with feedbackSent := s.feedbackSent + 1 }
| .failed => { s with feedbackFailed := s.feedbackFailed + 1 }
| .suppressed =>
    { s with feedbackSuppressed := s.feedbackSuppressed + 1 }

def observe
    (r : Receiver σ φ)
    (frameId : UInt32) : Receiver σ φ :=
  { r with feedback := r.feedback.map (·.observe frameId) }

def handleGap
    (r : Receiver σ φ)
    (now : Nat) : Receiver σ φ :=
  match r.feedback with
  | none => r
  | some c =>
      match c.onGap now with
      | (outcome, c) =>
          { r with
            feedback := some c
            counts := countGap r.counts outcome }

def publish
    (r : Receiver σ φ)
    (image : Image) : Receiver σ φ :=
  { r with
    latest := r.latest.publish image
    counts :=
      { r.counts with published := r.counts.published + 1 } }

/- Decode a frame and publish its pictures. -/
def handleFrame
    (r : Receiver σ φ)
    (data : Bytes) : Receiver σ φ :=
  match r.decoder.decode data with
  | (.ok images, decoder) =>
      images.foldl publish
        { r with
          decoder := decoder
          counts :=
            { r.counts with
              decoded := r.counts.decoded + 1 } }
  | (.error _, decoder) =>
      { r with
        decoder := decoder
        counts :=
          { r.counts with
            decodeFailures := r.counts.decodeFailures + 1 } }

/- Act on what a fragment brought about. -/
def handleIngest
    (r : Receiver σ φ)
    (ingest : Ingest)
    (now : Nat) : Receiver σ φ :=
  let r :=
    match ingest.gap with
    | none => r
    | some _ => r.handleGap now
  match ingest.completed with
  | none => r
  | some frame => r.handleFrame frame.data

def takeFragment
    (r : Receiver σ φ)
    (f : Fragment)
    (now : Nat) : Receiver σ φ :=
  let r := r.observe f.frameId
  match r.reassembler.push f with
  | (.error _, after) => { r with reassembler := after }
  | (.ok ingest, after) =>
      handleIngest { r with reassembler := after } ingest now

def take
    (r : Receiver σ φ)
    (datagram : Bytes)
    (now : Nat) : Receiver σ φ :=
  let r := r.countDatagram
  match Fragment.decode datagram with
  | .error _ =>
      { r with reassembler := r.reassembler.recordMalformed }
  | .ok f => r.takeFragment f now

/-
  A datagram arrives.  A loop that has not ended takes it
  in, and only then looks whether it is to go on.
-/
def receive
    (r : Receiver σ φ)
    (datagram : Bytes)
    (now : Nat) : Receiver σ φ :=
  if r.loop.ended then r
  else
    let r := r.take datagram now
    { r with loop := r.loop.look }

------------------------------------------------------------
-- Consumers
------------------------------------------------------------

/- The published counts. -/
def stats
    (r : Receiver σ φ) : ReceiverStats :=
  let s := r.counts.withReassembly r.reassembler.stats
  match r.feedback with
  | none => s
  | some c =>
      { s with
        feedbackDelivered := c.sink.delivered c.sink.state
        feedbackUndelivered :=
          c.sink.undelivered c.sink.state }

/- The receiver goes on, as far as it tells. -/
def running
    (r : Receiver σ φ) : Bool :=
  r.loop.running

/-
  Wait for a picture newer than the one with a number, while
  nothing arrives.
-/
def wait
    (r : Receiver σ φ)
    (seen : Nat)
    (limit : Duration) : Except ClientError (Image × Nat) :=
  match r.latest.newer? seen with
  | some p => .ok p
  | none =>
      if r.running then .error (.timeout limit)
      else .error .closed

/-
  Stop receiving, with so much time left until the loop
  looks again.
-/
def close
    (r : Receiver σ φ)
    (left : Duration) : Receiver σ φ :=
  { r with loop := r.loop.close left }

------------------------------------------------------------
-- Runs
------------------------------------------------------------

/- What may be done with a receiver. -/
inductive Event where
/- A datagram arrives at a time. -/
| datagram (bytes : Bytes) (now : Nat)
/- No datagram arrives while the loop waits for one. -/
| silence (waited : Duration)
/- The loop gets a fault in place of a datagram. -/
| fault
/- A consumer waits. -/
| wait (seen : Nat) (limit : Duration)
/- The receiver is closed, the loop has time left to look. -/
| close (left : Duration := ⟨0⟩)
deriving DecidableEq, Repr

/- Let one event happen, with the answer to a consumer. -/
def step
    (r : Receiver σ φ) :
    Event →
      Option (Except ClientError (Image × Nat)) × Receiver σ φ
| .datagram bytes now => (none, r.receive bytes now)
| .silence waited =>
    (none, { r with loop := r.loop.silence waited })
| .fault => (none, { r with loop := r.loop.look })
| .wait seen limit => (some (r.wait seen limit), r)
| .close left => (none, r.close left)

def after
    (r : Receiver σ φ)
    (es : List Event) : Receiver σ φ :=
  es.foldl (fun r e => (r.step e).2) r

end Receiver

end Reframe
