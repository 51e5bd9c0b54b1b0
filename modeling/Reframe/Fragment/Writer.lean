import Reframe.Fragment.Split

/-
  This file defines sending frames as datagrams.

  A sink takes datagrams one at a time.  Each attempt is
  accepted, interrupted or refused; an interrupted attempt
  is made again, and a refusal ends the frame.

  Key definitions include:
    * `DatagramSink`
    * `DatagramSink.offer`
    * `Delivery`
    * `DatagramSink.deliver`
    * `FragmentWriter`
    * `FragmentWriter.HasBuffer`
    * `FragmentWriter.sendWithId`
    * `FragmentWriter.send`
-/

namespace Reframe

------------------------------------------------------------
-- Sinks
------------------------------------------------------------

/-
  A sink, given by the results of the coming attempts: no
  failure, or a failure.  Once these are used up, it accepts
  every datagram up to its limit, if it has one.
-/
structure DatagramSink where
  results : List (Option IoError) := []
  limit : Option Nat := none
deriving DecidableEq, Repr

/-
  What came of one datagram: why it was refused, if it was,
  how many attempts it took, and the results that are left.
-/
structure Offer where
  failure : Option IoError
  attempts : Nat
  rest : List (Option IoError)
deriving DecidableEq, Repr

namespace DatagramSink

def overrun
    (limit : Option Nat)
    (datagram : Bytes) : Option IoError :=
  match limit with
  | none => none
  | some n =>
      if n < datagram.length then some .messageTooLong
      else none

/- Offer one datagram until an attempt is not interrupted. -/
def offer
    (limit : Option Nat)
    (datagram : Bytes) :
    List (Option IoError) → Offer
| [] => ⟨overrun limit datagram, 1, []⟩
| none :: rest => ⟨none, 1, rest⟩
| some e :: rest =>
    if e.kind = .interrupted then
      let o := offer limit datagram rest
      { o with attempts := o.attempts + 1 }
    else
      ⟨some e, 1, rest⟩

end DatagramSink

------------------------------------------------------------
-- Deliveries
------------------------------------------------------------

/-
  How far the fragments of a frame got: the datagrams that
  were offered, once for each attempt, and those that were
  accepted, both last one first, the failure that ended the
  frame, if any, and the sink after them.
-/
structure Delivery where
  offered : List Bytes := []
  accepted : List Bytes := []
  failure : Option FrameError := none
  sink : DatagramSink
deriving DecidableEq, Repr

namespace Delivery

/- Send the next fragment, unless the frame has failed. -/
def next
    (r : Delivery)
    (f : Fragment) : Delivery :=
  match r.failure with
  | some _ => r
  | none =>
      match f.encode [] with
      | .error e => { r with failure := some e }
      | .ok datagram =>
          let o :=
            DatagramSink.offer r.sink.limit datagram
              r.sink.results
          let sink := { r.sink with results := o.rest }
          let offered :=
            List.replicate o.attempts datagram ++ r.offered
          match o.failure with
          | some e =>
              { r with
                offered := offered
                failure := some (.io e)
                sink := sink }
          | none =>
              { r with
                offered := offered
                accepted := datagram :: r.accepted
                sink := sink }

/- The accepted datagrams, first one first. -/
def datagrams
    (r : Delivery) : List Bytes :=
  r.accepted.reverse

def attempts
    (r : Delivery) : Nat :=
  r.offered.length

end Delivery

/- Send fragments in order until one of them fails. -/
def DatagramSink.deliver
    (sink : DatagramSink)
    (fs : List Fragment) : Delivery :=
  fs.foldl Delivery.next { sink := sink }

------------------------------------------------------------
-- Writers
------------------------------------------------------------

/-
  A writer numbers frames and cuts them into fragments of a
  positive size.
-/
structure FragmentWriter where
  mtu : Nat
  mtu_pos : 0 < mtu
  nextFrameId : UInt32 := 0
deriving DecidableEq, Repr

/-
  What came of one frame: its number or the failure, the
  delivery of its fragments, and the writer after it.
-/
structure Sending where
  result : Except FrameError UInt32
  delivery : Delivery
  writer : FragmentWriter

namespace FragmentWriter

def defaultMtu : Nat :=
  1400

/- A new writer with a slice size of at least one. -/
def withMtu
    (mtu : Nat) : FragmentWriter where
  mtu := Fragment.sliceSize mtu
  mtu_pos := by
    unfold Fragment.sliceSize
    omega

/- The longest datagram of the writer fits in a buffer. -/
def HasBuffer
    (w : FragmentWriter) : Prop :=
  Bytes.FitBuffer (Fragment.headerSize + w.mtu)

instance
    (w : FragmentWriter) :
    Decidable w.HasBuffer := by
  unfold HasBuffer
  infer_instance

def sendWithId
    (w : FragmentWriter)
    (frameId : UInt32)
    (data : Bytes)
    (sink : DatagramSink) : Sending :=
  match Fragment.split frameId data w.mtu with
  | .error e => ⟨.error e, { sink := sink }, w⟩
  | .ok fs =>
      let r := sink.deliver fs
      match r.failure with
      | some e => ⟨.error e, r, w⟩
      | none =>
          ⟨.ok frameId, r,
            { w with nextFrameId := frameId + 1 }⟩

def send
    (w : FragmentWriter)
    (data : Bytes)
    (sink : DatagramSink) : Sending :=
  w.sendWithId w.nextFrameId data sink

def describe
    (w : FragmentWriter) : String :=
  s!"FragmentWriter \x7b mtu: {w.mtu}, " ++
    s!"next_frame_id: {w.nextFrameId} \x7d"

end FragmentWriter

end Reframe
