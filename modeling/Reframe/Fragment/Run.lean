import Reframe.Fragment.Writer

/-
  This file defines runs of a sender: frame after frame is
  sent, whatever came of the frames before it, under the
  next number or under a given one.

  Key definitions include:
    * `Sender`
    * `Sender.send`
    * `Sender.run`
    * `Sender.after`
    * `Sender.Call`
    * `Sender.call`
    * `Sender.afterCalls`
    * `Sender.acceptedBy`
-/

namespace Reframe

/- A writer and the sink that it sends to. -/
structure Sender where
  writer : FragmentWriter
  sink : DatagramSink
deriving DecidableEq, Repr

def Sending.sender
    (s : Sending) : Sender where
  writer := s.writer
  sink := s.delivery.sink

namespace Sender

def send
    (x : Sender)
    (data : Bytes) : Sending :=
  x.writer.send data x.sink

/-
  Send frames in order.  Each frame comes with what came of
  it.
-/
def run
    (x : Sender) : List Bytes → List (Bytes × Sending)
| [] => []
| data :: frames =>
    let s := x.send data
    (data, s) :: run s.sender frames

def after
    (x : Sender)
    (frames : List Bytes) : Sender :=
  frames.foldl (fun y data => (y.send data).sender) x

/- A frame to be sent, and its number if one is given. -/
structure Call where
  frameId : Option UInt32 := none
  data : Bytes
deriving DecidableEq, Repr

/- The number that a frame is sent under. -/
def numberOf
    (x : Sender)
    (c : Call) : UInt32 :=
  c.frameId.getD x.writer.nextFrameId

/- Send a frame under its number, or under the next one. -/
def call
    (x : Sender)
    (c : Call) : Sending :=
  match c.frameId with
  | none => x.send c.data
  | some frameId =>
      x.writer.sendWithId frameId c.data x.sink

def afterCalls
    (x : Sender)
    (cs : List Call) : Sender :=
  cs.foldl (fun y c => (y.call c).sender) x

/- The datagrams that the sink accepts, call by call. -/
def acceptedBy
    (x : Sender) : List Call → List Bytes
| [] => []
| c :: cs =>
    let s := x.call c
    s.delivery.datagrams ++ acceptedBy s.sender cs

end Sender

end Reframe
