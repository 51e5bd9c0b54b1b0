import Reframe.Duration
import Reframe.VideoCodec

/-
  This file defines what is asked of a service when a stream
  of datagrams is to start.
-/

namespace Reframe

/-
  The device to stream from, host and port to stream to, the
  name of the codec, size and rate of the pictures, and for
  how long.  Bit rate and distance of reference frames are
  left to the service unless given.
-/
structure StreamRequest where
  device : String
  target : String
  port : Nat
  codec : String
  width : Nat
  height : Nat
  fps : Nat
  duration : Duration
  bitrate : Option Nat := none
  gop : Option Nat := none
deriving DecidableEq, Repr

namespace StreamRequest

/- A field that is left out without a value. -/
def optionalField
    (name : String)
    (value : Option Nat) : List (String × String) :=
  value.toList.map (fun n => (name, toString n))

/-
  The fields of the query, in order.  The time is given in
  whole seconds, at least one.
-/
def fields
    (r : StreamRequest) : List (String × String) :=
  [("target", r.target),
    ("port", toString r.port),
    ("codec", r.codec),
    ("w", toString r.width),
    ("h", toString r.height),
    ("fps", toString r.fps),
    ("duration", toString (max r.duration.seconds 1))] ++
    optionalField "bitrate" r.bitrate ++
    optionalField "gop" r.gop

end StreamRequest

end Reframe
