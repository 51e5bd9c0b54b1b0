import Reframe.Net.Network

/- This file defines sockets that receive datagrams. -/

namespace Reframe

/-
  A socket: the address that it is bound to, and the
  datagrams that arrived, first one first.
-/
structure DatagramSocket where
  address : SocketAddress
  queue : List Bytes := []
deriving DecidableEq, Repr

namespace DatagramSocket

def transportName : String :=
  "udp"

def describe
    (s : DatagramSocket) : String :=
  "DatagramSocket \x7b " ++
    s!"local_addr: {s.address.text} \x7d"

/- A datagram arrives, unless it is too long for that. -/
def arrive
    (s : DatagramSocket)
    (datagram : Bytes) :
    Except TransportError Nat × DatagramSocket :=
  match DatagramSink.overrun (some Network.datagramLimit)
    datagram with
  | some e => (.error (.io e), s)
  | none =>
      (.ok datagram.length,
        { s with queue := s.queue ++ [datagram] })

/-
  Take the next datagram, cut off at a number of bytes.
  Nothing is taken if none arrives in time.
-/
def receive
    (s : DatagramSocket)
    (capacity : Nat) : Option Bytes × DatagramSocket :=
  match s.queue with
  | [] => (none, s)
  | d :: rest => (some (d.take capacity), { s with queue := rest })

end DatagramSocket

end Reframe
