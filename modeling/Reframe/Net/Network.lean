import Reframe.Duration
import Reframe.Fragment.Writer
import Reframe.Net.Error

/-
  This file defines the network as a program meets it: it
  answers requests, and sockets are bound and connected.

  What becomes of a request or an address is decided by the
  HTTP library, the operating system and the service.  They
  are no part of this library, and may do anything.
-/

namespace Reframe

/- A request, and how long to wait for the answer. -/
structure HttpRequest where
  method : String
  url : String
  timeout : Duration
  query : List (String × String) := []
  accept : String := "*/*"
deriving DecidableEq, Repr

structure Answer where
  status : Nat
  body : Bytes
deriving DecidableEq, Repr

/- A request that reached a service, with its target. -/
structure Received where
  line : String
  accept : String
deriving DecidableEq, Repr

/-
  A network, with the requests that were made so far, last
  one first.  What becomes of a request, and which of them
  reached a service, may depend on all before.
-/
structure Network where
  respond :
    List HttpRequest → HttpRequest → Except String Answer
  reached : List HttpRequest → List Received
  bind : SocketAddress → Except TransportError SocketAddress
  connect :
    SocketAddress → Except TransportError DatagramSink
  localHost : IpAddress
  batches : List (List Bytes) := []
  requests : List HttpRequest := []

namespace Network

def exchange
    (n : Network)
    (q : HttpRequest) : Except String Answer × Network :=
  (n.respond n.requests q,
    { n with requests := q :: n.requests })

/- The requests that reached a service, in order. -/
def received
    (n : Network) : List Received :=
  n.reached n.requests

/- The most bytes that fit in one datagram. -/
def datagramLimit : Nat :=
  65507

end Network

end Reframe
