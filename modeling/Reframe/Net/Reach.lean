import Reframe.Net.Network
import Reframe.Net.Url

/-
  This file defines networks that programs can be run with:
  either nothing can be reached, or a service answers
  requests in order and datagrams arrive in batches.

  No statement about programs rests on them: they are
  networks among others.

  Key definitions include:
    * `Reply`
    * `Reach`
    * `Reach.ask`
    * `Reach.exchange`
    * `Reach.bind`
    * `Reach.network`
    * `Network.isolated`
    * `Network.serving`
-/

namespace Reframe

------------------------------------------------------------
-- Services
------------------------------------------------------------

/- What a service does with one request. -/
inductive Reply where
/- It answers with a status and a body. -/
| answer (status : Nat) (body : Bytes)
/- It sends something that is no answer. -/
| garbage
/- It never answers. -/
| silence
deriving DecidableEq, Repr

/-
  A service within reach: its address, its coming replies,
  the requests that reached it, last one first, the address
  and a free port of the host, and the batches of datagrams
  that arrive once a stream was started.
-/
structure Reachable where
  address : SocketAddress
  replies : List Reply := []
  received : List Received := []
  localHost : IpAddress := .loopback
  freePort : Nat := 0
  batches : List (List Bytes) := []
deriving DecidableEq, Repr

/- What a host reaches. -/
inductive Reach where
/- No address can be reached. -/
| nothing
/- One service can be reached. -/
| service (r : Reachable)
deriving DecidableEq, Repr

namespace Reach

/- The requests that reached a service, in order. -/
def received : Reach → List Received
| .nothing => []
| .service r => r.received.reverse

/- The batches of datagrams that arrive. -/
def batches : Reach → List (List Bytes)
| .nothing => []
| .service r => r.batches

/- Why a request got no answer. -/
inductive Silence where
| badUrl
| unknownHost
| unreachable
| refused
| insecure
| closed
| garbled
| timedOut
deriving DecidableEq, Repr

/- The wording of a lack of answer. -/
def Silence.message : Silence → String
| .badUrl => "not the address of a web service"
| .unknownHost => "host not known"
| .unreachable => "network is unreachable"
| .refused => "connection refused"
| .insecure => "nothing is kept secret"
| .closed => "connection closed without an answer"
| .garbled => "answer not understood"
| .timedOut => "timed out"

/- Take the next reply of the service. -/
def nextReply
    (r : Reachable)
    (entry : Received) :
    Except Silence Answer × Reachable :=
  match r.replies with
  | [] => (.error .closed, r)
  | reply :: rest =>
      let r :=
        { r with
          replies := rest
          received := entry :: r.received }
      match reply with
      | .answer status body => (.ok ⟨status, body⟩, r)
      | .garbage => (.error .garbled, r)
      | .silence => (.error .timedOut, r)

/- The least time in which a host is ever reached. -/
def leastTime : Duration :=
  ⟨1000⟩

/-
  Make a request of a host.  Services are not asked in
  secret.
-/
def ask
    (n : Reach)
    (q : HttpRequest)
    (u : Url)
    (host : IpAddress) :
    Except Silence Answer × Reach :=
  match n with
  | .nothing => (.error .unreachable, n)
  | .service r =>
      if ⟨host, u.port, 0⟩ ≠ r.address then
        (.error .refused, n)
      else if u.secure then (.error .insecure, n)
      else
        let entry : Received :=
          { line := q.method ++ " " ++ u.target q.query
            accept := q.accept }
        match nextReply r entry with
        | (answer, r) => (answer, .service r)

/-
  Make a request.  One that has no time has timed out before
  it reaches a host, once it is known which host is meant.
-/
def exchange
    (n : Reach)
    (q : HttpRequest) : Except Silence Answer × Reach :=
  match Url.parse? q.url with
  | none => (.error .badUrl, n)
  | some u =>
      match u.host.address? with
      | none => (.error .unknownHost, n)
      | some host =>
          if q.timeout.nanos < leastTime.nanos then
            (.error .timedOut, n)
          else n.ask q u host

------------------------------------------------------------
-- Sockets
------------------------------------------------------------

/-
  The host takes an address for its own.  A host that cannot
  reach anything does not know which addresses of four bytes
  are its own, and takes any of them.
-/
def Owns
    (n : Reach)
    (a : IpAddress) : Prop :=
  match n with
  | .nothing => a.IsShort ∨ a = .anyV6
  | .service r =>
      a.IsLoopback ∨
        a ∈ [.anyV4, .anyV6, .broadcast, r.localHost]

instance
    (n : Reach)
    (a : IpAddress) :
    Decidable (n.Owns a) := by
  cases n <;> unfold Owns <;> infer_instance

/-
  Sockets of the host may be bound to an address that is its
  own or that of a group of hosts.  A long address that
  stands for a short one counts as that.
-/
def MayBind
    (n : Reach)
    (a : IpAddress) : Prop :=
  n.Owns a.unmapped ∨ a.unmapped.IsMulticast

instance
    (n : Reach)
    (a : IpAddress) :
    Decidable (n.MayBind a) := by
  unfold MayBind
  infer_instance

/- The port that a socket gets. -/
def portFor
    (n : Reach)
    (wanted : Nat) : Nat :=
  if wanted = 0 then
    match n with
    | .nothing => 0
    | .service r => r.freePort
  else wanted

/- Bind a socket to an address that may be bound. -/
def bind
    (n : Reach)
    (a : SocketAddress) :
    Except TransportError SocketAddress :=
  if a.zone = 0 ∧ a.host.NeedsZone then
    .error (.bind a .invalidArgument)
  else if n.MayBind a.host then
    .ok { a with port := n.portFor a.port }
  else .error (.bind a .addressNotAvailable)

/- The address of the host that others send to. -/
def localHost : Reach → IpAddress
| .nothing => .loopback
| .service r => r.localHost

/- Connect a socket to the receiver of its datagrams. -/
def connect
    (n : Reach)
    (a : SocketAddress) :
    Except TransportError DatagramSink :=
  if a.zone = 0 ∧ a.host.NeedsZone then
    .error (.io .invalidArgument)
  else
    match n with
    | .nothing => .error (.io .networkUnreachable)
    | .service _ => .ok { limit := some Network.datagramLimit }

------------------------------------------------------------
-- Networks
------------------------------------------------------------

/- The reach of a host after requests, last one first. -/
def following
    (n : Reach)
    (past : List HttpRequest) : Reach :=
  past.foldr (fun q n => (n.exchange q).2) n

/- The network of a host with that reach. -/
def network
    (n : Reach) : Network where
  respond past q :=
    ((n.following past).exchange q).1.mapError
      Silence.message
  reached past := (n.following past).received
  bind := n.bind
  connect := n.connect
  localHost := n.localHost
  batches := n.batches

end Reach

/- The network of a host that reaches nothing. -/
def Network.isolated : Network :=
  Reach.nothing.network

/- The network of a host that reaches one service. -/
def Network.serving
    (r : Reachable) : Network :=
  (Reach.service r).network

end Reframe
