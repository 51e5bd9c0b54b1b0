import Reframe.IoError
import Reframe.Net.Address

/- This file defines what can go wrong on the network. -/

namespace Reframe

/- Why a socket, a request or a service failed. -/
inductive TransportError where
/- No socket can be bound to the address. -/
| bind (address : SocketAddress) (source : IoError)
/- A socket or a body failed. -/
| io (source : IoError)
/- The service answered with a status of failure. -/
| status (url : String) (code : Nat) (reason : String)
/- The request got no answer. -/
| request (url reason : String)
/- The transport is shut down. -/
| shutdown
deriving DecidableEq, Repr

namespace TransportError

/- The wording of a failure. -/
def message : TransportError → String
| .bind address source =>
    s!"failed to bind to {address.text}: {source.text}"
| .io source => "transport I/O error: " ++ source.text
| .status url code reason =>
    s!"{url} responded {code}: {reason}"
| .request url reason =>
    s!"request to {url} failed: {reason}"
| .shutdown => "transport shut down"

/- The words that tell a request that ran out of time. -/
def timeoutWords : List Char :=
  "timed out".toList

/- A text has the words of a timeout in it. -/
def SaysTimeout
    (s : String) : Prop :=
  timeoutWords <:+: s.toList

instance
    (s : String) :
    Decidable (SaysTimeout s) :=
  List.instDecidableIsInfixOfDecidableEq timeoutWords
    s.toList

/- The failure means that time ran out. -/
def IsTimeout : TransportError → Prop
| .io source => source.kind.IsTimeout
| .request _ reason => SaysTimeout reason
| _ => False

instance
    (e : TransportError) :
    Decidable e.IsTimeout := by
  cases e <;> unfold IsTimeout <;> infer_instance

end TransportError

end Reframe
