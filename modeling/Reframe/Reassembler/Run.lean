import Reframe.Fragment.Codec
import Reframe.Reassembler.Basic

/-
  This file defines runs of a reassembler: what happens to
  it, what each event answers, and the state after all of
  them.

  Key definitions include:
    * `Reassembler.Event`
    * `Reassembler.Answer`
    * `Reassembler.step`
    * `Reassembler.run`
-/

namespace Reframe

namespace Reassembler

/- What may happen to a reassembler. -/
inductive Event where
| fragment (f : Fragment)
/- A datagram arrives and is decoded. -/
| datagram (bytes : Bytes)
/- A datagram that does not decode is recorded. -/
| malformed
| reset
deriving DecidableEq, Repr

inductive Answer where
| taken (ingest : Ingest)
| refused (cause : FrameError)
| recorded
| cleared
deriving DecidableEq, Repr

/- Take in a fragment and answer for it. -/
def stepFragment
    (r : Reassembler)
    (f : Fragment) : Answer × Reassembler :=
  match r.push f with
  | (.ok ingest, after) => (.taken ingest, after)
  | (.error e, after) => (.refused e, after)

def step
    (r : Reassembler) : Event → Answer × Reassembler
| .fragment f => r.stepFragment f
| .datagram bytes =>
    match Fragment.decode bytes with
    | .error e => (.refused e, r.recordMalformed)
    | .ok f => r.stepFragment f
| .malformed => (.recorded, r.recordMalformed)
| .reset => (.cleared, r.reset)

/-
  Let events happen in order.  Each answer comes with the
  state right after its event.
-/
def run
    (r : Reassembler) :
    List Event → List (Answer × Reassembler)
| [] => []
| e :: es =>
    let s := r.step e
    s :: run s.2 es

def after
    (r : Reassembler)
    (es : List Event) : Reassembler :=
  es.foldl (fun s e => (s.step e).2) r

end Reassembler

end Reframe
