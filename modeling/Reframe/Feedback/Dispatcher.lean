/-
  This file defines the delivery of requests in the
  background.

  A queue of one place lies between those who make requests
  and the worker who delivers them.  A request that finds
  the place taken coincides with the one in it.

  The worker's thread is left out.  Its steps are steps of a
  run, in any order with those of others.

  Key definitions include:
    * `Dispatcher`
    * `Dispatcher.request`
    * `Dispatcher.receive`
    * `Dispatcher.finish`
    * `Dispatcher.close`
    * `Dispatcher.shutDown`
    * `Dispatcher.run`
-/

namespace Reframe

------------------------------------------------------------
-- Dispatchers
------------------------------------------------------------

inductive WorkerState where
| idle
| delivering
| stopped
deriving DecidableEq, Repr

inductive DeliveryEnd where
| delivered
| failed
/- The worker breaks down. -/
| crashed
deriving DecidableEq, Repr

inductive RequestAnswer where
| accepted
| closed
deriving DecidableEq, Repr

/-
  A dispatcher: whether requests are still taken, whether
  one is in the queue, what the worker is doing, and how
  many deliveries have ended each way.
-/
structure Dispatcher where
  isOpen : Bool := true
  queued : Bool := false
  worker : WorkerState := .idle
  delivered : Nat := 0
  failed : Nat := 0
deriving DecidableEq, Repr

namespace Dispatcher

def request
    (d : Dispatcher) : RequestAnswer × Dispatcher :=
  if d.isOpen = false ∨ d.worker = .stopped then (.closed, d)
  else (.accepted, { d with queued := true })

/-
  Let an idle worker take the request out of the queue.  If
  there is none and none can follow, the worker ends.
-/
def receive
    (d : Dispatcher) : Dispatcher :=
  if d.worker = .idle then
    if d.queued then
      { d with queued := false, worker := .delivering }
    else if d.isOpen = false then
      { d with worker := .stopped }
    else d
  else d

def finish
    (d : Dispatcher)
    (outcome : DeliveryEnd) : Dispatcher :=
  if d.worker = .delivering then
    match outcome with
    | .delivered =>
        { d with
          worker := .idle
          delivered := d.delivered + 1 }
    | .failed =>
        { d with worker := .idle, failed := d.failed + 1 }
    | .crashed =>
        { d with worker := .stopped, queued := false }
  else d

def close
    (d : Dispatcher) : Dispatcher :=
  { d with isOpen := false }

/- Let the delivery under way end and the next one start. -/
def settle
    (d : Dispatcher)
    (outcome : DeliveryEnd) : Dispatcher :=
  (d.receive.finish outcome).receive

/-
  Take no further requests and wait until the worker has
  ended.  At most the delivery under way and the request in
  the queue are left to it.
-/
def shutDown
    (d : Dispatcher)
    (outcome : DeliveryEnd) : Dispatcher :=
  (d.close.settle outcome).settle outcome

------------------------------------------------------------
-- Runs
------------------------------------------------------------

/- What may happen to a dispatcher. -/
inductive Event where
| request
| receive
| finish (outcome : DeliveryEnd)
| close
deriving DecidableEq, Repr

/- Let one event happen, with the answer to a request. -/
def step
    (d : Dispatcher) :
    Event → Option RequestAnswer × Dispatcher
| .request =>
    match d.request with
    | (answer, after) => (some answer, after)
| .receive => (none, d.receive)
| .finish outcome => (none, d.finish outcome)
| .close => (none, d.close)

/- Let events happen in order, with the state after each. -/
def run
    (d : Dispatcher) :
    List Event → List (Option RequestAnswer × Dispatcher)
| [] => []
| e :: es =>
    let r := d.step e
    r :: run r.2 es

end Dispatcher

end Reframe
