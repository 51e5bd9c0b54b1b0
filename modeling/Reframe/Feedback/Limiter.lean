import Reframe.Duration
import Reframe.VideoCodec

/-
  This file defines the pacing of requests for reference
  frames: after a request has been made, failed or not, no
  further one is made until a cool-down has passed.

  Key definitions include:
    * `GapOutcome`
    * `FeedbackLimiter`
    * `FeedbackLimiter.IsDue`
    * `FeedbackLimiter.onGap`
    * `FeedbackLimiter.run`
-/

namespace Reframe

------------------------------------------------------------
-- Outcomes
------------------------------------------------------------

inductive GapOutcome where
/- Requests are turned off. -/
| disabled
| sent
/- A request was made and failed. -/
| failed
/- The cool-down had not passed. -/
| suppressed
deriving DecidableEq, Repr

/-
  Counts over the life of a limiter: gaps, and how many of
  them came to each outcome but `disabled`.
-/
structure FeedbackStats where
  gaps : Nat := 0
  sent : Nat := 0
  failed : Nat := 0
  suppressed : Nat := 0
deriving DecidableEq, Repr

------------------------------------------------------------
-- Limiters
------------------------------------------------------------

/-
  A limiter: the cool-down, whether requests are turned on,
  when the last request was made, in nanoseconds, the last
  frame number that was seen, and the counts.
-/
structure FeedbackLimiter where
  cooldown : Duration
  enabled : Bool := true
  lastRequest : Option Nat := none
  lastObserved : Option UInt32 := none
  stats : FeedbackStats := {}
deriving DecidableEq, Repr

/-
  What one gap came to: the outcome, what requests are made
  of after it, and the limiter after it.
-/
structure GapHandling (σ : Type) where
  outcome : GapOutcome
  sink : σ
  limiter : FeedbackLimiter

namespace FeedbackLimiter

def defaultCooldown : Duration :=
  .ofSeconds 1

/-
  A new limiter that makes requests only where the codec
  has a use for them.
-/
def forCodec
    (codec : VideoCodec)
    (cooldown : Duration) : FeedbackLimiter where
  cooldown := cooldown
  enabled := decide codec.UsesReferenceFrames

def observe
    (l : FeedbackLimiter)
    (frameId : UInt32) : FeedbackLimiter :=
  { l with lastObserved := some frameId }

def setEnabled
    (l : FeedbackLimiter)
    (enabled : Bool) : FeedbackLimiter :=
  { l with enabled := enabled }

/-
  The cool-down has passed.  A time before the last request
  counts as the time of that request.
-/
def IsDue
    (l : FeedbackLimiter)
    (now : Nat) : Prop :=
  match l.lastRequest with
  | none => True
  | some last => l.cooldown.nanos ≤ now - last

instance
    (l : FeedbackLimiter)
    (now : Nat) :
    Decidable (l.IsDue now) := by
  unfold IsDue
  cases l.lastRequest <;> infer_instance

def count
    (l : FeedbackLimiter)
    (outcome : GapOutcome) : FeedbackLimiter :=
  let s := { l.stats with gaps := l.stats.gaps + 1 }
  match outcome with
  | .disabled => { l with stats := s }
  | .sent =>
      { l with stats := { s with sent := s.sent + 1 } }
  | .failed =>
      { l with stats := { s with failed := s.failed + 1 } }
  | .suppressed =>
      { l with
        stats := { s with suppressed := s.suppressed + 1 } }

/-
  React to a gap at a time.  `request` makes a request and
  tells whether it was taken.
-/
def onGap
    {σ : Type}
    (l : FeedbackLimiter)
    (request : σ → Bool × σ)
    (sink : σ)
    (now : Nat) : GapHandling σ :=
  if l.enabled = false then
    ⟨.disabled, sink, l.count .disabled⟩
  else if ¬ l.IsDue now then
    ⟨.suppressed, sink, l.count .suppressed⟩
  else
    let made := { l with lastRequest := some now }
    match request sink with
    | (true, after) => ⟨.sent, after, made.count .sent⟩
    | (false, after) => ⟨.failed, after, made.count .failed⟩

------------------------------------------------------------
-- Runs
------------------------------------------------------------

inductive Event where
/- A gap is seen; a request, if made, is taken or not. -/
| gap (now : Nat) (taken : Bool)
| frame (frameId : UInt32)
| enable (enabled : Bool)
deriving DecidableEq, Repr

/-
  What one event came to: the outcome, if it was a gap, the
  requests made so far, and the limiter after it.
-/
structure Step where
  outcome : Option GapOutcome
  calls : Nat
  after : FeedbackLimiter
deriving DecidableEq, Repr

/- Let one event happen, counting the requests made. -/
def step
    (l : FeedbackLimiter)
    (calls : Nat) : Event → Step
| .gap now taken =>
    let r := l.onGap (fun n => (taken, n + 1)) calls now
    ⟨some r.outcome, r.sink, r.limiter⟩
| .frame frameId => ⟨none, calls, l.observe frameId⟩
| .enable enabled => ⟨none, calls, l.setEnabled enabled⟩

def run
    (l : FeedbackLimiter)
    (calls : Nat) : List Event → List Step
| [] => []
| e :: es =>
    let s := l.step calls e
    s :: run s.after s.calls es

end FeedbackLimiter

end Reframe
