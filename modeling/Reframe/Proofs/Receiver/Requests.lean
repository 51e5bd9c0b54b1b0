import Reframe.Receiver.Open
import Mathlib.Data.List.Count
import Mathlib.Logic.Function.Iterate

/-
  What the gaps of a stream come to at a sink of requests:
  how often it is asked, what it answers, and how the
  outcomes add up.  The service is a sink that takes every
  request and delivers it or not.

  Main declarations:
    * `FeedbackSink.stateAfter`
    * `FeedbackSink.answers`
    * `FeedbackChannel.reacts`
    * `FeedbackChannel.Asks`
    * `ServiceFeedback.isReady_stateAfter`
-/

namespace Reframe

------------------------------------------------------------
-- Sinks
------------------------------------------------------------

namespace FeedbackSink

variable {φ : Type}

/- The state of a sink after a number of requests. -/
def stateAfter
    (k : FeedbackSink φ)
    (n : Nat) : φ :=
  (fun s => (k.request s).2)^[n] k.state

/- Whether each of the first requests is taken. -/
def answers
    (k : FeedbackSink φ)
    (n : Nat) : List Bool :=
  (List.range n).map (fun i => (k.request (k.stateAfter i)).1)

theorem stateAfter_succ
    (k : FeedbackSink φ)
    (n : Nat) :
    k.stateAfter (n + 1) =
      (k.request (k.stateAfter n)).2 := by
  unfold stateAfter
  rw [Function.iterate_succ_apply']

theorem answers_succ
    (k : FeedbackSink φ)
    (n : Nat) :
    k.answers (n + 1) =
      k.answers n ++ [(k.request (k.stateAfter n)).1] := by
  simp [answers, List.range_succ]

end FeedbackSink

------------------------------------------------------------
-- Channels
------------------------------------------------------------

namespace FeedbackChannel

variable {φ : Type}

/- What a gap can come to. -/
inductive Reacts
    (c : FeedbackChannel φ) :
    GapOutcome × FeedbackChannel φ → Prop where
/- Requests are turned off. -/
| disabled
    {limiter : FeedbackLimiter}
    (hOff : c.limiter.enabled = false)
    (hEnabled : limiter.enabled = c.limiter.enabled) :
    Reacts c (.disabled, { c with limiter := limiter })
/- No request is made yet. -/
| suppressed
    {limiter : FeedbackLimiter}
    (hOn : c.limiter.enabled = true)
    (hEnabled : limiter.enabled = c.limiter.enabled) :
    Reacts c (.suppressed, { c with limiter := limiter })
/- A request is made, and taken or not. -/
| asked
    {outcome : GapOutcome}
    {limiter : FeedbackLimiter}
    {taken : Bool}
    {after : φ}
    (hOn : c.limiter.enabled = true)
    (hEnabled : limiter.enabled = c.limiter.enabled)
    (hRequest :
      c.sink.request c.sink.state = (taken, after))
    (hOutcome : outcome = if taken then .sent else .failed) :
    Reacts c
      (outcome, ⟨limiter, { c.sink with state := after }⟩)

/- Every gap comes to one of these. -/
theorem reacts
    (c : FeedbackChannel φ)
    (now : Nat) : c.Reacts (c.onGap now) := by
  unfold onGap FeedbackLimiter.onGap
  split
  · rename_i hOff
    exact .disabled hOff rfl
  · rename_i hOn
    have hEnabled := Bool.of_not_eq_false hOn
    split
    · exact .suppressed hEnabled rfl
    · dsimp only
      split
      · rename_i hTaken
        exact .asked hEnabled rfl hTaken rfl
      · rename_i hRefused
        exact .asked hEnabled rfl hRefused rfl

/-
  A channel to a sink after gaps.  The sink was asked as
  often as a request was sent or failed, and each gap had an
  outcome if requests are turned on.
-/
structure Asks
    (k : FeedbackSink φ)
    (enabled : Bool)
    (gaps : Nat)
    (c : FeedbackChannel φ)
    (sent failed suppressed : Nat) : Prop where
  enabled_eq : c.limiter.enabled = enabled
  sink_eq :
    c.sink = { k with state := k.stateAfter (sent + failed) }
  sent_eq : sent = (k.answers (sent + failed)).count true
  failed_eq : failed = (k.answers (sent + failed)).count false
  gaps_eq :
    sent + failed + suppressed = if enabled then gaps else 0

/- A new channel has seen no gap. -/
theorem asks_forCodec
    (codec : VideoCodec)
    (cooldown : Duration)
    (k : FeedbackSink φ) :
    Asks k (decide codec.UsesReferenceFrames) 0
      (forCodec codec cooldown k) 0 0 0 := by
  constructor <;>
    simp [forCodec, FeedbackLimiter.forCodec,
      FeedbackSink.stateAfter, FeedbackSink.answers]

section Gap

variable {k : FeedbackSink φ} {enabled : Bool}
variable {gaps sent failed suppressed : Nat}
variable {c : FeedbackChannel φ}

/- Noting a number makes no request. -/
theorem Asks.observe
    (hAsks : Asks k enabled gaps c sent failed suppressed)
    (frameId : UInt32) :
    Asks k enabled gaps (c.observe frameId) sent failed
      suppressed :=
  ⟨hAsks.enabled_eq, hAsks.sink_eq, hAsks.sent_eq,
    hAsks.failed_eq, hAsks.gaps_eq⟩

/- The next request is the one after those made so far. -/
theorem Asks.request_eq
    (hAsks : Asks k enabled gaps c sent failed suppressed)
    {taken : Bool}
    {after : φ}
    (hRequest : c.sink.request c.sink.state = (taken, after)) :
    k.stateAfter (sent + failed + 1) = after ∧
      k.answers (sent + failed + 1) =
        k.answers (sent + failed) ++ [taken] := by
  rw [hAsks.sink_eq] at hRequest
  rw [FeedbackSink.stateAfter_succ,
    FeedbackSink.answers_succ]
  simp only at hRequest
  rw [hRequest]
  exact ⟨rfl, rfl⟩

/- The sink goes on from the requests made so far. -/
theorem Asks.sink_eq_of_request
    (hAsks : Asks k enabled gaps c sent failed suppressed)
    {taken : Bool}
    {after : φ}
    (hRequest : c.sink.request c.sink.state = (taken, after)) :
    { c.sink with state := after } =
      { k with state := k.stateAfter (sent + failed + 1) } := by
  rw [(hAsks.request_eq hRequest).1, hAsks.sink_eq]

/- A gap without requests leaves the counts as they are. -/
theorem Asks.of_disabled
    (hAsks : Asks k enabled gaps c sent failed suppressed)
    {limiter : FeedbackLimiter}
    (hOff : c.limiter.enabled = false)
    (hEnabled : limiter.enabled = c.limiter.enabled) :
    Asks k enabled (gaps + 1) { c with limiter := limiter }
      sent failed suppressed := by
  have hGaps := hAsks.gaps_eq
  rw [← hAsks.enabled_eq, hOff] at hGaps
  refine
    { enabled_eq := hEnabled.trans hAsks.enabled_eq
      sink_eq := hAsks.sink_eq
      sent_eq := hAsks.sent_eq
      failed_eq := hAsks.failed_eq
      gaps_eq := ?_ }
  rw [← hAsks.enabled_eq, hOff]
  exact hGaps

/- A gap within the cool-down is suppressed. -/
theorem Asks.of_suppressed
    (hAsks : Asks k enabled gaps c sent failed suppressed)
    {limiter : FeedbackLimiter}
    (hOn : c.limiter.enabled = true)
    (hEnabled : limiter.enabled = c.limiter.enabled) :
    Asks k enabled (gaps + 1) { c with limiter := limiter }
      sent failed (suppressed + 1) := by
  have hGaps := hAsks.gaps_eq
  rw [← hAsks.enabled_eq, hOn, if_pos rfl] at hGaps
  refine
    { enabled_eq := hEnabled.trans hAsks.enabled_eq
      sink_eq := hAsks.sink_eq
      sent_eq := hAsks.sent_eq
      failed_eq := hAsks.failed_eq
      gaps_eq := ?_ }
  rw [← hAsks.enabled_eq, hOn, if_pos rfl]
  omega

/- A request counts as sent if it is taken, or as failed. -/
theorem Asks.of_request
    (hAsks : Asks k enabled gaps c sent failed suppressed)
    {limiter : FeedbackLimiter}
    {taken : Bool}
    {after : φ}
    (hOn : c.limiter.enabled = true)
    (hEnabled : limiter.enabled = c.limiter.enabled)
    (hRequest : c.sink.request c.sink.state = (taken, after)) :
    Asks k enabled (gaps + 1)
      ⟨limiter, { c.sink with state := after }⟩
      (sent + taken.toNat) (failed + (!taken).toNat)
      suppressed := by
  have hGaps := hAsks.gaps_eq
  rw [← hAsks.enabled_eq, hOn, if_pos rfl] at hGaps
  have hNext :
      sent + taken.toNat + (failed + (!taken).toNat) =
        sent + failed + 1 := by
    cases taken <;> simp <;> omega
  have hAnswers := (hAsks.request_eq hRequest).2
  refine
    { enabled_eq := hEnabled.trans hAsks.enabled_eq
      sink_eq := ?_
      sent_eq := ?_
      failed_eq := ?_
      gaps_eq := ?_ }
  · rw [hNext]
    exact hAsks.sink_eq_of_request hRequest
  · rw [hNext, hAnswers, List.count_append, ← hAsks.sent_eq]
    cases taken <;> rfl
  · rw [hNext, hAnswers, List.count_append,
      ← hAsks.failed_eq]
    cases taken <;> rfl
  · rw [← hAsks.enabled_eq, hOn, if_pos rfl]
    omega

end Gap

end FeedbackChannel

------------------------------------------------------------
-- Receivers
------------------------------------------------------------

namespace Receiver

variable {σ φ : Type}

/-
  What a receiver made of gaps: nothing without a sink, and
  otherwise what its channel and its counts say.
-/
def Reports
    (sink : Option (FeedbackSink φ))
    (enabled : Bool)
    (gaps : Nat)
    (r : Receiver σ φ) : Prop :=
  match sink with
  | none =>
      r.feedback = none ∧ r.counts.feedbackSent = 0 ∧
        r.counts.feedbackFailed = 0 ∧
          r.counts.feedbackSuppressed = 0
  | some k =>
      ∃ c, r.feedback = some c ∧
        c.Asks k enabled gaps r.counts.feedbackSent
          r.counts.feedbackFailed r.counts.feedbackSuppressed

section Report

variable {sink : Option (FeedbackSink φ)} {enabled : Bool}
variable {gaps : Nat} {r : Receiver σ φ}

/- Noting the number of a frame reports nothing. -/
theorem Reports.observe
    (hReports : r.Reports sink enabled gaps)
    (frameId : UInt32) :
    (r.observe frameId).Reports sink enabled gaps := by
  cases sink with
  | none =>
      rcases hReports with ⟨hNone, hCounts⟩
      refine ⟨?_, hCounts⟩
      simp [Receiver.observe, hNone]
  | some k =>
      rcases hReports with ⟨c, hSome, hAsks⟩
      refine ⟨c.observe frameId, ?_, hAsks.observe frameId⟩
      simp [Receiver.observe, hSome]

/- One more gap is reported. -/
theorem Reports.handleGap
    (hReports : r.Reports sink enabled gaps)
    (now : Nat) :
    (r.handleGap now).Reports sink enabled (gaps + 1) := by
  cases sink with
  | none =>
      have hSame : r.handleGap now = r := by
        simp [Receiver.handleGap, hReports.1]
      rw [hSame]
      exact hReports
  | some k =>
      rcases hReports with ⟨c, hSome, hAsks⟩
      have hReacts := c.reacts now
      have hAfter :
          r.handleGap now =
            { r with
              feedback := some (c.onGap now).2
              counts :=
                countGap r.counts (c.onGap now).1 } := by
        simp [Receiver.handleGap, hSome]
      rw [hAfter]
      refine ⟨(c.onGap now).2, rfl, ?_⟩
      generalize c.onGap now = p at hReacts ⊢
      cases hReacts with
      | disabled hOff hEnabled =>
          exact hAsks.of_disabled hOff hEnabled
      | suppressed hOn hEnabled =>
          exact hAsks.of_suppressed hOn hEnabled
      | @asked outcome _ taken _ hOn hEnabled hRequest
          hOutcome =>
          rw [hOutcome]
          have hAfter :=
            hAsks.of_request hOn hEnabled hRequest
          cases taken <;> exact hAfter

end Report

end Receiver

------------------------------------------------------------
-- The Service
------------------------------------------------------------

/- A dispatcher that has nothing to do and takes requests. -/
structure Dispatcher.IsReady
    (d : Dispatcher) : Prop where
  isOpen_eq : d.isOpen = true
  worker_eq : d.worker = .idle

namespace ServiceFeedback

variable (client : ControlClient) (device : String)
variable (timeout : Duration)

/-
  A request to a ready dispatcher is taken, and delivered or
  not.  The dispatcher is ready again after it.
-/
theorem request_of_isReady
    {s : ServiceFeedback}
    (hReady : s.dispatcher.IsReady) :
    let p := request client device timeout s
    p.1 = true ∧ p.2.dispatcher.IsReady ∧
      p.2.dispatcher.delivered + p.2.dispatcher.failed =
        s.dispatcher.delivered + s.dispatcher.failed + 1 := by
  rcases hReady with ⟨hOpen, hIdle⟩
  have hTaken :
      s.dispatcher.request =
        (.accepted, { s.dispatcher with queued := true }) := by
    simp [Dispatcher.request, hOpen, hIdle]
  unfold request
  rw [hTaken]
  dsimp only
  split
  · refine ⟨rfl, ?_, ?_⟩
    · constructor <;>
        simp [Dispatcher.receive, Dispatcher.finish, hOpen,
          hIdle]
    · simp [Dispatcher.receive, Dispatcher.finish, hIdle]
      omega
  · refine ⟨rfl, ?_, ?_⟩
    · constructor <;>
        simp [Dispatcher.receive, Dispatcher.finish, hOpen,
          hIdle]
    · simp [Dispatcher.receive, Dispatcher.finish, hIdle]
      omega

variable (network : Network)

/-
  However often the service is asked, each request is taken
  and delivered or not.
-/
theorem isReady_stateAfter
    (n : Nat) :
    let d :=
      ((sink client device timeout network).stateAfter
        n).dispatcher
    d.IsReady ∧ d.delivered + d.failed = n := by
  induction n with
  | zero => exact ⟨⟨rfl, rfl⟩, rfl⟩
  | succ n ih =>
      rcases request_of_isReady client device timeout ih.1
        with ⟨-, hReady, hCount⟩
      rw [FeedbackSink.stateAfter_succ]
      exact ⟨hReady, hCount.trans (by rw [ih.2])⟩

/- The service takes every request. -/
theorem answers_sink
    (n : Nat) :
    (sink client device timeout network).answers n =
      List.replicate n true := by
  induction n with
  | zero => rfl
  | succ n ih =>
      have hReady :=
        (isReady_stateAfter client device timeout network
          n).1
      have hTaken :=
        (request_of_isReady client device timeout hReady).1
      rw [FeedbackSink.answers_succ, ih,
        List.replicate_succ']
      exact congrArg (List.replicate n true ++ [·]) hTaken

end ServiceFeedback

end Reframe
