import Reframe.Json.Basic
import Reframe.Reassembler.Basic

/-
  This file defines the counts that receivers publish.

  Key definitions include:
    * `ReceiverStats`
    * `ReceiverStats.fields`
    * `ReceiverStats.ofCounts`
    * `ReceiverStats.json`
-/

namespace Reframe

/-
  Counts over the life of a receiver: datagrams; the counts
  of the reassembler; frames decoded and refused by the
  decoder; pictures published; and requests for reference
  frames, by what became of them.
-/
structure ReceiverStats where
  datagrams : Nat := 0
  fragments : Nat := 0
  completed : Nat := 0
  abandoned : Nat := 0
  gaps : Nat := 0
  missingFrames : Nat := 0
  stale : Nat := 0
  malformed : Nat := 0
  decoded : Nat := 0
  decodeFailures : Nat := 0
  published : Nat := 0
  feedbackSent : Nat := 0
  feedbackFailed : Nat := 0
  feedbackDelivered : Nat := 0
  feedbackUndelivered : Nat := 0
  feedbackSuppressed : Nat := 0
deriving DecidableEq, Repr

namespace ReceiverStats

/- Take over the counts of a reassembler. -/
def withReassembly
    (s : ReceiverStats)
    (r : ReassemblyStats) : ReceiverStats :=
  { s with
    fragments := r.fragments
    completed := r.completed
    abandoned := r.abandoned
    gaps := r.gaps
    missingFrames := r.missingFrames
    stale := r.stale
    malformed := r.malformed }

/- The counts by name, in order. -/
def fields
    (s : ReceiverStats) : List (String × Nat) :=
  [("datagrams", s.datagrams),
    ("fragments", s.fragments),
    ("completed", s.completed),
    ("abandoned", s.abandoned),
    ("gaps", s.gaps),
    ("missing_frames", s.missingFrames),
    ("stale", s.stale),
    ("malformed", s.malformed),
    ("decoded", s.decoded),
    ("decode_failures", s.decodeFailures),
    ("published", s.published),
    ("feedback_sent", s.feedbackSent),
    ("feedback_failed", s.feedbackFailed),
    ("feedback_delivered", s.feedbackDelivered),
    ("feedback_undelivered", s.feedbackUndelivered),
    ("feedback_suppressed", s.feedbackSuppressed)]

/- The counts with given values by name. -/
def ofCounts
    (count : String → Nat) : ReceiverStats where
  datagrams := count "datagrams"
  fragments := count "fragments"
  completed := count "completed"
  abandoned := count "abandoned"
  gaps := count "gaps"
  missingFrames := count "missing_frames"
  stale := count "stale"
  malformed := count "malformed"
  decoded := count "decoded"
  decodeFailures := count "decode_failures"
  published := count "published"
  feedbackSent := count "feedback_sent"
  feedbackFailed := count "feedback_failed"
  feedbackDelivered := count "feedback_delivered"
  feedbackUndelivered := count "feedback_undelivered"
  feedbackSuppressed := count "feedback_suppressed"

/- The counts as a JSON object. -/
def json
    (s : ReceiverStats) : Json :=
  .object (s.fields.map (fun f => (f.1, .ofNat f.2)))

end ReceiverStats

end Reframe
