import Reframe.FrameError
import Reframe.Sequence
import Reframe.Reassembler.Assembly

/-
  This file defines the reassembly of frames from fragments.

  At most one frame is under assembly.  A fragment of a
  newer frame retires it, complete or not, and fragments of
  frames that were retired are dropped.

  Key definitions include:
    * `ReassemblerConfig`
    * `CompletedFrame`
    * `Ingest`
    * `ReassemblyStats`
    * `Reassembler`
    * `Reassembler.fault?`
    * `Reassembler.push`
    * `Reassembler.recordMalformed`
    * `Reassembler.reset`
-/

namespace Reframe

------------------------------------------------------------
-- Configuration
------------------------------------------------------------

/-
  The largest frame that is assembled, in bytes, and how far
  back a frame number is taken for a restart of the sender.
  Without a restart window nothing is.
-/
structure ReassemblerConfig where
  maxFrameSize : Nat := 16777216
  restartWindow : Option UInt32 := some 1024
deriving DecidableEq, Repr

------------------------------------------------------------
-- Results
------------------------------------------------------------

structure CompletedFrame where
  frameId : UInt32
  data : Bytes
deriving DecidableEq, Repr

/-
  What one fragment brought about: the frame it completed,
  the frame it started, the frame that was retired without
  being complete, the gap it revealed, and whether it was
  dropped because its frame had been retired.
-/
structure Ingest where
  completed : Option CompletedFrame := none
  started : Option UInt32 := none
  abandoned : Option UInt32 := none
  gap : Option SequenceGap := none
  stale : Bool := false
deriving DecidableEq, Repr

/-
  Counts over the life of a reassembler: fragments taken in,
  frames completed and abandoned, gaps and the frames missing
  in them, fragments dropped as stale and as malformed.

  A single gap may add up to half a lap of frame numbers, so
  the count of missing frames is a word that wraps.  All
  other counts go up by one at a time.
-/
structure ReassemblyStats where
  fragments : Nat := 0
  completed : Nat := 0
  abandoned : Nat := 0
  gaps : Nat := 0
  missing : UInt64 := 0
  stale : Nat := 0
  malformed : Nat := 0
deriving DecidableEq, Repr

def ReassemblyStats.missingFrames
    (s : ReassemblyStats) : Nat :=
  s.missing.toNat

------------------------------------------------------------
-- Reassemblers
------------------------------------------------------------

/-
  A reassembler: the frame under assembly, the frame started
  last, and the counts.
-/
structure Reassembler where
  config : ReassemblerConfig := {}
  live : Option Assembly := none
  lastStarted : Option UInt32 := none
  stats : ReassemblyStats := {}
deriving DecidableEq, Repr

namespace Reassembler

def liveFrameId
    (r : Reassembler) : Option UInt32 :=
  r.live.map Assembly.frameId

def IsIdle
    (r : Reassembler) : Prop :=
  r.live = none

instance
    (r : Reassembler) :
    Decidable r.IsIdle := by
  unfold IsIdle
  infer_instance

def positionOf
    (r : Reassembler)
    (frameId : UInt32) : Position :=
  Position.of r.config.restartWindow r.lastStarted frameId

------------------------------------------------------------
-- Validation
------------------------------------------------------------

/-
  What is wrong with a fragment, in itself or beside the
  frame under assembly.
-/
def fault?
    (r : Reassembler)
    (f : Fragment) : Option FrameError :=
  if f.count = 0 then some .emptyFrame
  else if f.count ≤ f.index then
    some (.indexOutOfRange f.index f.count)
  else
    match r.live with
    | none => none
    | some a =>
        if a.frameId = f.frameId ∧ a.count ≠ f.count.toNat
        then
          some (.countMismatch a.frameId
            (UInt16.ofNat a.count) f.count)
        else none

------------------------------------------------------------
-- Taking Fragments In
------------------------------------------------------------

def recordMalformed
    (r : Reassembler) : Reassembler :=
  { r with
    stats :=
      { r.stats with malformed := r.stats.malformed + 1 } }

/- Count a fragment of a frame that was retired. -/
def recordStale
    (r : Reassembler) : Reassembler :=
  { r with
    stats := { r.stats with stale := r.stats.stale + 1 } }

def recordGap
    (r : Reassembler)
    (missing : UInt32) : Reassembler :=
  { r with
    stats :=
      { r.stats with
        gaps := r.stats.gaps + 1
        missing := r.stats.missing + missing.toUInt64 } }

def retireLive
    (r : Reassembler) : Reassembler :=
  match r.live with
  | none => r
  | some _ =>
      { r with
        live := none
        stats :=
          { r.stats with
            abandoned := r.stats.abandoned + 1 } }

/- The gap in front of a frame that is about to start. -/
def gapBefore
    (r : Reassembler)
    (frameId : UInt32) : Option SequenceGap :=
  match r.positionOf frameId, r.lastStarted with
  | .ahead missing, some previous =>
      if 0 < missing then some ⟨previous, frameId⟩
      else none
  | _, _ => none

/-
  Put the payload of a fragment into the assembly of its
  frame, and the assembly into a reassembler without one.
  A frame that grows too large is abandoned; one whose last
  fragment arrives is completed.
-/
def store
    (r : Reassembler)
    (a : Assembly)
    (f : Fragment)
    (ingest : Ingest) : Ingest × Reassembler :=
  let a := a.insert f.index f.payload
  let stats :=
    { r.stats with fragments := r.stats.fragments + 1 }
  if r.config.maxFrameSize < a.buffered then
    ({ ingest with abandoned := some a.frameId },
      { r with
        live := none
        stats :=
          { stats with abandoned := stats.abandoned + 1 } })
  else if a.IsComplete then
    ({ ingest with completed := some ⟨a.frameId, a.data⟩ },
      { r with
        live := none
        stats :=
          { stats with completed := stats.completed + 1 } })
  else
    (ingest, { r with live := some a, stats := stats })

/-
  Count the frames that are missing in front of a frame that
  is about to start, as its position tells them.
-/
def countMissing
    (r : Reassembler)
    (frameId : UInt32) : Reassembler :=
  match r.positionOf frameId with
  | .ahead missing =>
      if 0 < missing then r.recordGap missing else r
  | _ => r

/-
  Start the frame of a fragment in place of the frame under
  assembly.
-/
def start
    (r : Reassembler)
    (f : Fragment) : Ingest × Reassembler :=
  let ingest : Ingest :=
    { started := some f.frameId
      abandoned := r.liveFrameId
      gap := r.gapBefore f.frameId }
  store
    { (r.countMissing f.frameId).retireLive with
      lastStarted := some f.frameId }
    (Assembly.empty f.frameId f.count) f ingest

/- Take in a fragment whose frame is not under assembly. -/
def enter
    (r : Reassembler)
    (f : Fragment) : Ingest × Reassembler :=
  if r.positionOf f.frameId = .stale then
    ({ stale := true }, r.recordStale)
  else r.start f

def accept
    (r : Reassembler)
    (f : Fragment) : Ingest × Reassembler :=
  match r.live with
  | some a =>
      if a.frameId = f.frameId then
        store { r with live := none } a f {}
      else r.enter f
  | none => r.enter f

/-
  Take in a fragment.  A fragment with a fault is dropped
  and leaves the frame under assembly as it was.
-/
def push
    (r : Reassembler)
    (f : Fragment) :
    Except FrameError Ingest × Reassembler :=
  match r.fault? f with
  | some e => (.error e, r.recordMalformed)
  | none =>
      match r.accept f with
      | (ingest, after) => (.ok ingest, after)

/- Forget all frames.  The counts stay. -/
def reset
    (r : Reassembler) : Reassembler :=
  { r with live := none, lastStarted := none }

end Reassembler

end Reframe
