import Reframe.Command.Send
import Reframe.Proofs.Fragment.Faults
import Reframe.Proofs.Reassembler.InOrder

/-
  What the command that sends files makes of them.

  Its run is the one of a sender that sends the frames, pass
  after pass, under consecutive numbers, and stops at the
  first one that fails.  As long as none fails, the report
  counts what was sent, and a fresh receiver completes the
  same frames under the same numbers.

  Main declarations:
    * `Sender.callsFrom`
    * `Sender.Succeeds`
    * `SendRun.HasSent`
    * `SendRun.hasSent_sendAll`
    * `SendRun.sendAll_of_error`
    * `Reassembler.Expects.run_of_succeeds`
    * `DatagramSink.AcceptsAll`
    * `Sender.succeeds_of_acceptsAll`
    * `SendRun.delivers_what_it_reports`
-/

namespace Reframe

------------------------------------------------------------
-- Calls Under Consecutive Numbers
------------------------------------------------------------

namespace Sender

/- Frames under the numbers from a first one on. -/
def callsFrom
    (start : UInt32)
    (frames : List Bytes) : List Call :=
  frames.mapIdx
    (fun i data =>
      { frameId := some (numberAt start i), data := data })

/-
  The datagrams that the sink is offered, call by call, once
  for each attempt.
-/
def offeredBy
    (x : Sender) : List Call → List Bytes
| [] => []
| c :: cs =>
    let s := x.call c
    s.delivery.offered.reverse ++ offeredBy s.sender cs

/- Every call succeeds, made after those in front of it. -/
def Succeeds
    (x : Sender) : List Call → Prop
| [] => True
| c :: cs =>
    let s := x.call c
    (∃ frameId, s.result = .ok frameId) ∧
      Succeeds s.sender cs

/- The first frame has the first number. -/
theorem callsFrom_cons
    (start : UInt32)
    (data : Bytes)
    (frames : List Bytes) :
    callsFrom start (data :: frames) =
      ⟨some start, data⟩ :: callsFrom (start + 1) frames :=
  mapIdx_numberAt_cons
    (fun frameId data => Call.mk (some frameId) data)
    start data frames

/- One more frame has the number after all others. -/
theorem callsFrom_concat
    (start : UInt32)
    (frames : List Bytes)
    (data : Bytes) :
    callsFrom start (frames ++ [data]) =
      callsFrom start frames ++
        [⟨some (numberAt start frames.length), data⟩] :=
  List.mapIdx_concat

section Append

variable (x : Sender) (cs cs' : List Call)

/- The sender after calls and more calls. -/
theorem afterCalls_append :
    x.afterCalls (cs ++ cs') =
      (x.afterCalls cs).afterCalls cs' := by
  rw [afterCalls, List.foldl_append]
  rfl

/- What is accepted in calls and in more calls. -/
theorem acceptedBy_append :
    x.acceptedBy (cs ++ cs') =
      x.acceptedBy cs ++
        (x.afterCalls cs).acceptedBy cs' := by
  induction cs generalizing x with
  | nil => rfl
  | cons c cs ih =>
      rw [List.cons_append, acceptedBy, acceptedBy, ih,
        List.append_assoc]
      rfl

/- What is offered in calls and in more calls. -/
theorem offeredBy_append :
    x.offeredBy (cs ++ cs') =
      x.offeredBy cs ++ (x.afterCalls cs).offeredBy cs' := by
  induction cs generalizing x with
  | nil => rfl
  | cons c cs ih =>
      rw [List.cons_append, offeredBy, offeredBy, ih,
        List.append_assoc]
      rfl

/- Calls and more calls succeed. -/
theorem succeeds_append :
    x.Succeeds (cs ++ cs') ↔
      x.Succeeds cs ∧ (x.afterCalls cs).Succeeds cs' := by
  induction cs generalizing x with
  | nil => simp [Succeeds, afterCalls]
  | cons c cs ih =>
      rw [List.cons_append, Succeeds, Succeeds, ih,
        and_assoc]
      rfl

end Append

/-
  A call that succeeds has sent all fragments of its frame
  under its number, and the writer goes on with the next
  number.
-/
theorem exists_fragments_of_ok
    {x : Sender}
    {c : Call}
    {frameId : UInt32}
    (hOk : (x.call c).result = .ok frameId) :
    frameId = x.numberOf c ∧
      (x.call c).writer.nextFrameId = frameId + 1 ∧
      ∃ fs,
        Fragment.split (x.numberOf c) c.data x.writer.mtu =
            .ok fs ∧
          List.Forall₂ (fun f d => f.encode [] = .ok d) fs
            (x.call c).delivery.datagrams := by
  cases hSplit :
      Fragment.split (x.numberOf c) c.data x.writer.mtu with
  | error e =>
      rw [call_of_unsplit hSplit] at hOk
      cases hOk
  | ok fs =>
      cases hFailure : (x.sink.deliver fs).failure with
      | some e =>
          rw [call_of_failure hSplit hFailure] at hOk
          cases hOk
      | none =>
          rw [call_of_none hSplit hFailure] at hOk ⊢
          have hNumber := Except.ok.inj hOk
          rcases x.sink.exists_sends fs with ⟨sent, hSends⟩
          have hEncodes := hSends.encodes
          rw [hSends.failure_eq_none_iff.mp hFailure]
            at hEncodes
          rw [← hNumber]
          exact ⟨rfl, rfl, fs, rfl, hEncodes⟩

end Sender

------------------------------------------------------------
-- The Run Of The Command
------------------------------------------------------------

/- The report on frames that were sent from a number on. -/
def SendReport.ofFrames
    (startId : UInt32)
    (frames : List Bytes) : SendReport where
  frames := frames.length
  bytes := (frames.map List.length).sum
  firstId := startId
  lastId := numberAt startId (frames.length - 1)

namespace SendRun

open Sender (callsFrom)

/-
  The run has sent these frames and no others: it stands
  where a sender stands that has sent them under consecutive
  numbers, and its report counts them.
-/
structure HasSent
    (r : SendRun)
    (x : Sender)
    (startId : UInt32)
    (frames : List Bytes) : Prop where
  failure_eq : r.failure = none
  sender_eq :
    ⟨r.writer, r.sink⟩ =
      x.afterCalls (callsFrom startId frames)
  nextId_eq : r.nextId = numberAt startId frames.length
  report_eq : r.report = .ofFrames startId frames
  offered_eq :
    r.offered.reverse =
      x.offeredBy (callsFrom startId frames)
  datagrams_eq :
    r.datagrams = x.acceptedBy (callsFrom startId frames)

section Step

variable {r : SendRun} {x : Sender} {startId : UInt32}
variable {frames : List Bytes}

/- The next frame is sent as the sender sends it. -/
theorem HasSent.sendWithId_eq
    (hSent : r.HasSent x startId frames)
    (data : Bytes) :
    r.writer.sendWithId r.nextId data r.sink =
      (x.afterCalls (callsFrom startId frames)).call
        ⟨some (numberAt startId frames.length), data⟩ := by
  rw [← hSent.sender_eq, hSent.nextId_eq]
  rfl

/- A frame that succeeds is sent, too, and reported. -/
theorem HasSent.sendOne_of_ok
    (hSent : r.HasSent x startId frames)
    {data : Bytes}
    {frameId : UInt32}
    (hOk :
      ((x.afterCalls (callsFrom startId frames)).call
          ⟨some (numberAt startId frames.length),
            data⟩).result =
        .ok frameId) :
    (r.sendOne data).HasSent x startId
      (frames ++ [data]) := by
  rcases Sender.exists_fragments_of_ok hOk with
    ⟨hNumber, hNext, -⟩
  have hCall := hSent.sendWithId_eq data
  rw [← hCall] at hOk hNext
  change frameId = numberAt startId frames.length at hNumber
  simp only [sendOne, hSent.failure_eq, hOk]
  refine
    { failure_eq := rfl
      sender_eq := ?_
      nextId_eq := ?_
      report_eq := ?_
      offered_eq := ?_
      datagrams_eq := ?_ }
  · rw [Sender.callsFrom_concat, Sender.afterCalls_append,
      hCall]
    rfl
  · rw [hNext, hNumber, List.length_append]
    exact numberAt_numberAt startId frames.length 1
  · rw [hSent.report_eq, hNumber]
    simp [SendReport.ofFrames]
  · rw [List.reverse_append, hSent.offered_eq,
      Sender.callsFrom_concat, Sender.offeredBy_append, hCall]
    simp [Sender.offeredBy]
  · rw [datagrams, List.reverse_append]
    change r.datagrams ++ _ = _
    rw [hSent.datagrams_eq, Sender.callsFrom_concat,
      Sender.acceptedBy_append, hCall]
    simp [Sender.acceptedBy, Delivery.datagrams]

/- A frame that fails ends the run behind its attempts. -/
theorem HasSent.sendOne_of_error
    (hSent : r.HasSent x startId frames)
    {data : Bytes}
    {e : FrameError}
    (hError :
      ((x.afterCalls (callsFrom startId frames)).call
          ⟨some (numberAt startId frames.length),
            data⟩).result =
        .error e) :
    (r.sendOne data).failure = some e ∧
      (r.sendOne data).offered.reverse =
        x.offeredBy (callsFrom startId (frames ++ [data])) := by
  have hCall := hSent.sendWithId_eq data
  rw [← hCall] at hError
  simp only [sendOne, hSent.failure_eq, hError]
  refine ⟨trivial, ?_⟩
  rw [List.reverse_append, hSent.offered_eq,
    Sender.callsFrom_concat, Sender.offeredBy_append, hCall]
  simp [Sender.offeredBy]

end Step

/- Frames after frames. -/
theorem sendAll_append
    (r : SendRun)
    (frames frames' : List Bytes) :
    r.sendAll (frames ++ frames') =
      (r.sendAll frames).sendAll frames' :=
  List.foldl_append

/- Once a frame has failed, nothing more is sent. -/
theorem sendAll_of_failure
    {r : SendRun}
    {e : FrameError}
    (hFailure : r.failure = some e)
    (frames : List Bytes) :
    r.sendAll frames = r := by
  induction frames with
  | nil => rfl
  | cons data frames ih =>
      have hSame : r.sendOne data = r := by
        simp [sendOne, hFailure]
      rw [sendAll, List.foldl_cons, hSame]
      exact ih

/- Passes are the frames sent as often in one list. -/
theorem sendPasses_eq
    (frames : List Bytes)
    (passes : Nat)
    (r : SendRun) :
    sendPasses frames passes r =
      r.sendAll (List.replicate passes frames).flatten := by
  induction passes generalizing r with
  | zero => rfl
  | succ n ih =>
      cases hFailure : r.failure with
      | some e =>
          rw [sendAll_of_failure hFailure]
          simp only [sendPasses, hFailure]
      | none =>
          rw [List.replicate_succ, List.flatten_cons,
            sendAll_append, ← ih]
          simp only [sendPasses, hFailure]

section Run

variable {x : Sender} {startId : UInt32}
variable {frames : List Bytes}

/- A run none of whose frames fails has sent them all. -/
theorem hasSent_sendAll
    (hAll : x.Succeeds (callsFrom startId frames)) :
    ((start x.writer x.sink startId).sendAll frames).HasSent
      x startId frames := by
  induction frames using List.reverseRecOn with
  | nil =>
      refine ⟨rfl, rfl, ?_, ?_, rfl, rfl⟩
      · exact (numberAt_zero startId).symm
      · simp [sendAll, start, SendReport.ofFrames,
          numberAt_zero]
  | append_singleton frames data ih =>
      rw [Sender.callsFrom_concat, Sender.succeeds_append]
        at hAll
      rcases hAll with ⟨hFront, ⟨frameId, hOk⟩, -⟩
      rw [sendAll_append]
      exact (ih hFront).sendOne_of_ok hOk

/-
  A run ends with the first frame that fails, behind the
  attempts for this frame, whatever was to be sent later.
-/
theorem sendAll_of_error
    (hFront : x.Succeeds (callsFrom startId frames))
    {data : Bytes}
    {e : FrameError}
    (hError :
      ((x.afterCalls (callsFrom startId frames)).call
          ⟨some (numberAt startId frames.length),
            data⟩).result =
        .error e)
    (later : List Bytes) :
    let r :=
      (start x.writer x.sink startId).sendAll
        (frames ++ data :: later)
    r.failure = some e ∧
      r.offered.reverse =
        x.offeredBy (callsFrom startId (frames ++ [data])) := by
  have hSent := hasSent_sendAll hFront
  rcases hSent.sendOne_of_error hError with
    ⟨hFailure, hOffered⟩
  have hRun :
      (start x.writer x.sink startId).sendAll
          (frames ++ data :: later) =
        ((start x.writer x.sink startId).sendAll
          frames).sendOne data := by
    rw [sendAll_append]
    exact sendAll_of_failure hFailure later
  rw [hRun]
  exact ⟨hFailure, hOffered⟩

end Run

end SendRun

------------------------------------------------------------
-- What A Receiver Makes Of It
------------------------------------------------------------

namespace Reassembler

open Sender (callsFrom)

/- The datagrams of a call arrive before those of others. -/
theorem run_acceptedBy_cons
    (r : Reassembler)
    (x : Sender)
    (c : Sender.Call)
    (cs : List Sender.Call) :
    r.run ((x.acceptedBy (c :: cs)).map .datagram) =
      r.run (x.call c).events ++
        (r.after (x.call c).events).run
          (((x.call c).sender.acceptedBy cs).map
            .datagram) := by
  rw [Sender.acceptedBy, List.map_append, run_append]
  rfl

/-
  A receiver that expects the first frame of a sender none
  of whose calls fails completes all of them, in order and
  under their numbers, and every answer is clean.
-/
theorem Expects.run_of_succeeds
    {r : Reassembler}
    {x : Sender}
    {start : UInt32}
    {frames : List Bytes}
    (hExpects : r.Expects start)
    (hAll : x.Succeeds (callsFrom start frames))
    (hSizes :
      ∀ data ∈ frames,
        data.length ≤ r.config.maxFrameSize) :
    let run :=
      r.run
        ((x.acceptedBy (callsFrom start frames)).map
          .datagram)
    completions run =
        frames.mapIdx
          (fun i data => ⟨numberAt start i, data⟩) ∧
      ∀ a ∈ run, a.1.IsClean := by
  intro run
  induction frames generalizing r x start with
  | nil =>
      refine ⟨rfl, ?_⟩
      simp [run, callsFrom, Sender.acceptedBy,
        Reassembler.run]
  | cons data frames ih =>
      rw [List.forall_mem_cons] at hSizes
      rw [Sender.callsFrom_cons] at hAll
      rcases hAll with ⟨⟨frameId, hOk⟩, hRest⟩
      rcases Sender.exists_fragments_of_ok hOk with
        ⟨-, -, fs, hSplit, hEncodes⟩
      rcases run_datagrams hEncodes r with ⟨hRun, hAfter⟩
      rcases hExpects.run_of_split hSplit hSizes.1 with
        ⟨hDone, hClean, hNext⟩
      rw [← hRun] at hDone hClean
      rw [← hAfter] at hNext
      rcases ih hNext hRest
          (by rw [config_after]; exact hSizes.2) with
        ⟨hAllDone, hAllClean⟩
      simp only [run]
      rw [Sender.callsFrom_cons, run_acceptedBy_cons,
        completions_append]
      refine ⟨?_, ?_⟩
      · rw [mapIdx_numberAt_cons CompletedFrame.mk]
        exact congrArg₂ (· ++ ·) hDone hAllDone
      · intro a hMember
        rcases List.mem_append.mp hMember with
          hHere | hLater
        · exact hClean a hHere
        · exact hAllClean a hLater

end Reassembler

------------------------------------------------------------
-- Sinks That Accept Everything
------------------------------------------------------------

namespace DatagramSink

/- No attempt to send any datagram fails. -/
def AcceptsAll
    (sink : DatagramSink) : Prop :=
  ∀ datagrams, ∀ a ∈ sink.attempts datagrams, a.2 = none

/- It accepts everything after some attempts, too. -/
theorem AcceptsAll.afterAttempts
    {sink : DatagramSink}
    (hAccepts : sink.AcceptsAll)
    (n : Nat) :
    (sink.afterAttempts n).AcceptsAll := by
  intro datagrams a hMember
  apply hAccepts (List.replicate n [] ++ datagrams)
  rw [attempts_append, List.length_replicate]
  exact List.mem_append_right _ hMember

/-
  A sink without a limit accepts everything if none of its
  coming attempts fails.
-/
theorem acceptsAll_of_results
    {sink : DatagramSink}
    (hResults : ∀ result ∈ sink.results, result = none)
    (hLimit : sink.limit = none) :
    sink.AcceptsAll := by
  intro datagrams
  induction datagrams generalizing sink with
  | nil => simp [attempts]
  | cons datagram datagrams ih =>
      have hHere : sink.outcome datagram = none := by
        rw [outcome]
        split
        · rw [hLimit]
          rfl
        · rename_i hAll
          exact hResults _ (by simp [hAll])
      rw [attempts, List.forall_mem_cons]
      refine ⟨hHere, ih ?_ hLimit⟩
      intro result hMember
      exact hResults result (List.mem_of_mem_drop hMember)

end DatagramSink

/-
  A frame within the limits can be cut, and its fragments
  fit their headers.
-/
theorem Fragment.exists_split
    (frameId : UInt32)
    {data : Bytes}
    {mtu : Nat}
    (hCount : data.length ≤ splitLimit mtu)
    (hLength : data.length ≤ payloadLimit) :
    ∃ fs,
      split frameId data mtu = .ok fs ∧
        ∀ f ∈ fs, f.payload.length ≤ payloadLimit := by
  have hFew :
      ¬ countLimit < sliceCount data.length mtu := by
    rw [countLimit_lt_iff]
    omega
  rw [split_eq, if_neg hFew]
  refine ⟨_, rfl, ?_⟩
  intro f hMember
  rcases List.mem_map.mp hMember with ⟨i, -, rfl⟩
  simp only [fragmentAt, List.length_take, List.length_drop]
  omega

/- A new writer can cut frames of that many slices. -/
theorem FragmentWriter.le_splitLimit_withMtu
    (mtu : Nat) :
    65535 * mtu ≤
      Fragment.splitLimit (withMtu mtu).mtu := by
  have hMtu :
      mtu ≤ Fragment.sliceSize (withMtu mtu).mtu := by
    simp only [withMtu, Fragment.sliceSize]
    omega
  exact Nat.mul_le_mul_left 65535 hMtu

namespace Sender

/-
  A frame within the limits succeeds over a sink that
  accepts everything, and leaves such a sink.
-/
theorem call_of_acceptsAll
    {x : Sender}
    (hAccepts : x.sink.AcceptsAll)
    (c : Call)
    (hCount :
      c.data.length ≤ Fragment.splitLimit x.writer.mtu)
    (hLength : c.data.length ≤ Fragment.payloadLimit) :
    (∃ frameId, (x.call c).result = .ok frameId) ∧
      (x.call c).sender.sink.AcceptsAll := by
  rcases Fragment.exists_split (x.numberOf c) hCount
      hLength with ⟨fs, hSplit, hFit⟩
  rcases x.sink.exists_follows hFit with
    ⟨sent, failure, hFollows⟩
  cases failure with
  | none =>
      rw [call_of_none hSplit hFollows.failure_eq]
      refine ⟨⟨_, rfl⟩, ?_⟩
      rw [Sending.sender, hFollows.sink_eq]
      exact hAccepts.afterAttempts _
  | some e =>
      rcases (hFollows.transmits.exists_last rfl).2 with
        ⟨datagram, hLast⟩
      have hNone :=
        hAccepts _ _ (List.mem_of_getLast? hLast)
      cases hNone

/-
  Frames within the limits all succeed over a sink that
  accepts everything.
-/
theorem succeeds_of_acceptsAll
    {x : Sender}
    {start : UInt32}
    {frames : List Bytes}
    (hAccepts : x.sink.AcceptsAll)
    (hLimits :
      ∀ data ∈ frames,
        data.length ≤ Fragment.splitLimit x.writer.mtu ∧
          data.length ≤ Fragment.payloadLimit) :
    x.Succeeds (callsFrom start frames) := by
  induction frames generalizing x start with
  | nil => trivial
  | cons data frames ih =>
      rw [List.forall_mem_cons] at hLimits
      rcases hLimits with ⟨⟨hCount, hLength⟩, hRest⟩
      rw [callsFrom_cons]
      rcases call_of_acceptsAll hAccepts
          ⟨some start, data⟩ hCount hLength with
        ⟨hOk, hStill⟩
      refine ⟨hOk, ih hStill ?_⟩
      rw [Sending.sender, mtu_call]
      exact hRest

end Sender

------------------------------------------------------------
-- What The Report Says
------------------------------------------------------------

/- The report on frames that were sent in passes. -/
theorem SendReport.ofFrames_passes
    (startId : UInt32)
    (frames : List Bytes)
    (passes : Nat) :
    let report :=
      ofFrames startId (List.replicate passes frames).flatten
    report.frames = passes * frames.length ∧
      report.bytes =
        passes * (frames.map List.length).sum ∧
      report.firstId = startId ∧
      (0 < report.frames →
        report.lastId.toNat =
          (startId.toNat + report.frames - 1) %
            4294967296) := by
  intro report
  refine ⟨?_, ?_, rfl, ?_⟩
  · simp [report, ofFrames]
  · simp [report, ofFrames, List.map_flatten,
      List.sum_flatten]
  · intro hSome
    have hLast :
        report.lastId =
          numberAt startId (report.frames - 1) := rfl
    rw [hLast, numberAt, UInt32.toNat_add,
      UInt32.toNat_ofNat']
    omega

namespace SendRun

open Sender (callsFrom)

/-
  Sending frames in passes is sending all of them, one after
  another.
-/
theorem sendFrames_eq
    (writer : FragmentWriter)
    (sink : DatagramSink)
    (frames : List Bytes)
    (startId : UInt32)
    (passes : Nat) :
    sendFrames writer sink frames startId passes =
      (start writer sink startId).sendAll
        (List.replicate passes frames).flatten :=
  sendPasses_eq frames passes _

/- The frames that are sent in passes are those given. -/
theorem mem_of_mem_passes
    {frames : List Bytes}
    {passes : Nat}
    {data : Bytes}
    (hMember :
      data ∈ (List.replicate passes frames).flatten) :
    data ∈ frames := by
  rcases List.mem_flatten.mp hMember with
    ⟨pass, hPass, hIn⟩
  rwa [List.eq_of_mem_replicate hPass] at hIn

/-
  Frames that can be cut, and whose lengths fit a header,
  are all sent in passes over a sink that accepts everything.
-/
theorem hasSent_sendFrames
    {mtu : Nat}
    {sink : DatagramSink}
    {frames : List Bytes}
    (hAccepts : sink.AcceptsAll)
    (hFits :
      ∀ data ∈ frames,
        data.length ≤ 65535 * mtu ∧
          data.length < 4294967296)
    (startId : UInt32)
    (passes : Nat) :
    let x : Sender := ⟨.withMtu mtu, sink⟩
    let sent := (List.replicate passes frames).flatten
    x.Succeeds (callsFrom startId sent) ∧
      (sendFrames (.withMtu mtu) sink frames startId
        passes).HasSent x startId sent := by
  intro x sent
  have hLimits :
      ∀ data ∈ sent,
        data.length ≤ Fragment.splitLimit x.writer.mtu ∧
          data.length ≤ Fragment.payloadLimit := by
    intro data hMember
    rcases hFits data (mem_of_mem_passes hMember) with
      ⟨hCut, hLength⟩
    have hLimit := FragmentWriter.le_splitLimit_withMtu mtu
    exact
      ⟨hCut.trans hLimit, Nat.le_of_lt_succ hLength⟩
  have hAll : x.Succeeds (callsFrom startId sent) :=
    Sender.succeeds_of_acceptsAll hAccepts hLimits
  rw [sendFrames_eq]
  exact ⟨hAll, hasSent_sendAll hAll⟩

/-
  Over a sink that accepts everything, a fresh receiver
  completes exactly the frames that were sent, in order and
  under consecutive numbers, and the report counts the same
  frames.  Over any sink, the first frame that fails ends
  the run, and there is no report.
-/
theorem delivers_what_it_reports
    (mtu : Nat)
    (frames : List Bytes)
    (startId : UInt32)
    (passes : Nat) :
    let sent := (List.replicate passes frames).flatten
    let runOver := fun sink =>
      sendFrames (.withMtu mtu) sink frames startId passes
    (∀ (sink : DatagramSink) (config : ReassemblerConfig),
      sink.AcceptsAll →
        (∀ data ∈ frames,
          data.length ≤ 65535 * mtu ∧
            data.length < 4294967296 ∧
            data.length ≤ config.maxFrameSize) →
          let r : Reassembler := { config := config }
          let datagrams := (runOver sink).datagrams
          let arrivals := datagrams.map .datagram
          Reassembler.completions (r.run arrivals) =
              sent.mapIdx
                (fun i data =>
                  ⟨numberAt startId i, data⟩) ∧
            (∀ a ∈ r.run arrivals, a.1.IsClean) ∧
            (r.after arrivals).stats =
              { fragments := datagrams.length
                completed := passes * frames.length } ∧
            ∃ report,
              (runOver sink).result = .ok report ∧
                report.frames = passes * frames.length ∧
                report.bytes =
                  passes * (frames.map List.length).sum ∧
                report.firstId = startId ∧
                (0 < report.frames →
                  report.lastId.toNat =
                    (startId.toNat + report.frames - 1) %
                      4294967296)) ∧
      ∀ (sink : DatagramSink) (front : List Bytes)
        (data : Bytes) (later : List Bytes)
        (e : FrameError),
        sent = front ++ data :: later →
          let x : Sender := ⟨.withMtu mtu, sink⟩
          x.Succeeds (callsFrom startId front) →
            ((x.afterCalls (callsFrom startId front)).call
                ⟨some (numberAt startId front.length),
                  data⟩).result =
              .error e →
              (runOver sink).result = .error e ∧
                (runOver sink).offered.reverse =
                  x.offeredBy
                    (callsFrom startId (front ++ [data])) := by
  intro sent runOver
  constructor
  · intro sink config hAccepts hFits r datagrams arrivals
    let x : Sender := ⟨.withMtu mtu, sink⟩
    have hBoth :
        x.Succeeds (callsFrom startId sent) ∧
          (runOver sink).HasSent x startId sent :=
      hasSent_sendFrames hAccepts
        (fun data hMember =>
          ⟨(hFits data hMember).1,
            (hFits data hMember).2.1⟩)
        startId passes
    rcases hBoth with ⟨hAll, hSent⟩
    rcases SendReport.ofFrames_passes startId frames passes
      with ⟨hCount, hBytes, hFirst, hLast⟩
    have hArrivals :
        arrivals =
          (x.acceptedBy (callsFrom startId sent)).map
            .datagram := by
      simp only [arrivals, datagrams, hSent.datagrams_eq]
    rcases (Reassembler.expects_fresh config
        startId).run_of_succeeds hAll
        (fun data hMember =>
          (hFits data
            (mem_of_mem_passes hMember)).2.2) with
      ⟨hDone, hClean⟩
    rw [← hArrivals] at hDone hClean
    have hStats := Reassembler.stats_after_of_isClean hClean
    refine ⟨hDone, hClean, ?_, ?_⟩
    · rw [hStats, hDone, List.length_mapIdx]
      simp [arrivals, sent]
    · refine ⟨(runOver sink).report, ?_, ?_⟩
      · simp [result, hSent.failure_eq]
      · rw [hSent.report_eq]
        exact ⟨hCount, hBytes, hFirst, hLast⟩
  · intro sink front data later e hSplit x hFront hError
    rcases sendAll_of_error hFront hError later with
      ⟨hFailure, hOffered⟩
    simp only [runOver, sendFrames_eq]
    change List.flatten _ = _ at hSplit
    rw [hSplit]
    refine ⟨?_, hOffered⟩
    rw [result, hFailure]

/-
  Two frames are sent twice across the wrap.  If the third
  of their datagrams is refused, the run ends with it.
-/
theorem delivers_what_it_reports_across_wrap :
    let frames : List Bytes := [[1, 2, 3], [4]]
    let runOver := fun sink =>
      sendFrames (.withMtu 2) sink frames 4294967295 2
    let config : ReassemblerConfig := { maxFrameSize := 3 }
    let r : Reassembler := { config := config }
    let refused : IoError := ⟨.connectionRefused, "refused"⟩
    let sink : DatagramSink :=
      { results := [none, none, some refused] }
    Reassembler.completions
          (r.run ((runOver {}).datagrams.map .datagram)) =
        [⟨4294967295, [1, 2, 3]⟩, ⟨0, [4]⟩,
          ⟨1, [1, 2, 3]⟩, ⟨2, [4]⟩] ∧
      (∃ report,
        (runOver {}).result = .ok report ∧
          report.frames = 4 ∧ report.bytes = 8 ∧
            report.firstId = 4294967295 ∧
              report.lastId.toNat = 2) ∧
      (runOver sink).result = .error (.io refused) ∧
      (runOver sink).offered.reverse =
        [Fragment.wire ⟨4294967295, 0, 2, [1, 2]⟩,
          Fragment.wire ⟨4294967295, 1, 2, [3]⟩,
          Fragment.wire ⟨0, 0, 1, [4]⟩] := by
  intro frames runOver config r refused sink
  rcases delivers_what_it_reports 2 frames 4294967295 2 with
    ⟨hSent, hStopped⟩
  have hAccepts : DatagramSink.AcceptsAll {} :=
    DatagramSink.acceptsAll_of_results (by simp) rfl
  rcases hSent {} config hAccepts (by decide) with
    ⟨hDone, -, -, report, hOk, hCount, hBytes, hFirst,
      hLast⟩
  rw [hCount] at hLast
  let x : Sender := ⟨.withMtu 2, sink⟩
  have hFront :
      x.Succeeds (callsFrom 4294967295 [[1, 2, 3]]) := by
    have hOk :
        (x.call ⟨some 4294967295, [1, 2, 3]⟩).result =
          .ok 4294967295 := by
      cbv
    exact ⟨⟨_, hOk⟩, trivial⟩
  have hRefused :
      ((x.afterCalls (callsFrom 4294967295 [[1, 2, 3]])).call
          ⟨some (numberAt 4294967295 1), [4]⟩).result =
        .error (.io refused) := by
    cbv
  rcases hStopped sink [[1, 2, 3]] [4] [[1, 2, 3], [4]]
      (.io refused) rfl hFront hRefused with
    ⟨hError, hOffered⟩
  refine ⟨hDone.trans (by decide), ?_, hError, ?_⟩
  · exact
      ⟨report, hOk, hCount, hBytes, hFirst,
        (hLast (by decide)).trans (by decide)⟩
  · refine hOffered.trans ?_
    cbv

end SendRun

end Reframe
