import Reframe.Fragment.Run
import Reframe.Proofs.Fragment.Split
import Mathlib.Data.List.Forall2
import Mathlib.Data.List.Induction

/-
  What a writer sends of a frame: the datagrams of a prefix
  of its fragments, and of all of them exactly if the frame
  does not fail.  The number of the writer moves on only
  then.

  Main declarations:
    * `Delivery.Sends`
    * `DatagramSink.exists_sends`
    * `FragmentWriter.Attempt`
    * `FragmentWriter.attempt`
    * `Sender.after_concat`
-/

namespace Reframe

------------------------------------------------------------
-- Deliveries
------------------------------------------------------------

namespace Delivery

/-
  The fragments whose datagrams were accepted: the first of
  those to be sent, and all of them if nothing failed.
-/
structure Sends
    (r : Delivery)
    (fs sent : List Fragment) : Prop where
  isPrefix : sent <+: fs
  encodes :
    List.Forall₂ (fun f d => f.encode [] = .ok d) sent
      r.datagrams
  failure_eq_none_iff : r.failure = none ↔ sent = fs

/- Once a frame has failed, nothing more of it is sent. -/
theorem Sends.next_of_failure
    {r : Delivery}
    {fs sent : List Fragment}
    (hSends : r.Sends fs sent)
    {e : FrameError}
    (hFailure : r.failure = some e)
    (f : Fragment) :
    (r.next f).Sends (fs ++ [f]) sent := by
  have hSame : r.next f = r := by
    simp [next, hFailure]
  have hShort := hSends.isPrefix.length_le
  rw [hSame]
  refine
    { isPrefix :=
        hSends.isPrefix.trans (List.prefix_append _ _)
      encodes := hSends.encodes
      failure_eq_none_iff := ?_ }
  rw [hFailure]
  constructor
  · intro hNone
    cases hNone
  · intro hAll
    rw [hAll, List.length_append, List.length_singleton]
      at hShort
    omega

/-
  The next fragment of a frame that has not failed is sent
  too, or fails it.
-/
theorem Sends.next_of_ok
    {r : Delivery}
    {fs : List Fragment}
    (hSends : r.Sends fs fs)
    (f : Fragment) :
    ∃ sent, (r.next f).Sends (fs ++ [f]) sent := by
  have hNone := hSends.failure_eq_none_iff.mpr rfl
  have hStops :
      ∀ s : Delivery,
        s.accepted = r.accepted → s.failure ≠ none →
          s.Sends (fs ++ [f]) fs := by
    intro s hSame hFails
    refine
      { isPrefix := List.prefix_append _ _
        encodes := ?_
        failure_eq_none_iff := ?_ }
    · rw [datagrams, hSame]
      exact hSends.encodes
    · simp [hFails]
  cases hEncode : f.encode [] with
  | error e =>
      refine ⟨fs, hStops _ ?_ ?_⟩ <;>
        simp [next, hNone, hEncode]
  | ok datagram =>
      cases hOffer :
          (DatagramSink.offer r.sink.limit datagram
            r.sink.results).failure with
      | some e =>
          refine ⟨fs, hStops _ ?_ ?_⟩ <;>
            simp [next, hNone, hEncode, hOffer]
      | none =>
          refine ⟨fs ++ [f], List.prefix_rfl, ?_, ?_⟩
          · simp only [next, hNone, hEncode, hOffer,
              datagrams, List.reverse_cons]
            exact
              List.rel_append hSends.encodes
                (.cons hEncode .nil)
          · simp [next, hNone, hEncode, hOffer]

end Delivery

/- A delivery sends a prefix of the fragments. -/
theorem DatagramSink.exists_sends
    (sink : DatagramSink)
    (fs : List Fragment) :
    ∃ sent, (sink.deliver fs).Sends fs sent := by
  induction fs using List.reverseRecOn with
  | nil =>
      refine ⟨[], List.prefix_rfl, ?_, ?_⟩
      · exact .nil
      · simp [deliver]
  | append_singleton fs f ih =>
      rcases ih with ⟨sent, hSends⟩
      have hNext :
          sink.deliver (fs ++ [f]) =
            (sink.deliver fs).next f := by
        simp [deliver]
      rw [hNext]
      cases hFailure : (sink.deliver fs).failure with
      | some e =>
          exact ⟨sent, hSends.next_of_failure hFailure f⟩
      | none =>
          have hAll :=
            hSends.failure_eq_none_iff.mp hFailure
          subst hAll
          exact hSends.next_of_ok f

------------------------------------------------------------
-- Frames
------------------------------------------------------------

namespace FragmentWriter

/- What can come of a frame that is sent. -/
inductive Attempt
    (w : FragmentWriter)
    (data : Bytes)
    (s : Sending) : Prop where
/- The frame cannot be cut, and nothing is sent. -/
| unsplit
    (e : FrameError)
    (hResult : s.result = .error e)
    (hNothing : s.delivery.datagrams = [])
    (hWriter : s.writer = w)
/- Some but not all of its fragments are sent. -/
| failed
    (e : FrameError)
    (fs sent : List Fragment)
    (hSplit :
      Fragment.split w.nextFrameId data w.mtu = .ok fs)
    (hPrefix : sent <+: fs)
    (hPart : sent ≠ fs)
    (hEncodes :
      List.Forall₂ (fun f d => f.encode [] = .ok d) sent
        s.delivery.datagrams)
    (hResult : s.result = .error e)
    (hWriter : s.writer = w)
/- All of its fragments are sent. -/
| sent
    (fs : List Fragment)
    (hSplit :
      Fragment.split w.nextFrameId data w.mtu = .ok fs)
    (hEncodes :
      List.Forall₂ (fun f d => f.encode [] = .ok d) fs
        s.delivery.datagrams)
    (hResult : s.result = .ok w.nextFrameId)
    (hWriter :
      s.writer =
        { w with nextFrameId := w.nextFrameId + 1 })

/- A frame that is sent ends in one of these ways. -/
theorem attempt
    (w : FragmentWriter)
    (data : Bytes)
    (sink : DatagramSink) :
    w.Attempt data (w.send data sink) := by
  cases hSplit :
      Fragment.split w.nextFrameId data w.mtu with
  | error e =>
      apply Attempt.unsplit e <;>
        simp [send, sendWithId, hSplit, Delivery.datagrams]
  | ok fs =>
      rcases sink.exists_sends fs with ⟨sent, hSends⟩
      cases hFailure : (sink.deliver fs).failure with
      | some e =>
          have hPart : sent ≠ fs := by
            intro hAll
            rw [← hSends.failure_eq_none_iff, hFailure]
              at hAll
            cases hAll
          apply Attempt.failed e fs sent hSplit
            hSends.isPrefix hPart <;>
            simp [send, sendWithId, hSplit, hFailure,
              hSends.encodes]
      | none =>
          have hAll :=
            hSends.failure_eq_none_iff.mp hFailure
          rw [hAll] at hSends
          apply Attempt.sent fs hSplit <;>
            simp [send, sendWithId, hSplit, hFailure,
              hSends.encodes]

/- No frame changes the size of the slices. -/
theorem Attempt.mtu_eq
    {w : FragmentWriter}
    {data : Bytes}
    {s : Sending}
    (hAttempt : w.Attempt data s) :
    s.writer.mtu = w.mtu := by
  cases hAttempt with
  | unsplit _ _ _ hWriter => rw [hWriter]
  | failed _ _ _ _ _ _ _ _ hWriter => rw [hWriter]
  | sent _ _ _ _ hWriter => rw [hWriter]

end FragmentWriter

------------------------------------------------------------
-- Senders
------------------------------------------------------------

namespace Sender

/- The sender after frames and one more frame. -/
theorem after_concat
    (x : Sender)
    (frames : List Bytes)
    (data : Bytes) :
    x.after (frames ++ [data]) =
      ((x.after frames).send data).sender := by
  simp [after]

/- A run of one more frame ends with what came of it. -/
theorem run_concat
    (x : Sender)
    (frames : List Bytes)
    (data : Bytes) :
    x.run (frames ++ [data]) =
      x.run frames ++
        [(data, (x.after frames).send data)] := by
  induction frames generalizing x with
  | nil => rfl
  | cons first frames ih =>
      simp only [List.cons_append, run, ih]
      rfl

/- No frames change the size of the slices. -/
@[simp]
theorem mtu_after
    (x : Sender)
    (frames : List Bytes) :
    (x.after frames).writer.mtu = x.writer.mtu := by
  induction frames using List.reverseRecOn with
  | nil => rfl
  | append_singleton frames data ih =>
      rw [after_concat, ← ih]
      exact
        ((x.after frames).writer.attempt data
          (x.after frames).sink).mtu_eq

end Sender

end Reframe
