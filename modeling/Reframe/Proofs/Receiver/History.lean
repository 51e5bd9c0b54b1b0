import Reframe.Proofs.Image.Decoder
import Reframe.Proofs.Reassembler.Counts
import Reframe.Proofs.Receiver.Requests

/-
  What a receiver is after a run: the reassembler after the
  datagrams that its loop takes in, the decoder after the
  frames that were completed, and the pictures of these
  frames in the slot.

  Main declarations:
    * `Receiver.Decodes`
    * `Receiver.takenIn`
    * `Receiver.take_eq`
    * `Receiver.arrived`
    * `Receiver.Tracks`
    * `Receiver.IsAtStage`
    * `Receiver.tracks_after`
-/

namespace Reframe

namespace Receiver

variable {σ φ : Type}

------------------------------------------------------------
-- Decoding
------------------------------------------------------------

/- The frames that were decoded, and what came of them. -/
structure Decodes
    (decoder : Decoder σ)
    (frames : List Bytes)
    (r : Receiver σ φ) : Prop where
  decoder_eq : r.decoder = decoder.after frames
  decoded_eq :
    r.counts.decoded =
      (decoder.results frames).countP Except.isOk
  decodeFailures_eq :
    r.counts.decodeFailures =
      (decoder.results frames).countP (fun x => !x.isOk)
  latest_eq : r.latest = .ofImages (decoder.images frames)
  published_eq :
    r.counts.published = (decoder.images frames).length

/- Pictures are published one after the other. -/
theorem foldl_publish
    (r : Receiver σ φ)
    (images : List Image) :
    images.foldl publish r =
      { r with
        latest := images.foldl LatestImage.publish r.latest
        counts :=
          { r.counts with
            published :=
              r.counts.published + images.length } } := by
  induction images generalizing r with
  | nil => rfl
  | cons image images ih =>
      rw [List.foldl_cons, ih]
      simp only [publish, List.foldl_cons, List.length_cons,
        Nat.add_assoc, Nat.add_comm 1]

/- A frame is decoded, and its pictures are published. -/
theorem handleFrame_eq
    (r : Receiver σ φ)
    (data : Bytes) :
    let result := (r.decoder.decode data).1
    let images := Decoder.pictures result
    r.handleFrame data =
      { r with
        decoder := (r.decoder.decode data).2
        latest := images.foldl LatestImage.publish r.latest
        counts :=
          { r.counts with
            decoded := r.counts.decoded + result.isOk.toNat
            decodeFailures :=
              r.counts.decodeFailures + (!result.isOk).toNat
            published :=
              r.counts.published + images.length } } := by
  intro result images
  unfold handleFrame
  split
  · rename_i images' decoder hDecode
    rw [foldl_publish]
    simp [images, result, hDecode, Decoder.pictures,
      Except.isOk, Except.toBool]
  · rename_i cause decoder hDecode
    simp [images, result, hDecode, Decoder.pictures,
      Except.isOk, Except.toBool]

section Handle

variable {decoder : Decoder σ} {frames : List Bytes}
variable {sink : Option (FeedbackSink φ)} {enabled : Bool}
variable {gaps : Nat} {r : Receiver σ φ}

/- One more frame is decoded. -/
theorem Decodes.handleFrame
    (hDecodes : r.Decodes decoder frames)
    (data : Bytes) :
    (r.handleFrame data).Decodes decoder
      (frames ++ [data]) := by
  have hResults :
      decoder.results (frames ++ [data]) =
        decoder.results frames ++
          [(r.decoder.decode data).1] := by
    rw [Decoder.results_append, hDecodes.decoder_eq]
    rfl
  have hImages :
      decoder.images (frames ++ [data]) =
        decoder.images frames ++
          Decoder.pictures (r.decoder.decode data).1 := by
    rw [Decoder.images_concat, hDecodes.decoder_eq]
  rw [handleFrame_eq]
  refine
    { decoder_eq := ?_
      decoded_eq := ?_
      decodeFailures_eq := ?_
      latest_eq := ?_
      published_eq := ?_ }
  · rw [Decoder.after_append, ← hDecodes.decoder_eq]
    rfl
  · rw [hResults, List.countP_append, ← hDecodes.decoded_eq]
    cases (r.decoder.decode data).1 <;> rfl
  · rw [hResults, List.countP_append,
      ← hDecodes.decodeFailures_eq]
    cases (r.decoder.decode data).1 <;> rfl
  · dsimp only
    rw [hImages, ← LatestImage.publish_ofImages,
      hDecodes.latest_eq]
  · rw [hImages, List.length_append,
      ← hDecodes.published_eq]

/- A gap changes nothing about frames. -/
theorem Decodes.handleGap
    (hDecodes : r.Decodes decoder frames)
    (now : Nat) :
    (r.handleGap now).Decodes decoder frames := by
  unfold Receiver.handleGap
  split
  · exact hDecodes
  · rename_i c _
    rcases hDecodes with
      ⟨hDecoder, hDecoded, hFailures, hLatest, hPublished⟩
    dsimp only
    cases (c.onGap now).1 <;>
      exact
        ⟨hDecoder, hDecoded, hFailures, hLatest, hPublished⟩

/- A frame changes nothing about gaps. -/
theorem Reports.handleFrame
    (hReports : r.Reports sink enabled gaps)
    (data : Bytes) :
    (r.handleFrame data).Reports sink enabled gaps := by
  rw [handleFrame_eq]
  exact hReports

/- What a fragment brought about is decoded. -/
theorem Decodes.handleIngest
    (hDecodes : r.Decodes decoder frames)
    (ingest : Ingest)
    (now : Nat) :
    (r.handleIngest ingest now).Decodes decoder
      (frames ++
        ingest.completed.toList.map CompletedFrame.data) := by
  rcases ingest with ⟨_ | frame, _, _, _ | gap, _⟩
  · rw [Option.toList_none, List.map_nil, List.append_nil]
    exact hDecodes
  · rw [Option.toList_none, List.map_nil, List.append_nil]
    exact hDecodes.handleGap now
  · exact hDecodes.handleFrame frame.data
  · exact (hDecodes.handleGap now).handleFrame frame.data

/- The gap that a fragment revealed is reported. -/
theorem Reports.handleIngest
    (hReports : r.Reports sink enabled gaps)
    (ingest : Ingest)
    (now : Nat) :
    (r.handleIngest ingest now).Reports sink enabled
      (gaps + ingest.gap.toList.length) := by
  rcases ingest with ⟨_ | frame, _, _, _ | gap, _⟩
  · exact hReports
  · exact hReports.handleGap now
  · exact hReports.handleFrame frame.data
  · exact (hReports.handleGap now).handleFrame frame.data

end Handle

------------------------------------------------------------
-- Datagrams
------------------------------------------------------------

/-
  Two receivers that have taken in the same datagrams and
  count no delivery differently.
-/
structure SameIntake
    (r s : Receiver σ φ) : Prop where
  reassembler_eq : s.reassembler = r.reassembler
  loop_eq : s.loop = r.loop
  datagrams_eq : s.counts.datagrams = r.counts.datagrams
  delivered_eq :
    s.counts.feedbackDelivered = r.counts.feedbackDelivered
  undelivered_eq :
    s.counts.feedbackUndelivered =
      r.counts.feedbackUndelivered

/- A gap takes in nothing further. -/
theorem sameIntake_handleGap
    (r : Receiver σ φ)
    (now : Nat) :
    r.SameIntake (r.handleGap now) := by
  unfold handleGap
  split
  · constructor <;> rfl
  · rename_i c _
    dsimp only
    cases (c.onGap now).1 <;> constructor <;> rfl

/- A frame takes in nothing further. -/
theorem SameIntake.handleFrame
    {r s : Receiver σ φ}
    (hSame : r.SameIntake s)
    (data : Bytes) :
    r.SameIntake (s.handleFrame data) := by
  rw [handleFrame_eq]
  exact
    ⟨hSame.reassembler_eq, hSame.loop_eq,
      hSame.datagrams_eq, hSame.delivered_eq,
      hSame.undelivered_eq⟩

/- Acting on a fragment takes in nothing further. -/
theorem sameIntake_handleIngest
    (r : Receiver σ φ)
    (ingest : Ingest)
    (now : Nat) :
    r.SameIntake (r.handleIngest ingest now) := by
  have hSelf : r.SameIntake r := by
    constructor <;> rfl
  rcases ingest with ⟨_ | frame, _, _, _ | gap, _⟩
  · exact hSelf
  · exact r.sameIntake_handleGap now
  · exact hSelf.handleFrame frame.data
  · exact (r.sameIntake_handleGap now).handleFrame frame.data

/-
  A receiver that has counted a datagram, noted the number
  of its frame and given it to the reassembler.
-/
def takenIn
    (r : Receiver σ φ)
    (datagram : Bytes) : Receiver σ φ :=
  let counted :=
    match Fragment.decode datagram with
    | .error _ => r.countDatagram
    | .ok f => r.countDatagram.observe f.frameId
  { counted with
    reassembler :=
      (r.reassembler.step (.datagram datagram)).2 }

/- Taking a datagram in reports nothing yet. -/
theorem Reports.takenIn
    {sink : Option (FeedbackSink φ)}
    {enabled : Bool}
    {gaps : Nat}
    {r : Receiver σ φ}
    (hReports : r.Reports sink enabled gaps)
    (datagram : Bytes) :
    (r.takenIn datagram).Reports sink enabled gaps := by
  have hCounted :
      r.countDatagram.Reports sink enabled gaps := hReports
  unfold Receiver.takenIn
  dsimp only
  split
  · exact hCounted
  · exact hCounted.observe _

/- Taking a datagram in decodes nothing yet. -/
theorem Decodes.takenIn
    {decoder : Decoder σ}
    {frames : List Bytes}
    {r : Receiver σ φ}
    (hDecodes : r.Decodes decoder frames)
    (datagram : Bytes) :
    (r.takenIn datagram).Decodes decoder frames := by
  unfold Receiver.takenIn
  dsimp only
  split <;>
    exact
      ⟨hDecodes.decoder_eq, hDecodes.decoded_eq,
        hDecodes.decodeFailures_eq, hDecodes.latest_eq,
        hDecodes.published_eq⟩

/- A datagram that is taken in is counted as one. -/
theorem counts_takenIn
    (r : Receiver σ φ)
    (datagram : Bytes) :
    (r.takenIn datagram).counts =
      { r.counts with
        datagrams := r.counts.datagrams + 1 } := by
  unfold takenIn
  dsimp only
  split <;> rfl

/- Taking a datagram in leaves the loop as it is. -/
theorem loop_takenIn
    (r : Receiver σ φ)
    (datagram : Bytes) :
    (r.takenIn datagram).loop = r.loop := by
  unfold takenIn
  dsimp only
  split <;> rfl

/-
  A datagram is taken in, and what it brought about is acted
  on.
-/
theorem take_eq
    (r : Receiver σ φ)
    (datagram : Bytes)
    (now : Nat) :
    r.take datagram now =
      (r.takenIn datagram).handleIngest
        (r.reassembler.step (.datagram datagram)).1.ingest
        now := by
  unfold take takenIn
  dsimp only
  cases hDecode : Fragment.decode datagram with
  | error cause =>
      simp [Reassembler.step, hDecode,
        Reassembler.Answer.ingest, handleIngest,
        countDatagram]
  | ok f =>
      simp only [Reassembler.step, hDecode,
        Reassembler.stepFragment, takeFragment]
      cases hPush : r.reassembler.push f with
      | mk result after =>
          have hPush' :
              (r.countDatagram.observe
                  f.frameId).reassembler.push f =
                (result, after) := hPush
          rw [hPush']
          cases result with
          | error cause =>
              simp [Reassembler.Answer.ingest, handleIngest]
          | ok ingest => rfl

------------------------------------------------------------
-- Runs
------------------------------------------------------------

/-
  The datagram that a loop takes in after it was left to
  itself: the next one, unless its wait ends before that.
-/
def straggler
    (c : ReceiverConfig) : List Event → Option Bytes
| [] => none
| .datagram bytes _ :: _ => some bytes
| .silence waited :: es =>
    if c.receiveTimeout.nanos ≤ waited.nanos then none
    else straggler c es
| .fault :: _ => none
| .wait _ _ :: es => straggler c es
| .close _ :: es => straggler c es

/-
  The datagrams that a loop takes in: all until the first
  closing, and the straggler if the loop is left to itself.
-/
def arrived
    (c : ReceiverConfig) : List Event → List Bytes
| [] => []
| .datagram bytes _ :: es => bytes :: arrived c es
| .silence _ :: es => arrived c es
| .fault :: es => arrived c es
| .wait _ _ :: es => arrived c es
| .close left :: es =>
    if left.nanos ≤ c.closeTimeout.nanos then []
    else (straggler c es).toList

/- A run that goes on has the same straggler, if any. -/
theorem straggler_prefix
    (c : ReceiverConfig)
    (es es' : List Event) :
    (straggler c es).toList <+:
      (straggler c (es ++ es')).toList := by
  induction es with
  | nil => exact List.nil_prefix
  | cons e es ih =>
      cases e with
      | datagram bytes now => exact List.prefix_rfl
      | silence waited =>
          simp only [List.cons_append, straggler]
          split
          · exact List.nil_prefix
          · exact ih
      | fault => exact List.nil_prefix
      | wait seen limit => exact ih
      | close left => exact ih

/- A run that goes on takes in the same datagrams first. -/
theorem arrived_prefix
    (c : ReceiverConfig)
    (es es' : List Event) :
    arrived c es <+: arrived c (es ++ es') := by
  induction es with
  | nil => exact List.nil_prefix
  | cons e es ih =>
      cases e with
      | datagram bytes now =>
          exact (List.prefix_cons_inj bytes).mpr ih
      | silence waited => exact ih
      | fault => exact ih
      | wait seen limit => exact ih
      | close left =>
          simp only [List.cons_append, arrived]
          split
          · exact List.nil_prefix
          · exact straggler_prefix c es es'

/- The time that an event leaves the loop to look again. -/
def Event.left? : Event → Option Duration
| .close left => some left
| _ => none

/- The time left to the loop at the first closing, if any. -/
def closing?
    (es : List Event) : Option Duration :=
  es.findSome? Event.left?

theorem after_cons
    (r : Receiver σ φ)
    (e : Event)
    (es : List Event) :
    r.after (e :: es) = (r.step e).2.after es := rfl

theorem after_append
    (r : Receiver σ φ)
    (es es' : List Event) :
    r.after (es ++ es') = (r.after es).after es' := by
  simp [after]

/- A datagram leaves the loop as it is. -/
theorem loop_take
    (r : Receiver σ φ)
    (datagram : Bytes)
    (now : Nat) :
    (r.take datagram now).loop = r.loop := by
  rw [take_eq, (sameIntake_handleIngest _ _ _).loop_eq,
    loop_takenIn]

/- The reassembler of a new receiver. -/
def newReassembler
    (c : ReceiverConfig) : Reassembler where
  config := c.reassembler

/- The frames that datagrams complete, in order. -/
def frames
    (c : ReceiverConfig)
    (datagrams : List Bytes) : List Bytes :=
  (Reassembler.completions
    ((newReassembler c).run
      (datagrams.map .datagram))).map CompletedFrame.data

/- The frames of two parts of the datagrams. -/
theorem frames_append
    (c : ReceiverConfig)
    (datagrams datagrams' : List Bytes) :
    frames c (datagrams ++ datagrams') =
      frames c datagrams ++
        (Reassembler.completions
          (((newReassembler c).after
            (datagrams.map .datagram)).run
              (datagrams'.map .datagram))).map
          CompletedFrame.data := by
  unfold frames
  rw [List.map_append, Reassembler.run_append,
    Reassembler.completions_append, List.map_append]

/- One more datagram completes a frame or none. -/
theorem frames_concat
    (c : ReceiverConfig)
    (datagrams : List Bytes)
    (datagram : Bytes) :
    frames c (datagrams ++ [datagram]) =
      frames c datagrams ++
        (((newReassembler c).after
            (datagrams.map .datagram)).step
          (.datagram datagram)).1.ingest.completed.toList.map
          CompletedFrame.data := by
  rw [frames_append, List.map_singleton,
    Reassembler.completions_run_cons]
  simp [Reassembler.run, Reassembler.completions]

/-
  A receiver that was opened with a configuration, after
  datagrams arrived: what it has taken in, decoded and
  reported.
-/
structure Tracks
    (c : ReceiverConfig)
    (decoder : Decoder σ)
    (sink : Option (FeedbackSink φ))
    (datagrams : List Bytes)
    (r : Receiver σ φ) : Prop where
  reassembler_eq :
    r.reassembler =
      (newReassembler c).after (datagrams.map .datagram)
  datagrams_eq : r.counts.datagrams = datagrams.length
  decodes : r.Decodes decoder (frames c datagrams)
  reports :
    r.Reports sink (decide c.codec.UsesReferenceFrames)
      r.reassembler.stats.gaps
  delivered_eq : r.counts.feedbackDelivered = 0
  undelivered_eq : r.counts.feedbackUndelivered = 0

section Run

variable {c : ReceiverConfig} {decoder : Decoder σ}
variable {sink : Option (FeedbackSink φ)}
variable {datagrams : List Bytes} {r : Receiver σ φ}

/- Nothing has arrived at a new receiver. -/
theorem tracks_listen
    (c : ReceiverConfig)
    (decoder : Decoder σ)
    (sink : Option (FeedbackSink φ)) :
    Tracks c decoder sink [] (listen c decoder sink) := by
  refine ⟨rfl, rfl, ⟨rfl, rfl, rfl, rfl, rfl⟩, ?_, rfl, rfl⟩
  cases sink with
  | none => exact ⟨rfl, rfl, rfl, rfl⟩
  | some k =>
      exact
        ⟨_, rfl,
          FeedbackChannel.asks_forCodec c.codec c.cooldown k⟩

/- The loop has no part in what is tracked. -/
theorem Tracks.withLoop
    (hTracks : Tracks c decoder sink datagrams r)
    (loop : ReceiveLoop) :
    Tracks c decoder sink datagrams
      { r with loop := loop } :=
  ⟨hTracks.reassembler_eq, hTracks.datagrams_eq,
    ⟨hTracks.decodes.decoder_eq, hTracks.decodes.decoded_eq,
      hTracks.decodes.decodeFailures_eq,
      hTracks.decodes.latest_eq,
      hTracks.decodes.published_eq⟩,
    hTracks.reports, hTracks.delivered_eq,
    hTracks.undelivered_eq⟩

/- One more datagram is taken in. -/
theorem Tracks.take
    (hTracks : Tracks c decoder sink datagrams r)
    (datagram : Bytes)
    (now : Nat) :
    Tracks c decoder sink (datagrams ++ [datagram])
      (r.take datagram now) := by
  rcases hTracks with
    ⟨hReassembler, hDatagrams, hDecodes, hReports,
      hDelivered, hUndelivered⟩
  have hGaps :=
    (r.reassembler.tallies_step (.datagram datagram)).gaps_eq
  have hSame :=
    sameIntake_handleIngest (r.takenIn datagram)
      (r.reassembler.step (.datagram datagram)).1.ingest now
  have hCounts := r.counts_takenIn datagram
  have hTaken :
      (r.takenIn datagram).reassembler =
        (r.reassembler.step (.datagram datagram)).2 := rfl
  rw [take_eq]
  refine
    { reassembler_eq := ?_
      datagrams_eq := ?_
      decodes := ?_
      reports := ?_
      delivered_eq := ?_
      undelivered_eq := ?_ }
  · rw [hSame.reassembler_eq, hTaken, List.map_append,
      List.map_singleton, Reassembler.after_concat,
      ← hReassembler]
  · rw [hSame.datagrams_eq, hCounts, List.length_append,
      List.length_singleton, ← hDatagrams]
  · rw [frames_concat, ← hReassembler]
    exact (hDecodes.takenIn datagram).handleIngest _ now
  · rw [hSame.reassembler_eq, hTaken, hGaps]
    exact (hReports.takenIn datagram).handleIngest _ now
  · rw [hSame.delivered_eq, hCounts, ← hDelivered]
  · rw [hSame.undelivered_eq, hCounts, ← hUndelivered]

end Run

------------------------------------------------------------
-- Stages Of The Loop
------------------------------------------------------------

/-
  Where a loop stands by the time left to it at the first
  closing, if there was one.
-/
def IsAtStage
    (c : ReceiverConfig)
    (closed : Option Duration)
    (l : ReceiveLoop) : Prop :=
  match closed with
  | none => l = c.loop
  | some left =>
      (¬ left.nanos ≤ c.closeTimeout.nanos ∧
          l = c.loop.detached) ∨
        l = c.loop.stopped

section Stage

variable {c : ReceiverConfig} {decoder : Decoder σ}
variable {sink : Option (FeedbackSink φ)}
variable {datagrams : List Bytes} {r : Receiver σ φ}

/- Nothing happens to a receiver whose loop has ended. -/
theorem after_of_stopped
    {l : ReceiveLoop}
    (hLoop : r.loop = l.stopped)
    (es : List Event) :
    r.after es = r := by
  induction es with
  | nil => rfl
  | cons e es ih =>
      have hStep : (r.step e).2 = r := by
        cases e with
        | datagram bytes now =>
            rw [step, receive, hLoop]
            rfl
        | silence waited =>
            rw [step, hLoop, ReceiveLoop.silence_stopped,
              ← hLoop]
        | fault =>
            rw [step, hLoop, ReceiveLoop.look_stopped,
              ← hLoop]
        | wait seen limit => rfl
        | close left =>
            rw [step, close, hLoop,
              ReceiveLoop.close_stopped, ← hLoop]
      rw [after_cons, hStep, ih]

/- An open loop takes a datagram in and goes on. -/
theorem receive_of_open
    (hLoop : r.loop = c.loop)
    (bytes : Bytes)
    (now : Nat) :
    r.receive bytes now = r.take bytes now := by
  have hLook : (r.take bytes now).loop.look = r.loop := by
    rw [loop_take, hLoop]
    rfl
  rw [receive, if_neg (by simp [hLoop, ReceiverConfig.loop])]
  dsimp only
  rw [hLook, ← r.loop_take bytes now]

/- A loop left to itself takes a datagram in and ends. -/
theorem receive_of_detached
    (hLoop : r.loop = c.loop.detached)
    (bytes : Bytes)
    (now : Nat) :
    r.receive bytes now =
      { r.take bytes now with loop := c.loop.stopped } := by
  have hLook :
      (r.take bytes now).loop.look = c.loop.stopped := by
    rw [loop_take, hLoop, ReceiveLoop.look_detached]
  rw [receive, if_neg (by
    simp [hLoop, ReceiveLoop.detached, ReceiverConfig.loop])]
  dsimp only
  rw [hLook]

/- What a loop left to itself takes in, and how it ends. -/
theorem Tracks.after_of_detached
    (hTracks : Tracks c decoder sink datagrams r)
    (hLoop : r.loop = c.loop.detached)
    (es : List Event) :
    Tracks c decoder sink
        (datagrams ++ (straggler c es).toList)
        (r.after es) ∧
      ((r.after es).loop = c.loop.detached ∨
        (r.after es).loop = c.loop.stopped) := by
  -- A loop that looks takes in nothing from there on.
  have hLooks :
      ∀ es,
        let looked := { r with loop := r.loop.look }
        Tracks c decoder sink datagrams (looked.after es) ∧
          ((looked.after es).loop = c.loop.detached ∨
            (looked.after es).loop = c.loop.stopped) := by
    intro es looked
    have hStopped : looked.loop = c.loop.stopped := by
      simp [looked, hLoop]
    rw [after_of_stopped hStopped]
    exact ⟨hTracks.withLoop _, .inr hStopped⟩
  induction es with
  | nil =>
      rw [straggler, Option.toList_none, List.append_nil]
      exact ⟨hTracks, .inl hLoop⟩
  | cons e es ih =>
      rw [after_cons]
      cases e with
      | datagram bytes now =>
          rw [step, receive_of_detached hLoop,
            after_of_stopped rfl]
          exact
            ⟨(hTracks.take bytes now).withLoop _, .inr rfl⟩
      | silence waited =>
          have hSame :
              r.loop.silence waited =
                if c.receiveTimeout.nanos ≤ waited.nanos
                then r.loop.look
                else r.loop := by
            rw [hLoop]
            rfl
          rw [step, hSame, straggler]
          split
          · rw [Option.toList_none, List.append_nil]
            exact hLooks es
          · exact ih
      | fault =>
          rw [step, straggler, Option.toList_none,
            List.append_nil]
          exact hLooks es
      | wait seen limit => exact ih
      | close left =>
          have hSame : r.close left = r := by
            rw [close, hLoop, ReceiveLoop.close_detached,
              ← hLoop]
          rw [step, hSame]
          exact ih

/- What an open loop takes in, and how it ends. -/
theorem Tracks.after_of_open
    (hTracks : Tracks c decoder sink datagrams r)
    (hLoop : r.loop = c.loop)
    (es : List Event) :
    Tracks c decoder sink (datagrams ++ arrived c es)
        (r.after es) ∧
      IsAtStage c (closing? es) (r.after es).loop := by
  induction es generalizing r datagrams with
  | nil =>
      rw [arrived, List.append_nil]
      exact ⟨hTracks, hLoop⟩
  | cons e es ih =>
      rw [after_cons]
      cases e with
      | datagram bytes now =>
          rw [step, receive_of_open hLoop, arrived,
            List.append_cons]
          exact
            ih (hTracks.take bytes now)
              ((r.loop_take bytes now).trans hLoop)
      | silence waited =>
          have hSame : r.loop.silence waited = c.loop := by
            rw [hLoop, ReceiveLoop.silence]
            split <;> rfl
          exact ih (hTracks.withLoop _) hSame
      | fault =>
          have hSame : r.loop.look = c.loop := by
            rw [hLoop]
            rfl
          exact ih (hTracks.withLoop _) hSame
      | wait seen limit => exact ih hTracks hLoop
      | close left =>
          have hClosed := hTracks.withLoop (r.loop.close left)
          rw [arrived]
          split
          · rename_i hWaited
            have hStopped :
                (r.close left).loop = c.loop.stopped := by
              rw [close, hLoop]
              exact if_pos hWaited
            rw [step, after_of_stopped hStopped,
              List.append_nil]
            exact ⟨hClosed, .inr hStopped⟩
          · rename_i hLeft
            have hDetached :
                (r.close left).loop = c.loop.detached := by
              rw [close, hLoop]
              exact if_neg hLeft
            rcases hClosed.after_of_detached hDetached es with
              ⟨hAfter, hEnds⟩
            exact ⟨hAfter, hEnds.imp_left (⟨hLeft, ·⟩)⟩

end Stage

section Run

variable (c : ReceiverConfig) (decoder : Decoder σ)
variable (sink : Option (FeedbackSink φ)) (es : List Event)

/- What has happened to a receiver after a run. -/
theorem tracks_after :
    Tracks c decoder sink (arrived c es)
      ((listen c decoder sink).after es) :=
  ((tracks_listen c decoder sink).after_of_open rfl es).1

/- Where the loop of a receiver stands after a run. -/
theorem isAtStage_after :
    IsAtStage c (closing? es)
      ((listen c decoder sink).after es).loop :=
  ((tracks_listen c decoder sink).after_of_open rfl es).2

/- A receiver runs until it is closed. -/
theorem running_after :
    ((listen c decoder sink).after es).running = true ↔
      closing? es = none := by
  have hStage := isAtStage_after c decoder sink es
  rw [running]
  cases hClosing : closing? es with
  | none =>
      rw [hClosing] at hStage
      rw [hStage]
      simp [ReceiveLoop.running, ReceiverConfig.loop]
  | some left =>
      rw [hClosing] at hStage
      rcases hStage with ⟨-, hLoop⟩ | hLoop <;>
        rw [hLoop] <;>
        simp [ReceiveLoop.running, ReceiveLoop.detached,
          ReceiveLoop.stopped]

end Run

end Receiver

end Reframe
