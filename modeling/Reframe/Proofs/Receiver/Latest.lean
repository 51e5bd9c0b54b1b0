import Reframe.Proofs.Receiver.History

/-
  What a receiver hands out to those who wait: the newest
  picture, numbered by how many were published so far, to
  whoever has not seen it, and nothing else.  Once it was
  closed, nothing is added if its loop was waited for, and
  else no more than what one datagram brings.

  Main declarations:
    * `Receiver.published`
    * `Receiver.waitAmid`
    * `Receiver.polled`
    * `Receiver.HandsOutLatest`
    * `Receiver.hands_out_latest`
-/

namespace Reframe

namespace Receiver

variable {σ φ : Type}

------------------------------------------------------------
-- Pictures
------------------------------------------------------------

/-
  The pictures of a run, in order: those of the frames that
  the datagrams complete which the loop takes in.
-/
def published
    (c : ReceiverConfig)
    (decoder : Decoder σ)
    (es : List Event) : List Image :=
  decoder.images (frames c (arrived c es))

/- Pictures are added to those that were published. -/
theorem published_prefix
    (c : ReceiverConfig)
    (decoder : Decoder σ)
    (es es' : List Event) :
    published c decoder es <+:
      published c decoder (es ++ es') := by
  unfold published
  rcases arrived_prefix c es es' with ⟨more, hMore⟩
  rw [← hMore, frames_append, Decoder.images_append]
  exact List.prefix_append _ _

/- A picture and its number are the newest after a run. -/
def IsNewest
    (c : ReceiverConfig)
    (decoder : Decoder σ)
    (es : List Event)
    (p : Image × Nat) : Prop :=
  p.2 = (published c decoder es).length ∧
    (published c decoder es)[p.2 - 1]? = some p.1

/-
  A picture and its number are the newest after some of the
  rounds of events that follow on a run.
-/
def IsNewestDuring
    (c : ReceiverConfig)
    (decoder : Decoder σ)
    (es : List Event)
    (rounds : List (List Event))
    (p : Image × Nat) : Prop :=
  ∃ past, past <+: rounds ∧
    IsNewest c decoder (es ++ past.flatten) p

/- The first round may be counted as part of the run. -/
theorem IsNewestDuring.cons
    {c : ReceiverConfig}
    {decoder : Decoder σ}
    {es round : List Event}
    {rounds : List (List Event)}
    {p : Image × Nat}
    (hNewest :
      IsNewestDuring c decoder (es ++ round) rounds p) :
    IsNewestDuring c decoder es (round :: rounds) p := by
  rcases hNewest with ⟨past, hPast, hNewest⟩
  refine
    ⟨round :: past,
      (List.prefix_cons_inj round).mpr hPast, ?_⟩
  rw [List.flatten_cons, ← List.append_assoc]
  exact hNewest

/- What is newest now is so before any round. -/
theorem IsNewest.during
    {c : ReceiverConfig}
    {decoder : Decoder σ}
    {es : List Event}
    {p : Image × Nat}
    (hNewest : IsNewest c decoder es p)
    (rounds : List (List Event)) :
    IsNewestDuring c decoder es rounds p := by
  refine ⟨[], List.nil_prefix, ?_⟩
  rw [List.flatten_nil, List.append_nil]
  exact hNewest

/- The newest picture is in the slot. -/
theorem latest_after
    (c : ReceiverConfig)
    (decoder : Decoder σ)
    (sink : Option (FeedbackSink φ))
    (es : List Event) :
    ((listen c decoder sink).after es).latest =
      .ofImages (published c decoder es) :=
  (tracks_after c decoder sink es).decodes.latest_eq

------------------------------------------------------------
-- Waiting
------------------------------------------------------------

/-
  Wait while events happen.  Waiting ends as soon as it is
  answered, and when all events have happened at the latest.
-/
def waitAmid
    (r : Receiver σ φ)
    (seen : Nat)
    (limit : Duration) :
    List Event → Except ClientError (Image × Nat)
| [] => r.wait seen limit
| e :: es =>
    match r.wait seen limit with
    | .error (.timeout _) =>
        waitAmid (r.step e).2 seen limit es
    | answer => answer

/-
  What a consumer gets who waits after each of the rounds of
  events, with the number of the last picture it got.
-/
def polled
    (r : Receiver σ φ)
    (limit : Duration)
    (seen : Nat) :
    List (List Event) → List (Image × Nat)
| [] => []
| es :: rounds =>
    match (r.after es).wait seen limit with
    | .ok p => p :: polled (r.after es) limit p.2 rounds
    | .error _ => polled (r.after es) limit seen rounds

/-
  Waiting amid events is answered as at one of the moments
  between them, and times out only after all of them.
-/
theorem exists_wait_of_waitAmid
    (r : Receiver σ φ)
    (seen : Nat)
    (limit : Duration)
    (es : List Event) :
    ∃ es₁ es₂,
      es = es₁ ++ es₂ ∧
        r.waitAmid seen limit es =
            (r.after es₁).wait seen limit ∧
          ∀ limit',
            r.waitAmid seen limit es =
                .error (.timeout limit') →
              es₂ = [] := by
  induction es generalizing r with
  | nil => exact ⟨[], [], rfl, rfl, fun _ _ => rfl⟩
  | cons e es ih =>
      unfold waitAmid
      split
      · rcases ih (r.step e).2 with
          ⟨es₁, es₂, rfl, hAnswer, hEnd⟩
        exact ⟨e :: es₁, es₂, rfl, hAnswer, hEnd⟩
      · rename_i hAnswered
        refine ⟨[], e :: es, rfl, rfl, fun limit' hTimeout => ?_⟩
        exact absurd hTimeout (hAnswered limit')

/- A picture is handed out if it is newer. -/
theorem wait_eq_ok_iff
    (r : Receiver σ φ)
    (seen : Nat)
    (limit : Duration)
    (p : Image × Nat) :
    r.wait seen limit = .ok p ↔
      r.latest.newer? seen = some p := by
  unfold wait
  cases r.latest.newer? seen with
  | none => cases r.running <;> simp
  | some q => simp

section Wait

variable (c : ReceiverConfig) (decoder : Decoder σ)
variable (sink : Option (FeedbackSink φ))
variable (es : List Event) (seen : Nat) (limit : Duration)

/- The newest picture is handed out to whoever is behind. -/
theorem wait_eq_ok_after
    (p : Image × Nat) :
    ((listen c decoder sink).after es).wait seen limit =
        .ok p ↔
      seen < p.2 ∧ IsNewest c decoder es p := by
  rw [wait_eq_ok_iff, latest_after]
  exact
    LatestImage.newer?_ofImages_eq_some _ seen p.1 p.2

/- Whoever has seen all pictures gets none. -/
theorem wait_of_seen
    (hSeen : (published c decoder es).length ≤ seen) :
    ((listen c decoder sink).after es).wait seen limit =
      if closing? es = none then .error (.timeout limit)
      else .error .closed := by
  unfold wait
  rw [latest_after,
    (LatestImage.newer?_ofImages_eq_none _ _).mpr hSeen]
  exact if_congr (running_after c decoder sink es) rfl rfl

/- Whoever is behind gets a picture. -/
theorem exists_wait_of_behind
    (hBehind : seen < (published c decoder es).length) :
    ∃ p,
      ((listen c decoder sink).after es).wait seen limit =
        .ok p := by
  cases hNewer :
      ((listen c decoder sink).after es).latest.newer?
        seen with
  | some p =>
      exact ⟨p, (wait_eq_ok_iff _ _ _ _).mpr hNewer⟩
  | none =>
      rw [latest_after, LatestImage.newer?_ofImages_eq_none]
        at hNewer
      omega

/- Nothing newer was published while the receiver ran. -/
theorem wait_eq_timeout_after
    (limit' : Duration) :
    ((listen c decoder sink).after es).wait seen limit =
        .error (.timeout limit') ↔
      limit' = limit ∧ closing? es = none ∧
        (published c decoder es).length ≤ seen := by
  rcases Nat.lt_or_ge seen (published c decoder es).length
    with hBehind | hSeen
  · rcases exists_wait_of_behind c decoder sink es seen limit
        hBehind with ⟨p, hAnswer⟩
    rw [hAnswer]
    simp only [reduceCtorEq, false_iff]
    omega
  · rw [wait_of_seen c decoder sink es seen limit hSeen]
    split
    · rename_i hOpen
      simp [hOpen, hSeen, eq_comm]
    · rename_i hClosed
      simp [hClosed]

/- Nothing newer was published when it had been closed. -/
theorem wait_eq_closed_after :
    ((listen c decoder sink).after es).wait seen limit =
        .error .closed ↔
      closing? es ≠ none ∧
        (published c decoder es).length ≤ seen := by
  rcases Nat.lt_or_ge seen (published c decoder es).length
    with hBehind | hSeen
  · rcases exists_wait_of_behind c decoder sink es seen limit
        hBehind with ⟨p, hAnswer⟩
    rw [hAnswer]
    simp only [reduceCtorEq, false_iff]
    omega
  · rw [wait_of_seen c decoder sink es seen limit hSeen]
    split <;> simp [*]

/-
  A consumer gets pictures with rising numbers, each of them
  the newest one at some moment.
-/
theorem polled_spec
    (rounds : List (List Event)) :
    let pictures :=
      ((listen c decoder sink).after es).polled limit seen
        rounds
    (pictures.map Prod.snd).Pairwise (· < ·) ∧
      ∀ p ∈ pictures,
        seen < p.2 ∧
          IsNewestDuring c decoder es rounds p := by
  induction rounds generalizing es seen with
  | nil => simp [polled]
  | cons round rounds ih =>
      unfold polled
      rw [← after_append]
      cases hAnswer :
          ((listen c decoder sink).after (es ++ round)).wait
            seen limit with
      | error cause =>
          rcases ih (es ++ round) seen with
            ⟨hRising, hNewest⟩
          refine ⟨hRising, fun p hp => ?_⟩
          exact ⟨(hNewest p hp).1, (hNewest p hp).2.cons⟩
      | ok q =>
          rcases (wait_eq_ok_after c decoder sink _ seen limit
              q).mp hAnswer with ⟨hSeen, hNow⟩
          rcases ih (es ++ round) q.2 with
            ⟨hRising, hNewest⟩
          refine ⟨?_, ?_⟩
          · rw [List.map_cons, List.pairwise_cons]
            refine ⟨?_, hRising⟩
            intro number hNumber
            rcases List.mem_map.mp hNumber with
              ⟨p, hp, rfl⟩
            exact (hNewest p hp).1
          · intro p hp
            rcases List.mem_cons.mp hp with rfl | hp
            · exact ⟨hSeen, (hNow.during rounds).cons⟩
            · exact
                ⟨Nat.lt_trans hSeen (hNewest p hp).1,
                  (hNewest p hp).2.cons⟩

end Wait

------------------------------------------------------------
-- Closing
------------------------------------------------------------

section Close

variable (c : ReceiverConfig) (decoder : Decoder σ)
variable (sink : Option (FeedbackSink φ))
variable {es : List Event}

/- Nothing happens once the loop was waited for. -/
theorem after_of_awaited
    {left : Duration}
    (hClosing : closing? es = some left)
    (hAwaited : left.nanos ≤ c.closeTimeout.nanos)
    (later : List Event) :
    (listen c decoder sink).after (es ++ later) =
      (listen c decoder sink).after es := by
  have hStage := isAtStage_after c decoder sink es
  rw [hClosing] at hStage
  rcases hStage with ⟨hLeft, -⟩ | hStopped
  · exact absurd hAwaited hLeft
  · rw [after_append, after_of_stopped hStopped]

/- Nothing happens once a datagram arrived behind a closing. -/
theorem after_of_straggler
    (hClosed : closing? es ≠ none)
    (bytes : Bytes)
    (now : Nat)
    (later : List Event) :
    (listen c decoder sink).after
        (es ++ .datagram bytes now :: later) =
      (listen c decoder sink).after
        (es ++ [.datagram bytes now]) := by
  have hStage := isAtStage_after c decoder sink es
  rcases Option.ne_none_iff_exists'.mp hClosed with
    ⟨left, hClosing⟩
  rw [hClosing] at hStage
  rw [List.append_cons, after_append _ (es ++ _)]
  refine after_of_stopped (l := c.loop) ?_ later
  rw [after_append, after_cons]
  rcases hStage with ⟨-, hDetached⟩ | hStopped
  · rw [step, receive_of_detached hDetached]
    rfl
  · rw [← after_cons, after_of_stopped hStopped, hStopped]

/- Closing does nothing to a receiver that was closed. -/
theorem after_close_of_closed
    (hClosed : closing? es ≠ none)
    (left : Duration) :
    (listen c decoder sink).after (es ++ [.close left]) =
      (listen c decoder sink).after es := by
  have hStage := isAtStage_after c decoder sink es
  rcases Option.ne_none_iff_exists'.mp hClosed with
    ⟨first, hClosing⟩
  rw [hClosing] at hStage
  rw [after_append]
  rcases hStage with ⟨-, hDetached⟩ | hStopped
  · rw [after_cons, step, close, hDetached,
      ReceiveLoop.close_detached, ← hDetached]
    rfl
  · exact after_of_stopped hStopped _

end Close

------------------------------------------------------------
-- The Newest Picture
------------------------------------------------------------

/-
  What those who wait for pictures of a receiver get after a
  run.
-/
structure HandsOutLatest
    (c : ReceiverConfig)
    (decoder : Decoder σ)
    (sink : Option (FeedbackSink φ))
    (es : List Event) : Prop where
/- Whoever is behind gets the newest picture. -/
  handed_iff :
    ∀ seen limit p,
      ((listen c decoder sink).after es).wait seen limit =
          .ok p ↔
        seen < p.2 ∧ IsNewest c decoder es p
/- There is nothing newer while the receiver runs. -/
  timeout_iff :
    ∀ seen limit limit',
      ((listen c decoder sink).after es).wait seen limit =
          .error (.timeout limit') ↔
        limit' = limit ∧ closing? es = none ∧
          (published c decoder es).length ≤ seen
/- There is nothing newer, and it has been closed. -/
  closed_iff :
    ∀ seen limit,
      ((listen c decoder sink).after es).wait seen limit =
          .error .closed ↔
        closing? es ≠ none ∧
          (published c decoder es).length ≤ seen
/- Who waits while events happen is answered at some time. -/
  amid :
    ∀ seen limit later,
      ∃ es₁ es₂,
        later = es₁ ++ es₂ ∧
          ((listen c decoder sink).after es).waitAmid seen
                limit later =
              ((listen c decoder sink).after
                (es ++ es₁)).wait seen limit ∧
            ∀ limit',
              ((listen c decoder sink).after es).waitAmid
                    seen limit later =
                  .error (.timeout limit') →
                es₂ = []
/- Who waits again and again gets newer pictures only. -/
  rising :
    ∀ seen limit rounds,
      let pictures :=
        ((listen c decoder sink).after es).polled limit seen
          rounds
      (pictures.map Prod.snd).Pairwise (· < ·) ∧
        ∀ p ∈ pictures,
          seen < p.2 ∧
            IsNewestDuring c decoder es rounds p
/- What was published stays so. -/
  grows :
    ∀ later,
      published c decoder es <+:
        published c decoder (es ++ later)
/- Nothing happens after a closing that awaits the loop. -/
  closed_stays :
    ∀ left,
      closing? es = some left →
        left.nanos ≤ c.closeTimeout.nanos →
          ∀ later,
            (listen c decoder sink).after (es ++ later) =
              (listen c decoder sink).after es
/- After any closing, one datagram is the last one. -/
  closed_ends :
    closing? es ≠ none →
      ∀ bytes now later,
        (listen c decoder sink).after
            (es ++ .datagram bytes now :: later) =
          (listen c decoder sink).after
            (es ++ [.datagram bytes now])
/- Closing again does nothing. -/
  closed_again :
    closing? es ≠ none →
      ∀ left,
        (listen c decoder sink).after (es ++ [.close left]) =
          (listen c decoder sink).after es

/-
  At every moment of a run the newest picture is handed out,
  once, to those who wait for it.
-/
theorem hands_out_latest
    (c : ReceiverConfig)
    (decoder : Decoder σ)
    (sink : Option (FeedbackSink φ))
    (es : List Event) :
    HandsOutLatest c decoder sink es where
  handed_iff := wait_eq_ok_after c decoder sink es
  timeout_iff := wait_eq_timeout_after c decoder sink es
  closed_iff := wait_eq_closed_after c decoder sink es
  amid := by
    intro seen limit later
    rcases exists_wait_of_waitAmid
        ((listen c decoder sink).after es) seen limit later
      with ⟨es₁, es₂, hSplit, hAnswer, hEnd⟩
    rw [← after_append] at hAnswer
    exact ⟨es₁, es₂, hSplit, hAnswer, hEnd⟩
  rising := fun seen limit rounds =>
    polled_spec c decoder sink es seen limit rounds
  grows := published_prefix c decoder es
  closed_stays := fun _ =>
    after_of_awaited c decoder sink
  closed_ends := after_of_straggler c decoder sink
  closed_again := after_close_of_closed c decoder sink

/-
  Makes a picture of each byte of a frame, and refuses a
  frame of one byte.
-/
def bytewise : Decoder Unit :=
  .streaming
    (fun s data =>
      match data with
      | [_] => (.error (.decode "short"), s)
      | _ => (.ok (data.map (fun b => .compressed [b])), s))
    ()

/-
  A frame with two pictures, one without a picture and one
  that is refused.  The first picture is never handed out,
  and a closing that awaits the loop takes the second from
  no one.  A loop that is left to itself adds one frame.
-/
theorem hands_out_latest_after_closing :
    let c : ReceiverConfig := { closeTimeout := .ofMillis 10 }
    let r : Receiver Unit Unit := listen c bytewise none
    let frame (n : UInt32) (data : Bytes) : Event :=
      .datagram (Fragment.wire ⟨n, 0, 1, data⟩) 0
    let es : List Event :=
      [frame 1 [7, 8], frame 2 [], frame 3 [9]]
    let awaited := es ++ [.close (.ofMillis 10)]
    let detached := es ++ [.close (.ofMillis 11)]
    (r.after awaited).wait 1 (.ofSeconds 1) =
        .ok (.compressed [8], 2) ∧
      IsNewest c bytewise awaited (.compressed [8], 2) ∧
        (r.after (awaited ++ [frame 4 [5, 6]])).wait 2
            (.ofSeconds 1) =
          .error .closed ∧
        (r.after
            (detached ++
              [frame 4 [5, 6], frame 5 [3, 4]])).wait 2
            (.ofSeconds 1) =
          .ok (.compressed [6], 4) := by
  intro c r frame es awaited detached
  have hLatest :=
    hands_out_latest c bytewise
      (none : Option (FeedbackSink Unit)) awaited
  have hDetached :=
    hands_out_latest c bytewise
      (none : Option (FeedbackSink Unit)) detached
  have hAnswer :
      (r.after awaited).wait 1 (.ofSeconds 1) =
        .ok (.compressed [8], 2) := by
    decide +kernel
  have hNewest :=
    ((hLatest.handed_iff 1 (.ofSeconds 1) _).mp hAnswer).2
  have hStays :
      r.after (awaited ++ [frame 4 [5, 6]]) =
        r.after awaited :=
    hLatest.closed_stays (.ofMillis 10) rfl (Nat.le_refl _) _
  have hEnds :
      r.after
          (detached ++ [frame 4 [5, 6], frame 5 [3, 4]]) =
        r.after (detached ++ [frame 4 [5, 6]]) :=
    hDetached.closed_ends (by decide) _ 0 _
  refine ⟨hAnswer, hNewest, ?_, ?_⟩
  · rw [hStays]
    exact
      (hLatest.closed_iff 2 (.ofSeconds 1)).mpr
        ⟨by decide, Nat.le_of_eq hNewest.1.symm⟩
  · rw [hEnds]
    decide +kernel

/-
  A receiver that does not wait for its loop may hand out a
  picture although it told that it is closed, and count on.
-/
theorem not_still_after_detaching :
    let c : ReceiverConfig := { closeTimeout := ⟨0⟩ }
    let r : Receiver Unit Unit := listen c .identity none
    let closed : List Event := [.close c.receiveTimeout]
    let late : Event :=
      .datagram (Fragment.wire ⟨1, 0, 1, [7]⟩) 0
    let before := r.after closed
    let after := r.after (closed ++ [late])
    before.running = false ∧
      before.wait 0 (.ofSeconds 1) = .error .closed ∧
      after.wait 0 (.ofSeconds 1) =
        .ok (.compressed [7], 1) ∧
      after.latest ≠ before.latest ∧
      after.stats ≠ before.stats := by
  decide +kernel

/- By default, a loop that waits for a datagram is awaited. -/
example :
    let c : ReceiverConfig := {}
    c.receiveTimeout.nanos ≤ c.closeTimeout.nanos := by
  decide

end Receiver

end Reframe
