import Reframe.Proofs.Fragment.Codec
import Reframe.Proofs.Fragment.Exact
import Reframe.Proofs.Fragment.Writer

/-
  What a sender does while its sink fails.

  The attempts to send the datagrams of a frame follow one
  rule: an accepted attempt is followed by one with the next
  datagram, an interrupted one by one with the same datagram
  again, and any other failure is the last attempt.  So the
  sink accepts the datagrams of a prefix of the fragments.

  Main declarations:
    * `DatagramSink.attempts`
    * `Fragment.Transmits`
    * `DatagramSink.transmits_offer`
    * `DatagramSink.exists_follows`
    * `Fragment.split_cases`
    * `Sender.Handles`
    * `Sender.exists_handles`
    * `Sender.sends_prefixes_through_faults`
-/

namespace Reframe

------------------------------------------------------------
-- Attempts
------------------------------------------------------------

namespace DatagramSink

/- What comes of the next attempt to send a datagram. -/
def outcome
    (sink : DatagramSink)
    (datagram : Bytes) : Option IoError :=
  match sink.results with
  | [] => overrun sink.limit datagram
  | result :: _ => result

/- The sink after a number of attempts. -/
def afterAttempts
    (sink : DatagramSink)
    (n : Nat) : DatagramSink :=
  { sink with results := sink.results.drop n }

/- What comes of attempts to send datagrams, in order. -/
def attempts
    (sink : DatagramSink) :
    List Bytes → List (Bytes × Option IoError)
| [] => []
| datagram :: datagrams =>
    (datagram, sink.outcome datagram) ::
      attempts (sink.afterAttempts 1) datagrams

/- As many attempts are made as datagrams are offered. -/
@[simp]
theorem length_attempts
    (sink : DatagramSink)
    (datagrams : List Bytes) :
    (sink.attempts datagrams).length =
      datagrams.length := by
  induction datagrams generalizing sink with
  | nil => rfl
  | cons datagram datagrams ih => simp [attempts, ih]

/- Attempts after attempts. -/
theorem attempts_append
    (sink : DatagramSink)
    (front back : List Bytes) :
    sink.attempts (front ++ back) =
      sink.attempts front ++
        (sink.afterAttempts front.length).attempts back := by
  induction front generalizing sink with
  | nil => rfl
  | cons datagram front ih =>
      have hRest :
          (sink.afterAttempts 1).afterAttempts front.length =
            sink.afterAttempts (front.length + 1) := by
        simp [afterAttempts]
      rw [List.cons_append, attempts, ih, hRest]
      rfl

end DatagramSink

------------------------------------------------------------
-- The Rule Of Attempts
------------------------------------------------------------

namespace Fragment

/- A fragment that fits its header becomes its datagram. -/
theorem encode_eq
    {f : Fragment}
    (hFit : f.payload.length ≤ payloadLimit) :
    f.encode [] = .ok f.wire := by
  simp [encode, hFit]

/-
  Attempts that send fragments in order, those of them that
  are accepted, and the failure of the last one, if it is
  one.
-/
inductive Transmits :
    List Fragment → List (Bytes × Option IoError) →
      List Fragment → Option IoError → Prop where
| done : Transmits [] [] [] none
| accepted
    {f : Fragment}
    {fs sent : List Fragment}
    {attempts : List (Bytes × Option IoError)}
    {failure : Option IoError}
    (hRest : Transmits fs attempts sent failure) :
    Transmits (f :: fs) ((f.wire, none) :: attempts)
      (f :: sent) failure
| interrupted
    {f : Fragment}
    {fs sent : List Fragment}
    {attempts : List (Bytes × Option IoError)}
    {failure : Option IoError}
    {e : IoError}
    (hKind : e.kind = .interrupted)
    (hAgain : Transmits (f :: fs) attempts sent failure) :
    Transmits (f :: fs) ((f.wire, some e) :: attempts) sent
      failure
| refused
    (f : Fragment)
    (fs : List Fragment)
    {e : IoError}
    (hKind : e.kind ≠ .interrupted) :
    Transmits (f :: fs) [(f.wire, some e)] [] (some e)

namespace Transmits

variable {fs fs' sent sent' : List Fragment}
variable {attempts attempts' : List (Bytes × Option IoError)}
variable {failure : Option IoError}

/- More fragments behind some that were all accepted. -/
theorem append
    {first : Option IoError}
    (hFirst : Transmits fs attempts sent first)
    (hNone : first = none)
    (hRest : Transmits fs' attempts' sent' failure) :
    Transmits (fs ++ fs') (attempts ++ attempts')
      (sent ++ sent') failure := by
  induction hFirst with
  | done => exact hRest
  | accepted _ ih => exact .accepted (ih hNone)
  | interrupted hKind _ ih =>
      exact .interrupted hKind (ih hNone)
  | refused f fs hKind => cases hNone

/- Behind a failure no more fragments are sent. -/
theorem of_failure
    (hFirst : Transmits fs attempts sent failure)
    (hFailure : failure ≠ none)
    (fs' : List Fragment) :
    Transmits (fs ++ fs') attempts sent failure := by
  induction hFirst with
  | done => exact absurd rfl hFailure
  | accepted _ ih => exact .accepted (ih hFailure)
  | interrupted hKind _ ih =>
      exact .interrupted hKind (ih hFailure)
  | refused f fs hKind => exact .refused f _ hKind

/- The fragments that are accepted come first. -/
theorem isPrefix
    (hSends : Transmits fs attempts sent failure) :
    sent <+: fs := by
  induction hSends with
  | done => exact List.prefix_rfl
  | accepted _ ih => exact List.cons_prefix_cons.mpr ⟨rfl, ih⟩
  | interrupted _ _ ih => exact ih
  | refused f fs _ => exact List.nil_prefix

/- All fragments are accepted exactly if nothing fails. -/
theorem failure_eq_none_iff
    (hSends : Transmits fs attempts sent failure) :
    failure = none ↔ sent = fs := by
  induction hSends with
  | done => simp
  | accepted _ ih => simpa using ih
  | interrupted _ _ ih => exact ih
  | refused f fs _ => simp

/- Accepted are the datagrams of these fragments. -/
theorem accepted_eq
    (hSends : Transmits fs attempts sent failure) :
    (attempts.filter (fun a => a.2 = none)).map Prod.fst =
      sent.map wire := by
  induction hSends with
  | done => rfl
  | accepted _ ih => simpa using ih
  | interrupted _ _ ih => simpa using ih
  | refused f fs _ => rfl

/- The first attempt is made with the first fragment. -/
theorem exists_first
    {f : Fragment}
    (hSends : Transmits (f :: fs) attempts sent failure) :
    ∃ result, attempts[0]? = some (f.wire, result) := by
  cases hSends with
  | accepted _ => exact ⟨none, rfl⟩
  | interrupted _ _ => exact ⟨some _, rfl⟩
  | refused _ => exact ⟨some _, rfl⟩

/-
  Each attempt is made with the fragment behind those that
  were accepted before.
-/
theorem in_order
    (hSends : Transmits fs attempts sent failure)
    {i : Nat}
    {datagram : Bytes}
    {result : Option IoError}
    (hAt : attempts[i]? = some (datagram, result)) :
    ∃ f,
      fs[(attempts.take i).countP (fun a => a.2 = none)]? =
          some f ∧
        datagram = f.wire := by
  induction hSends generalizing i with
  | done => cases hAt
  | @accepted f _ _ _ _ _ ih =>
      cases i with
      | zero =>
          have hHere := Prod.mk.inj (Option.some.inj hAt)
          exact ⟨f, rfl, hHere.1.symm⟩
      | succ i => simpa using ih hAt
  | @interrupted f _ _ _ _ _ _ _ ih =>
      cases i with
      | zero =>
          have hHere := Prod.mk.inj (Option.some.inj hAt)
          exact ⟨f, rfl, hHere.1.symm⟩
      | succ i => simpa using ih hAt
  | refused f fs _ =>
      cases i with
      | zero =>
          have hHere := Prod.mk.inj (Option.some.inj hAt)
          exact ⟨f, rfl, hHere.1.symm⟩
      | succ i => cases hAt

/- An interrupted attempt is made again. -/
theorem again
    (hSends : Transmits fs attempts sent failure)
    {i : Nat}
    {datagram : Bytes}
    {e : IoError}
    (hAt : attempts[i]? = some (datagram, some e))
    (hKind : e.kind = .interrupted) :
    ∃ result,
      attempts[i + 1]? = some (datagram, result) := by
  induction hSends generalizing i with
  | done => cases hAt
  | accepted _ ih =>
      cases i with
      | zero => cases hAt
      | succ i => exact ih hAt
  | interrupted _ hAgain ih =>
      cases i with
      | zero =>
          have hHere := Prod.mk.inj (Option.some.inj hAt)
          rw [← hHere.1]
          exact hAgain.exists_first
      | succ i => exact ih hAt
  | refused f fs hOther =>
      cases i with
      | zero =>
          have hHere := Prod.mk.inj (Option.some.inj hAt)
          rw [Option.some.inj hHere.2] at hOther
          exact absurd hKind hOther
      | succ i => cases hAt

/- Any other failure is the last attempt. -/
theorem stops
    (hSends : Transmits fs attempts sent failure)
    {i : Nat}
    {datagram : Bytes}
    {e : IoError}
    (hAt : attempts[i]? = some (datagram, some e))
    (hKind : e.kind ≠ .interrupted) :
    i + 1 = attempts.length ∧ failure = some e := by
  induction hSends generalizing i with
  | done => cases hAt
  | accepted _ ih =>
      cases i with
      | zero => cases hAt
      | succ i =>
          rcases ih hAt with ⟨hLast, hFailure⟩
          exact ⟨by rw [hLast, List.length_cons], hFailure⟩
  | interrupted hOther _ ih =>
      cases i with
      | zero =>
          have hHere := Prod.mk.inj (Option.some.inj hAt)
          rw [Option.some.inj hHere.2] at hOther
          exact absurd hOther hKind
      | succ i =>
          rcases ih hAt with ⟨hLast, hFailure⟩
          exact ⟨by rw [hLast, List.length_cons], hFailure⟩
  | refused f fs _ =>
      cases i with
      | zero =>
          have hHere := Prod.mk.inj (Option.some.inj hAt)
          exact ⟨rfl, hHere.2⟩
      | succ i => cases hAt

/- A failure is that of the last attempt. -/
theorem exists_last
    (hSends : Transmits fs attempts sent failure)
    {e : IoError}
    (hFailure : failure = some e) :
    e.kind ≠ .interrupted ∧
      ∃ datagram,
        attempts.getLast? = some (datagram, some e) := by
  induction hSends with
  | done => cases hFailure
  | accepted _ ih =>
      rcases ih hFailure with ⟨hKind, datagram, hLast⟩
      exact ⟨hKind, datagram, by
        rw [List.getLast?_cons, hLast, Option.getD_some]⟩
  | interrupted _ _ ih =>
      rcases ih hFailure with ⟨hKind, datagram, hLast⟩
      exact ⟨hKind, datagram, by
        rw [List.getLast?_cons, hLast, Option.getD_some]⟩
  | refused f fs hKind =>
      rw [← Option.some.inj hFailure]
      exact ⟨hKind, f.wire, rfl⟩

/- One attempt that is not interrupted. -/
theorem single
    (f : Fragment)
    {result : Option IoError}
    (hLast : ∀ e, result = some e → e.kind ≠ .interrupted) :
    Transmits [f] [(f.wire, result)]
      (if result = none then [f] else []) result := by
  cases result with
  | none => exact .accepted .done
  | some e => exact .refused f [] (hLast e rfl)

end Transmits

end Fragment

------------------------------------------------------------
-- Deliveries
------------------------------------------------------------

namespace DatagramSink

/- A datagram that is too long is no interruption. -/
theorem kind_of_overrun
    {limit : Option Nat}
    {datagram : Bytes}
    {e : IoError}
    (hOverrun : overrun limit datagram = some e) :
    e.kind ≠ .interrupted := by
  unfold overrun at hOverrun
  split at hOverrun
  · cases hOverrun
  · split at hOverrun
    · rw [← Option.some.inj hOverrun]
      decide
    · cases hOverrun

/-
  One datagram is offered until it is accepted or refused
  for another reason than an interruption.
-/
theorem transmits_offer
    (sink : DatagramSink)
    (f : Fragment) :
    let o := offer sink.limit f.wire sink.results
    Fragment.Transmits [f]
        (sink.attempts (List.replicate o.attempts f.wire))
        (if o.failure = none then [f] else []) o.failure ∧
      o.rest = sink.results.drop o.attempts := by
  rcases sink with ⟨results, limit⟩
  induction results with
  | nil =>
      exact
        ⟨.single f (fun e hFailure =>
          kind_of_overrun hFailure), rfl⟩
  | cons result rest ih =>
      cases result with
      | none =>
          exact ⟨.single f (fun e hNone => nomatch hNone), rfl⟩
      | some e =>
          by_cases hKind : e.kind = .interrupted
          · simp only [offer, if_pos hKind]
            exact ⟨.interrupted hKind ih.1, ih.2⟩
          · simp only [offer, if_neg hKind]
            exact
              ⟨.single f (fun e' hSame => by
                rwa [← Option.some.inj hSame]), rfl⟩

end DatagramSink

namespace Delivery

/-
  A delivery that has not failed offers the datagram of the
  next fragment until an attempt is not interrupted.
-/
theorem next_eq
    {r : Delivery}
    (hNone : r.failure = none)
    {f : Fragment}
    (hFit : f.payload.length ≤ Fragment.payloadLimit) :
    let o :=
      DatagramSink.offer r.sink.limit f.wire r.sink.results
    r.next f =
      { offered :=
          List.replicate o.attempts f.wire ++ r.offered
        accepted :=
          (if o.failure = none then [f.wire] else []) ++
            r.accepted
        failure := o.failure.map FrameError.io
        sink := { r.sink with results := o.rest } } := by
  intro o
  have hOffer :
      DatagramSink.offer r.sink.limit f.wire
        r.sink.results = o := rfl
  simp only [next, hNone, Fragment.encode_eq hFit, hOffer]
  cases o.failure <;> rfl

/-
  A delivery by the rule: the attempts that it made of the
  sink send these fragments, and it fails with the last of
  them.
-/
structure Follows
    (r : Delivery)
    (sink : DatagramSink)
    (fs sent : List Fragment)
    (failure : Option IoError) : Prop where
  transmits :
    Fragment.Transmits fs (sink.attempts r.offered.reverse)
      sent failure
  datagrams_eq : r.datagrams = sent.map Fragment.wire
  failure_eq : r.failure = failure.map FrameError.io
  sink_eq : r.sink = sink.afterAttempts r.offered.length

namespace Follows

variable {r : Delivery} {sink : DatagramSink}
variable {fs sent : List Fragment}

/- Once a delivery has failed, it makes no more attempts. -/
theorem next_of_failure
    {e : IoError}
    (hFollows : r.Follows sink fs sent (some e))
    (f : Fragment) :
    (r.next f).Follows sink (fs ++ [f]) sent (some e) := by
  have hSame : r.next f = r := by
    simp [next, hFollows.failure_eq]
  rw [hSame]
  exact
    { hFollows with
      transmits :=
        hFollows.transmits.of_failure (by simp) [f] }

/-
  A delivery that has not failed offers the next fragment
  behind the others.
-/
theorem next_of_none
    (hFollows : r.Follows sink fs sent none)
    {f : Fragment}
    (hFit : f.payload.length ≤ Fragment.payloadLimit) :
    ∃ sent' failure,
      (r.next f).Follows sink (fs ++ [f]) sent' failure := by
  rw [next_eq hFollows.failure_eq hFit]
  rcases r.sink.transmits_offer f with ⟨hOffer, hRest⟩
  generalize
    DatagramSink.offer r.sink.limit f.wire r.sink.results = o
    at hOffer hRest
  have hAttempts :
      sink.attempts
          (List.replicate o.attempts f.wire ++
            r.offered).reverse =
        sink.attempts r.offered.reverse ++
          r.sink.attempts
            (List.replicate o.attempts f.wire) := by
    rw [List.reverse_append, DatagramSink.attempts_append,
      List.length_reverse, ← hFollows.sink_eq,
      List.reverse_replicate]
  refine
    ⟨sent ++ if o.failure = none then [f] else [],
      o.failure, ?_⟩
  refine
    { transmits := ?_
      datagrams_eq := ?_
      failure_eq := rfl
      sink_eq := ?_ }
  · rw [hAttempts]
    exact hFollows.transmits.append rfl hOffer
  · rw [List.map_append, ← hFollows.datagrams_eq, datagrams,
      List.reverse_append]
    split <;> rfl
  · rw [hRest, hFollows.sink_eq]
    simp [DatagramSink.afterAttempts, Nat.add_comm]

end Follows

end Delivery

namespace DatagramSink

/-
  A delivery of fragments that fit their headers follows the
  rule.
-/
theorem exists_follows
    (sink : DatagramSink)
    {fs : List Fragment}
    (hFit :
      ∀ f ∈ fs, f.payload.length ≤ Fragment.payloadLimit) :
    ∃ sent failure,
      (sink.deliver fs).Follows sink fs sent failure := by
  induction fs using List.reverseRecOn with
  | nil =>
      refine ⟨[], none, .done, rfl, rfl, ?_⟩
      simp [deliver, afterAttempts]
  | append_singleton fs f ih =>
      have hNext :
          sink.deliver (fs ++ [f]) =
            (sink.deliver fs).next f := by
        simp [deliver]
      rcases ih (fun g hg => hFit g (by simp [hg])) with
        ⟨sent, failure, hFollows⟩
      rw [hNext]
      cases failure with
      | some e =>
          exact ⟨sent, some e, hFollows.next_of_failure f⟩
      | none =>
          exact hFollows.next_of_none (hFit f (by simp))

/-
  A delivery whose first fragment does not fit its header
  makes no attempt.
-/
theorem deliver_of_large
    (sink : DatagramSink)
    {f : Fragment}
    (hLarge : Fragment.payloadLimit < f.payload.length)
    (fs : List Fragment) :
    sink.deliver (f :: fs) =
      { sink := sink
        failure :=
          some (.payloadTooLarge f.payload.length
            Fragment.payloadLimit) } := by
  induction fs using List.reverseRecOn with
  | nil =>
      simp [deliver, Delivery.next, Fragment.encode, hLarge]
  | append_singleton fs g ih =>
      have hNext :
          sink.deliver (f :: (fs ++ [g])) =
            (sink.deliver (f :: fs)).next g := by
        simp [deliver]
      rw [hNext, ih]
      rfl

end DatagramSink

------------------------------------------------------------
-- Fragments Of A Frame
------------------------------------------------------------

namespace Fragment

/- The size of a slice is its own size. -/
theorem split_sliceSize
    (frameId : UInt32)
    (data : Bytes)
    (mtu : Nat) :
    split frameId data (sliceSize mtu) =
      split frameId data mtu := by
  have hSame : sliceSize (sliceSize mtu) = sliceSize mtu := by
    simp [sliceSize]
  have hCount :
      sliceCount data.length (sliceSize mtu) =
        sliceCount data.length mtu := by
    rw [sliceCount_eq, sliceCount_eq, hSame]
  simp only [split, splitLimit, hSame, hCount]

/- No fragment of a frame is longer than the first one. -/
theorem length_payload_le_first
    {frameId : UInt32}
    {data : Bytes}
    {mtu : Nat}
    {first : Fragment}
    {rest : List Fragment}
    (hSplit :
      split frameId data mtu = .ok (first :: rest))
    {f : Fragment}
    (hMember : f ∈ first :: rest) :
    f.payload.length ≤ first.payload.length := by
  rcases List.mem_iff_getElem?.mp hMember with ⟨i, hAt⟩
  rw [(getElem?_of_split hSplit hAt).2,
    (getElem?_of_split (i := 0) hSplit rfl).2]
  simp only [fragmentAt, List.length_take, List.length_drop]
  omega

/-
  A frame that cannot be cut, or whose first fragment does
  not fit its header, is too large.  Any other fragments fit
  their headers.
-/
theorem split_cases
    (frameId : UInt32)
    (data : Bytes)
    (mtu : Nat) :
    (∃ size limit,
      split frameId data mtu =
        .error (.payloadTooLarge size limit)) ∨
    (∃ first rest,
      split frameId data mtu = .ok (first :: rest) ∧
        payloadLimit < first.payload.length) ∨
    (∃ fs,
      split frameId data mtu = .ok fs ∧
        ∀ f ∈ fs, f.payload.length ≤ payloadLimit) := by
  cases hSplit : split frameId data mtu with
  | error e =>
      rw [split_eq] at hSplit
      split at hSplit
      · rw [← Except.error.inj hSplit]
        exact .inl ⟨_, _, rfl⟩
      · cases hSplit
  | ok fs =>
      right
      cases fs with
      | nil => exact .inr ⟨[], rfl, by simp⟩
      | cons first rest =>
          by_cases hLarge :
              payloadLimit < first.payload.length
          · exact .inl ⟨first, rest, rfl, hLarge⟩
          · refine .inr ⟨first :: rest, rfl, ?_⟩
            intro f hMember
            have hMost :=
              length_payload_le_first hSplit hMember
            omega

end Fragment

------------------------------------------------------------
-- Calls
------------------------------------------------------------

namespace Sender

/- The attempts of a call, each with what came of it. -/
def attemptsOf
    (x : Sender)
    (c : Call) : List (Bytes × Option IoError) :=
  x.sink.attempts (x.call c).delivery.offered.reverse

/-
  What a sender offers its sink in a call, and in which
  order.
-/
structure Offers
    (mtu : Nat)
    (x : Sender)
    (c : Call)
    (sent : List Fragment) : Prop where
/- The fragments that are sent come first, in order. -/
  isPrefix :
    ∀ fs,
      Fragment.split (x.numberOf c) c.data mtu = .ok fs →
        sent <+: fs
  index_eq :
    ∀ (i : Nat) (f : Fragment),
      sent[i]? = some f → f.index.toNat = i
/- Their datagrams are those that the sink accepts. -/
  datagrams_eq :
    (x.call c).delivery.datagrams = sent.map Fragment.wire
  accepted_eq :
    ((x.attemptsOf c).filter
        (fun a => a.2 = none)).map Prod.fst =
      sent.map Fragment.wire
/- Each attempt is made behind those accepted before. -/
  in_order :
    ∀ fs,
      Fragment.split (x.numberOf c) c.data mtu = .ok fs →
        ∀ i datagram result,
          (x.attemptsOf c)[i]? = some (datagram, result) →
            ∃ f,
              fs[((x.attemptsOf c).take i).countP
                  (fun a => a.2 = none)]? =
                some f ∧
              datagram = f.wire
/- An interrupted attempt is made again. -/
  again :
    ∀ i datagram e,
      (x.attemptsOf c)[i]? = some (datagram, some e) →
        e.kind = .interrupted →
          ∃ result,
            (x.attemptsOf c)[i + 1]? =
              some (datagram, result)
/- The sink goes on with its next attempt. -/
  sink_eq :
    (x.call c).delivery.sink =
      x.sink.afterAttempts (x.attemptsOf c).length
/- Datagrams are short and decode to their fragments. -/
  fits :
    ∀ f ∈ sent,
      f.encode [] = .ok f.wire ∧
        f.wire.length ≤ 12 + max mtu 1 ∧
        Fragment.decode f.wire = .ok f

/- How a sender handles a call, and how the call ends. -/
structure Handles
    (mtu : Nat)
    (x : Sender)
    (c : Call)
    (sent : List Fragment) : Prop
    extends Offers mtu x c sent where
/- A call succeeds exactly if the whole frame is sent. -/
  number_eq :
    ∀ n, (x.call c).result = .ok n → n = x.numberOf c
  ok_iff :
    (x.call c).result = .ok (x.numberOf c) ↔
      Fragment.split (x.numberOf c) c.data mtu = .ok sent
/- A frame that cannot be cut fails. -/
  unsplit :
    ∀ e,
      Fragment.split (x.numberOf c) c.data mtu = .error e →
        (x.call c).result = .error e ∧ sent = []
/- A refused attempt ends the call. -/
  stops :
    ∀ i datagram e,
      (x.attemptsOf c)[i]? = some (datagram, some e) →
        e.kind ≠ .interrupted →
          i + 1 = (x.attemptsOf c).length ∧
            (x.call c).result = .error (.io e)
/- Otherwise only a frame that is too large fails. -/
  fails :
    ∀ e, (x.call c).result = .error e →
      (∃ size limit,
        e = .payloadTooLarge size limit ∧
          x.attemptsOf c = []) ∨
      (∃ cause datagram,
        e = .io cause ∧ cause.kind ≠ .interrupted ∧
          (x.attemptsOf c).getLast? =
            some (datagram, some cause))
/- The numbers move on only if the call succeeds. -/
  next_of_ok :
    ∀ n, (x.call c).result = .ok n →
      (x.call c).writer.nextFrameId = n + 1
  next_of_error :
    ∀ e, (x.call c).result = .error e →
      (x.call c).writer.nextFrameId = x.writer.nextFrameId

section Handling

variable {mtu : Nat} {x : Sender} {c : Call}
variable {fs sent : List Fragment}

/- A call that is refused at once sends nothing. -/
theorem handles_of_refused
    {size limit : Nat}
    (hResult :
      (x.call c).result =
        .error (.payloadTooLarge size limit))
    (hNothing :
      ∃ failure,
        (x.call c).delivery =
          { sink := x.sink, failure := failure })
    (hWriter : (x.call c).writer = x.writer)
    (hUnsplit :
      ∀ e,
        Fragment.split (x.numberOf c) c.data mtu =
            .error e →
          e = .payloadTooLarge size limit) :
    Handles mtu x c [] := by
  rcases hNothing with ⟨failure, hDelivery⟩
  have hNone : x.attemptsOf c = [] := by
    simp [attemptsOf, hDelivery, DatagramSink.attempts]
  have hSome :
      Fragment.split (x.numberOf c) c.data mtu ≠
        .ok [] := by
    intro hSplit
    exact
      absurd (Fragment.isCut_of_split hSplit).length_pos
        (Nat.lt_irrefl 0)
  refine
    { isPrefix := fun fs _ => List.nil_prefix
      index_eq := by simp
      datagrams_eq := by
        simp [hDelivery, Delivery.datagrams]
      accepted_eq := by simp [hNone]
      in_order := by simp [hNone]
      again := by simp [hNone]
      sink_eq := by
        simp [hDelivery, hNone, DatagramSink.afterAttempts]
      fits := by simp
      number_eq := by simp [hResult]
      ok_iff := by simp [hResult, hSome]
      unsplit := ?_
      stops := by simp [hNone]
      fails := ?_
      next_of_ok := by simp [hResult]
      next_of_error := by simp [hWriter] }
  · intro e hSplit
    exact ⟨by rw [hResult, hUnsplit e hSplit], rfl⟩
  · intro e hError
    rw [hResult] at hError
    exact
      .inl ⟨size, limit, (Except.error.inj hError).symm,
        hNone⟩

/- A call whose delivery follows the rule offers by it. -/
theorem offers_of_follows
    {failure : Option IoError}
    (hSplit :
      Fragment.split (x.numberOf c) c.data mtu = .ok fs)
    (hFit :
      ∀ f ∈ fs, f.payload.length ≤ Fragment.payloadLimit)
    (hFollows :
      (x.call c).delivery.Follows x.sink fs sent failure) :
    Offers mtu x c sent := by
  have hSends :
      Fragment.Transmits fs (x.attemptsOf c) sent failure :=
    hFollows.transmits
  refine
    { isPrefix := ?_
      index_eq := ?_
      datagrams_eq := hFollows.datagrams_eq
      accepted_eq := hSends.accepted_eq
      in_order := ?_
      again := fun i datagram e => hSends.again
      sink_eq := ?_
      fits := ?_ }
  · intro fs' hSplit'
    rw [hSplit] at hSplit'
    rw [← Except.ok.inj hSplit']
    exact hSends.isPrefix
  · intro i f hAt
    rcases hSends.isPrefix with ⟨rest, rfl⟩
    have hIndex := (List.getElem?_eq_some_iff.mp hAt).1
    refine
      (Fragment.isCut_of_split hSplit).index_eq i f ?_
    rwa [List.getElem?_append_left hIndex]
  · intro fs' hSplit' i datagram result hAt
    rw [hSplit] at hSplit'
    rw [← Except.ok.inj hSplit']
    exact hSends.in_order hAt
  · rw [attemptsOf, DatagramSink.length_attempts,
      List.length_reverse]
    exact hFollows.sink_eq
  · intro f hMember
    have hIn : f ∈ fs := hSends.isPrefix.subset hMember
    have hShort :=
      Fragment.length_payload_le_of_split hSplit hIn
    refine
      ⟨Fragment.encode_eq (hFit f hIn), ?_,
        Fragment.decode_wire f (hFit f hIn)⟩
    rw [Fragment.length_wire, Fragment.wireSize]
    exact Nat.add_le_add_left hShort 12

/- A call all of whose fragments are accepted succeeds. -/
theorem handles_of_sent
    (hSplit :
      Fragment.split (x.numberOf c) c.data mtu = .ok fs)
    (hFit :
      ∀ f ∈ fs, f.payload.length ≤ Fragment.payloadLimit)
    (hFollows :
      (x.call c).delivery.Follows x.sink fs sent none)
    (hResult : (x.call c).result = .ok (x.numberOf c))
    (hNext :
      (x.call c).writer.nextFrameId = x.numberOf c + 1) :
    Handles mtu x c sent := by
  have hSends :
      Fragment.Transmits fs (x.attemptsOf c) sent none :=
    hFollows.transmits
  have hAll : sent = fs := hSends.failure_eq_none_iff.mp rfl
  refine
    { offers_of_follows hSplit hFit hFollows with
      number_eq := ?_
      ok_iff := by simp [hResult, hSplit, hAll]
      unsplit := by simp [hSplit]
      stops := ?_
      fails := by simp [hResult]
      next_of_ok := ?_
      next_of_error := by simp [hResult] }
  · intro n hOk
    rw [hResult] at hOk
    exact (Except.ok.inj hOk).symm
  · intro i datagram e hAt hKind
    cases (hSends.stops hAt hKind).2
  · intro n hOk
    rw [hResult] at hOk
    rw [hNext, Except.ok.inj hOk]

/- A call one of whose fragments is refused fails. -/
theorem handles_of_failed
    {e : IoError}
    (hSplit :
      Fragment.split (x.numberOf c) c.data mtu = .ok fs)
    (hFit :
      ∀ f ∈ fs, f.payload.length ≤ Fragment.payloadLimit)
    (hFollows :
      (x.call c).delivery.Follows x.sink fs sent (some e))
    (hResult : (x.call c).result = .error (.io e))
    (hWriter : (x.call c).writer = x.writer) :
    Handles mtu x c sent := by
  have hSends :
      Fragment.Transmits fs (x.attemptsOf c) sent
        (some e) :=
    hFollows.transmits
  have hPart : fs ≠ sent := by
    intro hAll
    cases hSends.failure_eq_none_iff.mpr hAll.symm
  rcases hSends.exists_last rfl with
    ⟨hKind, datagram, hLast⟩
  refine
    { offers_of_follows hSplit hFit hFollows with
      number_eq := by simp [hResult]
      ok_iff := by simp [hResult, hSplit, hPart]
      unsplit := by simp [hSplit]
      stops := ?_
      fails := ?_
      next_of_ok := by simp [hResult]
      next_of_error := by simp [hWriter] }
  · intro i datagram' e' hAt hKind'
    rcases hSends.stops hAt hKind' with ⟨hEnd, hSame⟩
    exact ⟨hEnd, by rw [hResult, Option.some.inj hSame]⟩
  · intro e' hError
    rw [hResult] at hError
    exact
      .inr ⟨e, datagram, (Except.error.inj hError).symm,
        hKind, hLast⟩

end Handling

/- A call sends its frame under its number. -/
theorem call_eq
    (x : Sender)
    (c : Call) :
    x.call c =
      x.writer.sendWithId (x.numberOf c) c.data x.sink := by
  rcases c with ⟨frameId, data⟩
  cases frameId <;> rfl

section Ends

variable {x : Sender} {c : Call} {e : FrameError}
variable {fs : List Fragment}

/- A frame that cannot be cut ends its call. -/
theorem call_of_unsplit
    (hSplit :
      Fragment.split (x.numberOf c) c.data x.writer.mtu =
        .error e) :
    x.call c = ⟨.error e, { sink := x.sink }, x.writer⟩ := by
  simp [call_eq, FragmentWriter.sendWithId, hSplit]

/- A failure of the delivery ends its call. -/
theorem call_of_failure
    (hSplit :
      Fragment.split (x.numberOf c) c.data x.writer.mtu =
        .ok fs)
    (hFailure : (x.sink.deliver fs).failure = some e) :
    x.call c = ⟨.error e, x.sink.deliver fs, x.writer⟩ := by
  simp [call_eq, FragmentWriter.sendWithId, hSplit,
    hFailure]

/- Without a failure the number of the writer moves on. -/
theorem call_of_none
    (hSplit :
      Fragment.split (x.numberOf c) c.data x.writer.mtu =
        .ok fs)
    (hFailure : (x.sink.deliver fs).failure = none) :
    x.call c =
      ⟨.ok (x.numberOf c), x.sink.deliver fs,
        { x.writer with
          nextFrameId := x.numberOf c + 1 }⟩ := by
  simp [call_eq, FragmentWriter.sendWithId, hSplit,
    hFailure]

end Ends

/- Every call is handled. -/
theorem exists_handles
    {mtu : Nat}
    {x : Sender}
    (hMtu : x.writer.mtu = Fragment.sliceSize mtu)
    (c : Call) :
    ∃ sent, Handles mtu x c sent := by
  have hSame :
      Fragment.split (x.numberOf c) c.data x.writer.mtu =
        Fragment.split (x.numberOf c) c.data mtu := by
    rw [hMtu, Fragment.split_sliceSize]
  rcases Fragment.split_cases (x.numberOf c) c.data mtu with
    ⟨size, limit, hSplit⟩ |
      ⟨first, rest, hSplit, hLarge⟩ |
      ⟨fs, hSplit, hFit⟩
  -- More fragments than can be numbered.
  · have hCall := call_of_unsplit (hSame.trans hSplit)
    refine
      ⟨[], handles_of_refused (by rw [hCall])
        ⟨none, by rw [hCall]⟩ (by rw [hCall]) ?_⟩
    intro e hError
    rw [hSplit] at hError
    exact (Except.error.inj hError).symm
  -- The first fragment is the longest, so none goes out.
  · have hDelivery := x.sink.deliver_of_large hLarge rest
    have hCall :=
      call_of_failure (hSame.trans hSplit) (by rw [hDelivery])
    refine
      ⟨[], handles_of_refused (by rw [hCall])
        ⟨_, by rw [hCall, hDelivery]⟩ (by rw [hCall]) ?_⟩
    intro e hError
    rw [hSplit] at hError
    cases hError
  · rcases x.sink.exists_follows hFit with
      ⟨sent, failure, hFollows⟩
    refine ⟨sent, ?_⟩
    cases failure with
    | none =>
        have hCall :=
          call_of_none (hSame.trans hSplit)
            hFollows.failure_eq
        apply handles_of_sent hSplit hFit <;> rw [hCall]
        exact hFollows
    | some e =>
        have hCall :=
          call_of_failure (hSame.trans hSplit)
            hFollows.failure_eq
        apply handles_of_failed hSplit hFit <;> rw [hCall]
        exact hFollows

------------------------------------------------------------
-- Runs
------------------------------------------------------------

/- No call changes the size of the slices. -/
theorem mtu_call
    (x : Sender)
    (c : Call) :
    (x.call c).writer.mtu = x.writer.mtu := by
  rw [call_eq, FragmentWriter.sendWithId]
  split
  · rfl
  · dsimp only
    split <;> rfl

/- Every call of a run is handled. -/
theorem exists_handles_each
    {mtu : Nat}
    {x : Sender}
    (hMtu : x.writer.mtu = Fragment.sliceSize mtu)
    (cs : List Call) :
    ∃ parts : List (List Fragment),
      parts.length = cs.length ∧
        x.acceptedBy cs =
          (parts.map (List.map Fragment.wire)).flatten ∧
        ∀ (i : Nat) (c : Call) (sent : List Fragment),
          cs[i]? = some c → parts[i]? = some sent →
            Handles mtu (x.afterCalls (cs.take i)) c
              sent := by
  induction cs generalizing x with
  | nil => exact ⟨[], rfl, rfl, by simp⟩
  | cons c cs ih =>
      rcases exists_handles hMtu c with ⟨sent, hHandles⟩
      have hNext :
          (x.call c).sender.writer.mtu =
            Fragment.sliceSize mtu :=
        (x.mtu_call c).trans hMtu
      rcases ih hNext with
        ⟨parts, hLength, hAccepted, hEach⟩
      refine ⟨sent :: parts, ?_, ?_, ?_⟩
      · rw [List.length_cons, List.length_cons, hLength]
      · rw [acceptedBy, hAccepted, hHandles.datagrams_eq]
        rfl
      · intro i d part hCall hPart
        cases i with
        | zero =>
            rw [← Option.some.inj hCall,
              ← Option.some.inj hPart]
            exact hHandles
        | succ i => exact hEach i d part hCall hPart

/-
  Whatever the sink makes of the attempts, what it accepts
  is, call by call, the datagrams of the first fragments of
  the frame, and of all of them exactly if the call
  succeeds.  No interruption skips or repeats a fragment,
  any other failure ends the call, a frame that is too large
  makes no attempt, and the numbers move on only with
  success.
-/
theorem sends_prefixes_through_faults
    (mtu : Nat)
    (sink : DatagramSink)
    (cs : List Call) :
    ∃ parts : List (List Fragment),
      parts.length = cs.length ∧
        Sender.acceptedBy ⟨.withMtu mtu, sink⟩ cs =
          (parts.map (List.map Fragment.wire)).flatten ∧
        ∀ (i : Nat) (c : Call) (sent : List Fragment),
          cs[i]? = some c → parts[i]? = some sent →
            Handles mtu
              (Sender.afterCalls ⟨.withMtu mtu, sink⟩
                (cs.take i))
              c sent :=
  exists_handles_each rfl cs

/-
  The first attempt of a frame is interrupted, the next one
  goes out under the last number, and the second fragment of
  the third one is refused.
-/
theorem sends_prefixes_through_faults_interrupted :
    let interrupted : IoError :=
      ⟨.interrupted, "interrupted"⟩
    let refused : IoError := ⟨.connectionRefused, "refused"⟩
    let sink : DatagramSink :=
      ⟨[some interrupted, none, none, none, none,
        some refused], none⟩
    let x : Sender := ⟨.withMtu 2, sink⟩
    let first : Call := ⟨none, [1, 2, 3]⟩
    let last : Call := ⟨some 4294967295, [4, 5]⟩
    let third : Call := ⟨none, [6, 7, 8]⟩
    let y := x.afterCalls [first]
    let z := x.afterCalls [first, last]
    let front : Fragment := ⟨0, 0, 2, [1, 2]⟩
    ∃ parts : List (List Fragment),
      x.acceptedBy [first, last, third] =
          (parts.map (List.map Fragment.wire)).flatten ∧
        (x.call first).result = .ok 0 ∧
        parts[0]? = some [front, ⟨0, 1, 2, [3]⟩] ∧
        (x.attemptsOf first)[0]? =
          some (front.wire, some interrupted) ∧
        (∃ result,
          (x.attemptsOf first)[1]? =
            some (front.wire, result)) ∧
        (y.call last).result = .ok 4294967295 ∧
        (y.call last).writer.nextFrameId = 0 ∧
        (z.call third).result = .error (.io refused) ∧
        (z.call third).writer.nextFrameId = 0 := by
  intro interrupted refused sink x first last third y z front
  rcases
      sends_prefixes_through_faults 2 sink
        [first, last, third] with
    ⟨parts, hLength, hAccepted, hEach⟩
  obtain ⟨p, q, r, rfl⟩ := List.length_eq_three.mp hLength
  have hFirst : Handles 2 x first p := hEach 0 _ _ rfl rfl
  have hLast : Handles 2 y last q := hEach 1 _ _ rfl rfl
  have hThird : Handles 2 z third r := hEach 2 _ _ rfl rfl
  have hOk : (x.call first).result = .ok 0 := by
    cbv
  have hWhole :
      Fragment.split 0 [1, 2, 3] 2 =
        .ok [front, ⟨0, 1, 2, [3]⟩] := by
    cbv
  have hPart : p = [front, ⟨0, 1, 2, [3]⟩] :=
    Except.ok.inj ((hFirst.ok_iff.mp hOk).symm.trans hWhole)
  have hStopped :
      (x.attemptsOf first)[0]? =
        some (front.wire, some interrupted) := by
    cbv
  have hWrapped :
      (y.call last).result = .ok 4294967295 := by
    cbv
  have hRefused :
      (z.call third).result = .error (.io refused) := by
    cbv
  have hNext : (y.call last).writer.nextFrameId = 0 := by
    rw [hLast.next_of_ok _ hWrapped]
    decide
  have hSame : (z.call third).writer.nextFrameId = 0 := by
    rw [hThird.next_of_error _ hRefused]
    cbv
  have hAgain := hFirst.again _ _ _ hStopped rfl
  refine
    ⟨[p, q, r], hAccepted, hOk, ?_, hStopped, hAgain,
      hWrapped, hNext, hRefused, hSame⟩
  rw [hPart]
  rfl

end Sender

end Reframe
