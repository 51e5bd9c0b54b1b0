import Reframe.Puller.Basic
import Reframe.Proofs.Scan.Received

/-
  The life of a puller, however it is asked for frames: it
  hands out the frames of what it receives, and once it said
  that there is none, or was closed, it is over for good in
  all of its parts.

  Main declarations:
    * `LiveStream.reads`
    * `LiveStream.reads_eq`
    * `Puller.Event`
    * `Puller.IsOver`
    * `Puller.IsOver.step`
    * `Puller.Stands`
    * `Puller.Stands.step`
    * `Puller.Stands.run`
    * `Puller.delivers_until_over`
-/

namespace Reframe

------------------------------------------------------------
-- Reads Of A Stream
------------------------------------------------------------

namespace ByteSource

/- A read takes the first arrival, or finds the end. -/
theorem arrivals_eq_read
    {capacity : Nat}
    (hCapacity : 0 < capacity)
    (source : ByteSource) :
    source.arrivals capacity =
        (source.read capacity).1 ::
          (source.read capacity).2.arrivals capacity ∨
      (source.arrivals capacity = [] ∧
        source.read capacity = (.ok [], [])) := by
  fun_induction read capacity source with
  | case1 => exact Or.inr ⟨rfl, rfl⟩
  | case2 rest ih =>
      have hSame :
          arrivals capacity (.data [] :: rest) =
            arrivals capacity rest := by
        rw [arrivals, List.flatMap_cons, arrivalsOf,
          pieces_nil hCapacity]
        rfl
      rw [hSame]
      exact ih
  | case3 b bs rest =>
      apply Or.inl
      rw [arrivals, List.flatMap_cons, arrivalsOf,
        pieces_of_ne_nil hCapacity (List.cons_ne_nil b bs)]
      rfl
  | case4 rest => exact Or.inl rfl
  | case5 e rest => exact Or.inl rfl

end ByteSource

namespace LiveStream

/- What successive reads of a stream yield. -/
def reads
    (s : LiveStream)
    (capacity : Nat) : Nat → List Arrival
| 0 => []
| n + 1 =>
    (s.read capacity).1 ::
      (s.read capacity).2.reads capacity n

/- A read of a stream is a read of what is left of it. -/
theorem read_spec
    (s : LiveStream)
    (capacity : Nat) :
    (s.read capacity).1 = (s.source.read capacity).1 ∧
      (s.read capacity).2.source =
        (s.source.read capacity).2 := by
  cases hBody : s.body with
  | none => simp [read, source, hBody, ByteSource.read]
  | some body => simp [read, source, hBody]

/-
  Successive reads of a stream yield what is left of its
  source, and find the end from then on.
-/
theorem reads_eq
    {capacity : Nat}
    (hCapacity : 0 < capacity)
    (s : LiveStream)
    (n : Nat) :
    let arrivals := s.source.arrivals capacity
    s.reads capacity n =
      arrivals.take n ++
        List.replicate (n - arrivals.length) (.ok []) := by
  intro arrivals
  induction n generalizing s with
  | zero => simp [reads]
  | succ n ih =>
      rcases s.read_spec capacity with ⟨hFirst, hRest⟩
      have hLater := ih (s.read capacity).2
      rw [hRest] at hLater
      rw [reads, hLater, hFirst]
      rcases ByteSource.arrivals_eq_read hCapacity s.source
        with hMore | ⟨hNone, hRead⟩
      · simp only [arrivals]
        rw [hMore, List.take_succ_cons, List.length_cons,
          Nat.add_sub_add_right, List.cons_append]
      · simp only [arrivals]
        rw [hNone, hRead]
        simp [ByteSource.arrivals, List.replicate_succ]

end LiveStream

------------------------------------------------------------
-- Requests
------------------------------------------------------------

/- A scanner that was cleared has nothing to hand out. -/
theorem Scanner.next_clear
    (s : Scanner) :
    s.clear.next = (none, s.clear) := by
  have hNone :
      s.clear.state.look s.clear.buffer =
        .waiting s.clear.buffer s.clear.state := by
    rfl
  have hExtract :=
    FrameSearch.extract_of_look_waiting hNone
  simp only [next, hExtract]

namespace Puller

variable {σ : Type}

/-
  What may be asked of a puller: one frame, all frames or at
  most a number of them, and to close.
-/
inductive Event where
| next
| frames (most : Option Nat)
| close
deriving DecidableEq, Repr

/- Let one event happen: the frames that it hands out. -/
def step
    (p : Puller σ) : Event → List ScannedFrame × Puller σ
| .next =>
    match p.nextFrame with
    | (f, after) => (f.toList, after)
| .frames none => p.frames
| .frames (some n) => p.framesUpTo n
| .close => ([], p.close)

/-
  A call of the event returned nothing, when it handed these
  frames out.
-/
def Event.SawNone
    (e : Event)
    (fs : List ScannedFrame) : Prop :=
  match e with
  | .next => fs = []
  | .frames none => True
  | .frames (some n) => fs.length < n
  | .close => False

/- The puller after all events. -/
def after
    (p : Puller σ)
    (es : List Event) : Puller σ :=
  es.foldl (fun p e => (p.step e).2) p

/- The frames that are handed out in a run. -/
def delivered
    (p : Puller σ) : List Event → List ScannedFrame
| [] => []
| e :: es => (p.step e).1 ++ (p.step e).2.delivered es

/- The puller after a run and one more event. -/
theorem after_concat
    (p : Puller σ)
    (es : List Event)
    (e : Event) :
    p.after (es ++ [e]) = ((p.after es).step e).2 := by
  simp [after]

/- The frames of a run and one more event. -/
theorem delivered_concat
    (p : Puller σ)
    (es : List Event)
    (e : Event) :
    p.delivered (es ++ [e]) =
      p.delivered es ++ ((p.after es).step e).1 := by
  induction es generalizing p with
  | nil => simp [delivered, after]
  | cons e' es ih =>
      rw [List.cons_append, delivered, delivered, ih,
        List.append_assoc]
      rfl

/-
  Some frames are handed out one after another.  The last
  flag says whether a call returned nothing in the end.
-/
inductive Draws :
    Puller σ → List ScannedFrame → Puller σ → Bool →
      Prop where
| stopped (p : Puller σ) :
    Draws p [] p false
| ended {p after : Puller σ}
    (hNext : p.nextFrame = (none, after)) :
    Draws p [] after true
| drawn {p q after : Puller σ}
    {f : ScannedFrame}
    {fs : List ScannedFrame}
    {isEnd : Bool}
    (hNext : p.nextFrame = (some f, q))
    (hRest : Draws q fs after isEnd) :
    Draws p (f :: fs) after isEnd

/- All frames are drawn, until a call returns nothing. -/
theorem draws_frames
    (p : Puller σ) :
    Draws p p.frames.1 p.frames.2 true := by
  fun_induction frames p with
  | case1 p after hNext => exact .ended hNext
  | case2 p f after hNext r ih => exact .drawn hNext ih

/-
  Frames are drawn up to a number of them.  When there are
  fewer, a call returned nothing.
-/
theorem draws_framesUpTo
    (p : Puller σ)
    (n : Nat) :
    ∃ isEnd,
      Draws p (p.framesUpTo n).1 (p.framesUpTo n).2 isEnd ∧
        ((p.framesUpTo n).1.length < n → isEnd = true) := by
  fun_induction framesUpTo p n with
  | case1 p =>
      refine ⟨false, .stopped p, ?_⟩
      intro hLess
      simp at hLess
  | case2 p n after hNext =>
      exact ⟨true, .ended hNext, fun _ => rfl⟩
  | case3 p n f after hNext r ih =>
      rcases ih with ⟨isEnd, hDraws, hEnd⟩
      refine ⟨isEnd, .drawn hNext hDraws, ?_⟩
      intro hLess
      apply hEnd
      exact Nat.lt_of_succ_lt_succ hLess

/- Every event but closing draws frames. -/
theorem draws_step
    (p : Puller σ)
    {e : Event}
    (hClose : e ≠ .close) :
    ∃ isEnd,
      Draws p (p.step e).1 (p.step e).2 isEnd ∧
        (e.SawNone (p.step e).1 → isEnd = true) := by
  cases e with
  | next =>
      cases hNext : p.nextFrame with
      | mk found after =>
          simp only [step, hNext]
          cases found with
          | none => exact ⟨true, .ended hNext, fun _ => rfl⟩
          | some f =>
              refine
                ⟨false, .drawn hNext (.stopped after), ?_⟩
              intro hNone
              cases hNone
  | frames most =>
      cases most with
      | none =>
          exact ⟨true, p.draws_frames, fun _ => rfl⟩
      | some n => exact p.draws_framesUpTo n
  | close => exact absurd rfl hClose

------------------------------------------------------------
-- Over For Good
------------------------------------------------------------

/-
  A puller is over in all of its parts: it is closed, its
  reader is at the end and holds nothing, and its stream was
  let go of.
-/
structure IsOver
    (p : Puller σ) : Prop where
  closed : p.closed = true
  ended : p.reader.ended = true
  emptied : p.reader.scanner.clear = p.reader.scanner
  released : p.reader.pending = []

/- The same puller with other reads ahead. -/
def facing
    (p : Puller σ)
    (pending : List Arrival) : Puller σ :=
  { p with reader := { p.reader with pending := pending } }

/- To close a puller that is open is the end of it. -/
theorem isOver_close
    {p : Puller σ}
    (hOpen : p.closed = false) :
    p.close.IsOver := by
  rw [close, hOpen]
  exact ⟨rfl, rfl, rfl, rfl⟩

/- To close a puller does not change its counts. -/
theorem stats_close
    (p : Puller σ) :
    p.close.stats = p.stats := by
  unfold close
  split
  · rfl
  · rfl

section Over

variable {p : Puller σ}

/- A closed puller hands nothing out and stays as it is. -/
theorem nextFrame_of_closed
    (hClosed : p.closed = true) :
    p.nextFrame = (none, p) :=
  if_pos hClosed

/- Nothing is drawn from a closed puller. -/
theorem Draws.of_closed
    {fs : List ScannedFrame}
    {after : Puller σ}
    {isEnd : Bool}
    (hDraws : Draws p fs after isEnd)
    (hClosed : p.closed = true) :
    fs = [] ∧ after = p := by
  cases hDraws with
  | stopped => exact ⟨rfl, rfl⟩
  | ended hNext =>
      rw [nextFrame_of_closed hClosed] at hNext
      cases hNext
      exact ⟨rfl, rfl⟩
  | drawn hNext _ =>
      rw [nextFrame_of_closed hClosed] at hNext
      cases hNext

/- No event changes a closed puller, not even closing. -/
theorem step_of_closed
    (hClosed : p.closed = true)
    (e : Event) :
    p.step e = ([], p) := by
  by_cases hClose : e = .close
  · subst hClose
    rw [step, close, if_pos hClosed]
  · rcases p.draws_step hClose with ⟨_, hDraws, _⟩
    rcases hDraws.of_closed hClosed with ⟨hNone, hSame⟩
    exact Prod.ext hNone hSame

/- No run changes a closed puller. -/
theorem run_of_closed
    (hClosed : p.closed = true)
    (es : List Event) :
    p.after es = p ∧ p.delivered es = [] := by
  induction es with
  | nil => exact ⟨rfl, rfl⟩
  | cons e es ih =>
      have hStep := step_of_closed hClosed e
      rw [after, List.foldl_cons, delivered, hStep]
      exact ⟨ih.1, ih.2⟩

/-
  A puller that is over does nothing more, whatever would
  lie ahead, and its reader would not either.
-/
theorem IsOver.stays
    (hOver : p.IsOver)
    (pending : List Arrival) :
    let q := p.facing pending
    (∀ es, q.after es = q ∧ q.delivered es = []) ∧
      q.reader.read = (.ok none, q.reader) := by
  intro q
  refine ⟨run_of_closed hOver.closed, ?_⟩
  have hNext : q.reader.scanner.next =
      (none, q.reader.scanner) := by
    have hClear := p.reader.scanner.next_clear
    rw [hOver.emptied] at hClear
    exact hClear
  have hEnded : q.reader.ended = true := hOver.ended
  rw [FrameReader.read, hNext]
  exact if_pos hEnded

end Over

------------------------------------------------------------
-- What Was Handed Out
------------------------------------------------------------

/-
  Where a puller stands when these frames were handed out of
  all that are due: the others are outstanding, or it is
  over.  Then all were handed out, unless it was cut short.
-/
inductive Stands
    (due delivered : List ScannedFrame)
    (IsCut : Prop)
    (p : Puller σ) : Prop where
| serving
    (hOpen : p.closed = false)
    (hSound : p.reader.Sound)
    (hDue : due = delivered ++ p.reader.outstanding)
| ended
    (hOver : p.IsOver)
    (hSome : delivered <+: due)
    (hAll : ¬ IsCut → delivered = due)

section Ledger

variable {due delivered : List ScannedFrame}
variable {IsCut : Prop} {p : Puller σ}

/- No more was handed out than is due. -/
theorem Stands.delivered_in_order
    (hStands : Stands due delivered IsCut p) :
    delivered <+: due := by
  cases hStands with
  | serving _ _ hDue =>
      rw [hDue]
      exact List.prefix_append _ _
  | ended _ hSome _ => exact hSome

/- All was handed out when a puller ended by itself. -/
theorem Stands.delivered_eq
    (hStands : Stands due delivered IsCut p)
    (hOver : p.IsOver)
    (hNot : ¬ IsCut) :
    delivered = due := by
  cases hStands with
  | serving hOpen _ _ =>
      rw [hOver.closed] at hOpen
      cases hOpen
  | ended _ _ hAll => exact hAll hNot

/- It does no harm to take a puller for cut short. -/
theorem Stands.cut
    {IsCut' : Prop}
    (hStands : Stands due delivered IsCut p)
    (hCut : IsCut → IsCut') :
    Stands due delivered IsCut' p := by
  cases hStands with
  | serving hOpen hSound hDue =>
      exact .serving hOpen hSound hDue
  | ended hOver hSome hAll =>
      exact .ended hOver hSome (fun hNot => hAll (hNot ∘ hCut))

/- A call without a frame closes an open puller. -/
theorem nextFrame_of_frame?_none
    {result : ReadResult}
    {reader : FrameReader}
    (hOpen : p.closed = false)
    (hRead : p.reader.read = (result, reader))
    (hNone : result.frame? = none) :
    p.nextFrame =
      (none,
        ({ p with reader := reader } : Puller σ).close) := by
  cases result with
  | error e => simp [Puller.nextFrame, hOpen, hRead]
  | ok found =>
      cases found with
      | none => simp [Puller.nextFrame, hOpen, hRead]
      | some f => cases hNone

/- A call hands out the next frame, or the puller is over. -/
theorem Stands.nextFrame
    (hStands : Stands due delivered IsCut p) :
    Stands due (delivered ++ p.nextFrame.1.toList) IsCut
        p.nextFrame.2 ∧
      (p.nextFrame.1 = none → p.nextFrame.2.IsOver) := by
  cases hStands with
  | ended hOver hSome hAll =>
      rw [nextFrame_of_closed hOver.closed,
        Option.toList_none, List.append_nil]
      exact ⟨.ended hOver hSome hAll, fun _ => hOver⟩
  | serving hOpen hSound hDue =>
      have hDelivers := FrameReader.delivers_read hSound
      cases hRead : p.reader.read with
      | mk result reader =>
          rw [hRead] at hDelivers
          cases hDelivers with
          | @frame f _ hFirst hAfter =>
              have hNext :
                  p.nextFrame =
                    (some f, { p with reader := reader }) := by
                simp [Puller.nextFrame, hOpen, hRead]
              rw [hNext]
              refine ⟨.serving hOpen hAfter ?_, by simp⟩
              rw [hDue, hFirst, Option.toList_some,
                List.append_assoc, List.singleton_append]
          | nothing hResult hNone =>
              rw [nextFrame_of_frame?_none hOpen hRead hResult,
                Option.toList_none, List.append_nil]
              rw [hNone, List.append_nil] at hDue
              have hOver :=
                isOver_close
                  (p := { p with reader := reader }) hOpen
              refine ⟨.ended hOver ?_ ?_, fun _ => hOver⟩
              · subst hDue
                exact List.prefix_refl _
              · exact fun _ => hDue.symm

/- Draws hand out the next frames. -/
theorem Stands.of_draws
    {fs : List ScannedFrame}
    {after : Puller σ}
    {isEnd : Bool}
    (hDraws : Draws p fs after isEnd)
    (hStands : Stands due delivered IsCut p) :
    Stands due (delivered ++ fs) IsCut after ∧
      (isEnd = true → after.IsOver) := by
  induction hDraws generalizing delivered with
  | stopped p =>
      rw [List.append_nil]
      exact ⟨hStands, by simp⟩
  | ended hNext =>
      have hStep := hStands.nextFrame
      rw [hNext, Option.toList_none] at hStep
      exact ⟨hStep.1, fun _ => hStep.2 rfl⟩
  | drawn hNext hRest ih =>
      have hStep := hStands.nextFrame.1
      rw [hNext, Option.toList_some] at hStep
      have hLater := ih hStep
      rw [List.append_assoc, List.singleton_append]
        at hLater
      exact hLater

/- To close a puller cuts it short. -/
theorem Stands.close
    (hStands : Stands due delivered IsCut p) :
    Stands due delivered True p.close ∧ p.close.IsOver := by
  cases hStands with
  | serving hOpen _ hDue =>
      have hOver := isOver_close hOpen
      refine ⟨.ended hOver ?_ (absurd trivial), hOver⟩
      rw [hDue]
      exact List.prefix_append _ _
  | ended hOver hSome _ =>
      have hSame : p.close = p := if_pos hOver.closed
      rw [hSame]
      exact ⟨.ended hOver hSome (absurd trivial), hOver⟩

/-
  An event hands out the next frames.  When it is to close,
  or a call of it returns nothing, the puller is over.
-/
theorem Stands.step
    (hStands : Stands due delivered IsCut p)
    (e : Event) :
    Stands due (delivered ++ (p.step e).1)
        (IsCut ∨ e = .close) (p.step e).2 ∧
      (e = .close ∨ e.SawNone (p.step e).1 →
        (p.step e).2.IsOver) := by
  by_cases hClose : e = .close
  · subst hClose
    rcases hStands.close with ⟨hAfter, hOver⟩
    rw [Puller.step, List.append_nil]
    exact
      ⟨hAfter.cut (fun _ => Or.inr rfl), fun _ => hOver⟩
  · rcases p.draws_step hClose with ⟨isEnd, hDraws, hEnd⟩
    rcases hStands.of_draws hDraws with ⟨hAfter, hOver⟩
    refine ⟨hAfter.cut Or.inl, ?_⟩
    intro hLast
    apply hOver
    exact hEnd (hLast.resolve_left hClose)

/- A run hands out the frames that are due, in order. -/
theorem Stands.run
    (hStands : Stands due [] False p)
    (es : List Event) :
    Stands due (p.delivered es) (.close ∈ es)
      (p.after es) := by
  induction es using List.reverseRecOn with
  | nil => exact hStands.cut False.elim
  | append_singleton es e ih =>
      rw [delivered_concat, after_concat]
      apply (ih.step e).1.cut
      rw [List.mem_append, List.mem_singleton]
      exact Or.imp_right Eq.symm

end Ledger

------------------------------------------------------------
-- Streams
------------------------------------------------------------

/-
  A puller hands out the frames of all bytes in front of the
  first end and the first failure of its stream, numbered
  from zero, however it is asked.  Once a call returned
  nothing or it was closed, it hands out nothing, reads
  nothing, and its counts stay as they are.
-/
theorem delivers_until_over
    (stream : LiveStream)
    (limit chunkSize : Nat)
    (decoder : Decoder σ)
    (hFits :
      ∀ frame ∈ Marked.frames stream.source.received,
        frame.length ≤ limit) :
    let p := ofStream stream limit chunkSize decoder
    let due :=
      numbered 0 (Marked.frames stream.source.received)
    (∀ n,
      stream.reads (max chunkSize 1) n =
          p.reader.pending.take n ++
            List.replicate (n - p.reader.pending.length)
              (.ok []) ∧
        stream.close.reads (max chunkSize 1) n =
          List.replicate n (.ok [])) ∧
    (∀ es, p.delivered es <+: due) ∧
    (∀ es e, .close ∉ es →
      e.SawNone ((p.after es).step e).1 →
        p.delivered (es ++ [e]) = due) ∧
    (∀ es e,
      e = .close ∨ e.SawNone ((p.after es).step e).1 →
        let q := p.after (es ++ [e])
        q.IsOver ∧
          (e = .close → q.stats = (p.after es).stats) ∧
          ∀ pending,
            let r := q.facing pending
            (∀ later,
              r.after later = r ∧ r.delivered later = []) ∧
              r.reader.read = (.ok none, r.reader)) := by
  intro p due
  rcases FrameReader.sound_ofSource chunkSize hFits with
    ⟨hSound, hDue⟩
  have hStands : Stands due [] False p :=
    .serving rfl hSound hDue.symm
  have hCapacity : 0 < max chunkSize 1 := by omega
  refine ⟨?_, ?_, ?_, ?_⟩
  · intro n
    refine ⟨stream.reads_eq hCapacity n, ?_⟩
    rw [stream.close.reads_eq hCapacity n]
    simp [LiveStream.source, LiveStream.close,
      ByteSource.arrivals]
  · intro es
    exact (hStands.run es).delivered_in_order
  · intro es e hClose hNone
    rcases (hStands.run es).step e with ⟨hAfter, hOver⟩
    rw [delivered_concat]
    apply hAfter.delivered_eq (hOver (Or.inr hNone))
    rintro (hEarlier | rfl)
    · exact hClose hEarlier
    · exact hNone
  · intro es e hLast q
    have hOver : q.IsOver := by
      simp only [q, after_concat]
      exact ((hStands.run es).step e).2 hLast
    refine ⟨hOver, ?_, hOver.stays⟩
    rintro rfl
    simp only [q, after_concat]
    exact stats_close _

/-
  A read fails inside of a frame that is too large already.
  The frame in front of it is handed out, although a read
  was interrupted inside of it, and the bytes behind the
  failure are not received.  A puller that is closed before
  it was asked hands out nothing.
-/
theorem delivers_until_over_failed :
    let source : ByteSource :=
      [.data [7, 0xFF, 0xD8, 1],
        .fail ⟨.interrupted, "signal"⟩,
        .data [0xFF, 0xD9, 0xFF, 0xD8, 2, 3, 4, 5],
        .fail ⟨.connectionReset, "reset"⟩,
        .data [0xFF, 0xD8, 6, 0xFF, 0xD9]]
    let stream := LiveStream.ofSource .reader "tape" source
    let p := ofStream stream 5 4 .identity
    let es : List Event := [.frames (some 1)]
    (∀ frame ∈ Marked.frames stream.source.received,
        frame.length ≤ 5) ∧
      p.delivered (es ++ [.next]) =
        [⟨0, [0xFF, 0xD8, 1, 0xFF, 0xD9]⟩] ∧
      (p.after (es ++ [.next])).IsOver ∧
      (p.after [.close]).IsOver ∧
      p.delivered [.close, .frames none] = [] := by
  intro source stream p es
  have hFits :
      ∀ frame ∈ Marked.frames stream.source.received,
        frame.length ≤ 5 := by
    decide +kernel
  rcases delivers_until_over stream 5 4 .identity hFits with
    ⟨_, _, hAll, hOver⟩
  have hNone :
      Event.SawNone .next ((p.after es).step .next).1 := by
    change ((p.after es).step .next).1 = []
    decide +kernel
  refine ⟨hFits, ?_, (hOver es .next (Or.inr hNone)).1, ?_⟩
  · rw [hAll es .next (by decide) hNone]
    decide +kernel
  · rcases hOver [] .close (Or.inl rfl) with
      ⟨hClosed, _, hStays⟩
    refine ⟨hClosed, ?_⟩
    exact ((hStays []).1 [.frames none]).2

end Puller

end Reframe
