import Reframe.Feedback.Dispatcher
import Mathlib.Data.List.Count
import Mathlib.Data.List.Induction

/-
  No request is lost in a dispatcher: whatever the order in
  which requests are made, the worker takes its turns and
  the dispatcher is closed, a request that was accepted is
  followed by a delivery from its start to its end, before
  the worker stops.

  The proofs read what happened in a run off its events and
  relate it to the state in which the run ends.

  Main declarations:
    * `Dispatcher.history`
    * `Dispatcher.move`
    * `Dispatcher.exists_moment`
    * `Dispatcher.Agrees`
    * `Dispatcher.workLeft`
    * `Dispatcher.coalescing_loses_nothing`
-/

namespace Reframe

namespace Dispatcher

------------------------------------------------------------
-- Histories
------------------------------------------------------------

/- What can be seen of a dispatcher and its worker. -/
inductive Happening where
/- A request was answered. -/
| answered (answer : RequestAnswer)
/- The worker took the request of the queue. -/
| started
/- The delivery under way ended. -/
| ended (outcome : DeliveryEnd)
/-
  Nothing was left to do, and the worker stopped.  This is
  what shutting down waits for.
-/
| stopped
deriving DecidableEq, Repr

/- A delivery starts or ends. -/
def Happening.IsOfDelivery : Happening → Prop
| .started => True
| .ended _ => True
| _ => False

/- No delivery starts or ends. -/
def Quiet
    (h : List Happening) : Prop :=
  ∀ x ∈ h, ¬ x.IsOfDelivery

/- A delivery ends. -/
def Happening.isEnd : Happening → Bool
| .ended _ => true
| _ => false

/- What an event brings about, if it does anything. -/
def happening
    (d : Dispatcher) : Event → Option Happening
| .request => some (.answered d.request.1)
| .receive =>
    if d.worker = .idle then
      match d.receive.worker with
      | .idle => none
      | .delivering => some .started
      | .stopped => some .stopped
    else none
| .finish outcome =>
    if d.worker = .delivering then some (.ended outcome)
    else none
| .close => none

/- The dispatcher after all events. -/
def after
    (d : Dispatcher)
    (es : List Event) : Dispatcher :=
  es.foldl (fun d e => (d.step e).2) d

/- All that happens along events. -/
def history
    (d : Dispatcher) : List Event → List Happening
| [] => []
| e :: es => (d.happening e).toList ++ history (d.step e).2 es

@[simp]
theorem after_nil
    (d : Dispatcher) : d.after [] = d := rfl

@[simp]
theorem after_cons
    (d : Dispatcher)
    (e : Event)
    (es : List Event) :
    d.after (e :: es) = (d.step e).2.after es := rfl

theorem after_append
    (d : Dispatcher)
    (es es' : List Event) :
    d.after (es ++ es') = (d.after es).after es' := by
  simp [after]

theorem after_concat
    (d : Dispatcher)
    (es : List Event)
    (e : Event) :
    d.after (es ++ [e]) = ((d.after es).step e).2 := by
  simp [after]

theorem history_append
    (d : Dispatcher)
    (es es' : List Event) :
    d.history (es ++ es') =
      d.history es ++ (d.after es).history es' := by
  induction es generalizing d with
  | nil => rfl
  | cons e es ih =>
      simp only [List.cons_append, history, ih, after_cons,
        List.append_assoc]

theorem history_concat
    (d : Dispatcher)
    (es : List Event)
    (e : Event) :
    d.history (es ++ [e]) =
      d.history es ++ ((d.after es).happening e).toList := by
  simp [history_append, history]

/-
  What happened in a run happened at some moment: of the
  rest, some came of the events before and some of those
  after it.
-/
theorem exists_moment
    {d : Dispatcher}
    {es : List Event}
    {before later : List Happening}
    {x : Happening}
    (hHistory : d.history es = before ++ x :: later) :
    ∃ es₁ e es₂,
      es = es₁ ++ e :: es₂ ∧
        d.history es₁ = before ∧
          (d.after es₁).happening e = some x ∧
            ((d.after es₁).step e).2.history es₂ = later := by
  induction es generalizing d before with
  | nil => simp [history] at hHistory
  | cons e es ih =>
      rw [history] at hHistory
      by_cases hNow :
          before = [] ∧ d.happening e = some x
      · rcases hNow with ⟨rfl, hSeen⟩
        rw [hSeen] at hHistory
        exact
          ⟨[], e, es, rfl, rfl, hSeen,
            (List.cons.inj hHistory).2⟩
      · have hFirst :
            ∃ rest,
              before = (d.happening e).toList ++ rest := by
          cases hSeen : d.happening e with
          | none => exact ⟨before, rfl⟩
          | some y =>
              cases before with
              | nil =>
                  rw [hSeen] at hHistory
                  rw [hSeen, (List.cons.inj hHistory).1]
                    at hNow
                  exact absurd ⟨rfl, rfl⟩ hNow
              | cons z rest =>
                  rw [hSeen] at hHistory
                  exact
                    ⟨rest,
                      congrArg (· :: rest)
                        (List.cons.inj hHistory).1.symm⟩
        rcases hFirst with ⟨rest, rfl⟩
        rw [List.append_assoc, List.append_cancel_left_eq]
          at hHistory
        rcases ih hHistory with
          ⟨es₁, e', es₂, rfl, rfl, hAt, hLater⟩
        exact ⟨e :: es₁, e', es₂, rfl, rfl, hAt, hLater⟩

------------------------------------------------------------
-- Moves
------------------------------------------------------------

/- All that one event can do to a dispatcher. -/
inductive Move
    (d : Dispatcher) :
    Event → Option Happening → Dispatcher → Prop where
| accepted
    (hOpen : d.isOpen = true)
    (hWorker : d.worker ≠ .stopped) :
    Move d .request (some (.answered .accepted))
      { d with queued := true }
| refused
    (hRefuses : d.isOpen = false ∨ d.worker = .stopped) :
    Move d .request (some (.answered .closed)) d
| started
    (hIdle : d.worker = .idle)
    (hQueued : d.queued = true) :
    Move d .receive (some .started)
      { d with queued := false, worker := .delivering }
| stopped
    (hIdle : d.worker = .idle)
    (hEmpty : d.queued = false)
    (hClosed : d.isOpen = false) :
    Move d .receive (some .stopped)
      { d with worker := .stopped }
| waited
    (hWaits :
      d.worker = .idle →
        d.queued = false ∧ d.isOpen = true) :
    Move d .receive none d
| delivered
    (hDelivering : d.worker = .delivering) :
    Move d (.finish .delivered) (some (.ended .delivered))
      { d with
        worker := .idle
        delivered := d.delivered + 1 }
| failed
    (hDelivering : d.worker = .delivering) :
    Move d (.finish .failed) (some (.ended .failed))
      { d with worker := .idle, failed := d.failed + 1 }
| crashed
    (hDelivering : d.worker = .delivering) :
    Move d (.finish .crashed) (some (.ended .crashed))
      { d with worker := .stopped, queued := false }
| nothing
    {outcome : DeliveryEnd}
    (hWorker : d.worker ≠ .delivering) :
    Move d (.finish outcome) none d
| closed :
    Move d .close none { d with isOpen := false }

/- Every event does one of these things. -/
theorem move
    (d : Dispatcher)
    (e : Event) :
    d.Move e (d.happening e) (d.step e).2 := by
  cases e with
  | request =>
      by_cases hRefuses :
          d.isOpen = false ∨ d.worker = .stopped
      · simpa [happening, step, request, hRefuses] using
          Move.refused hRefuses
      · have hTakes := not_or.mp hRefuses
        simpa [happening, step, request, hRefuses] using
          Move.accepted (Bool.of_not_eq_false hTakes.1)
            hTakes.2
  | receive =>
      by_cases hIdle : d.worker = .idle
      · cases hQueued : d.queued with
        | true =>
            simpa [happening, step, receive, hIdle, hQueued]
              using Move.started hIdle hQueued
        | false =>
            cases hOpen : d.isOpen with
            | true =>
                simpa [happening, step, receive, hIdle,
                  hQueued, hOpen] using
                  Move.waited fun _ => ⟨hQueued, hOpen⟩
            | false =>
                simpa [happening, step, receive, hIdle,
                  hQueued, hOpen] using
                  Move.stopped hIdle hQueued hOpen
      · simpa [happening, step, receive, hIdle] using
          Move.waited fun hIdle' => absurd hIdle' hIdle
  | finish outcome =>
      by_cases hDelivering : d.worker = .delivering
      · cases outcome with
        | delivered =>
            simpa [happening, step, finish, hDelivering] using
              Move.delivered hDelivering
        | failed =>
            simpa [happening, step, finish, hDelivering] using
              Move.failed hDelivering
        | crashed =>
            simpa [happening, step, finish, hDelivering] using
              Move.crashed hDelivering
      · simpa [happening, step, finish, hDelivering] using
          Move.nothing hDelivering
  | close => exact .closed

/- What is seen of an event is what it did. -/
theorem move_of_happening
    {d : Dispatcher}
    {e : Event}
    {x : Happening}
    (hSeen : d.happening e = some x) :
    d.Move e (some x) (d.step e).2 := by
  rw [← hSeen]
  exact d.move e

section Move

variable {d d' : Dispatcher} {e : Event}
variable {x : Option Happening}

/- Only closing a dispatcher changes whether it is open. -/
theorem Move.isOpen_eq_false
    (hMove : d.Move e x d') :
    d'.isOpen = false ↔ d.isOpen = false ∨ .close = e := by
  cases hMove <;> simp

/- A delivery takes the request out of the queue. -/
theorem Move.count_started_le
    (hMove : d.Move e x d') :
    x.toList.count .started + d'.queued.toNat ≤
      d.queued.toNat +
        x.toList.count (.answered .accepted) := by
  cases hMove <;> simp_all

/- A worker that has stopped does nothing more. -/
theorem Move.of_stopped
    (hMove : d.Move e x d')
    (hStopped : d.worker = .stopped) :
    d'.worker = .stopped ∧
      d'.delivered = d.delivered ∧
        d'.failed = d.failed ∧ x ≠ some .started := by
  cases hMove <;> simp_all

/- A request leaves the queue if a delivery starts. -/
theorem Move.of_queued
    (hMove : d.Move e x d')
    (hQueued : d.queued = true)
    (hCrash : x ≠ some (.ended .crashed)) :
    x = some .started ∨ d'.queued = true := by
  cases hMove <;> simp_all

/- A delivery under way can only end. -/
theorem Move.of_delivering
    (hMove : d.Move e x d')
    (hDelivering : d.worker = .delivering) :
    (∃ outcome, x = some (.ended outcome)) ∨
      d'.worker = .delivering ∧ Quiet x.toList := by
  cases hMove <;> simp_all [Quiet, Happening.IsOfDelivery]

/- A request is accepted for a worker that has not ended. -/
theorem Move.queued_of_accepted
    (hMove : d.Move e (some (.answered .accepted)) d') :
    d.worker ≠ .stopped ∧ d'.queued = true := by
  cases hMove with
  | accepted hOpen hWorker => exact ⟨hWorker, rfl⟩

/- A delivery that starts is under way. -/
theorem Move.delivering_of_started
    (hMove : d.Move e (some .started) d') :
    d'.worker = .delivering := by
  cases hMove with
  | started hIdle hQueued => rfl

/- A worker stops when it has nothing to do. -/
theorem Move.idle_of_stopped
    (hMove : d.Move e (some .stopped) d') :
    d.worker = .idle ∧ d.queued = false := by
  cases hMove with
  | stopped hIdle hEmpty hClosed => exact ⟨hIdle, hEmpty⟩

end Move

------------------------------------------------------------
-- Counts
------------------------------------------------------------

/- The worker has a delivery under way. -/
def inFlight
    (d : Dispatcher) : Nat :=
  if d.worker = .delivering then 1 else 0

/-
  What happened agrees with the state it led to: the counts,
  the delivery under way, and whether the worker stopped.
-/
structure Agrees
    (h : List Happening)
    (d : Dispatcher) : Prop where
  delivered_eq : d.delivered = h.count (.ended .delivered)
  failed_eq : d.failed = h.count (.ended .failed)
  started_eq :
    h.count .started = h.countP Happening.isEnd + d.inFlight
  stopped_iff :
    d.worker = .stopped ↔
      .stopped ∈ h ∨ .ended .crashed ∈ h
  isOpen_of_stopped : .stopped ∈ h → d.isOpen = false

/- Nothing has happened to a new dispatcher. -/
theorem agrees_nil : Agrees [] {} := by
  constructor <;> simp [inFlight]

/- One more move is agreed on. -/
theorem Agrees.move
    {h : List Happening}
    {d d' : Dispatcher}
    {e : Event}
    {x : Option Happening}
    (hAgrees : Agrees h d)
    (hMove : d.Move e x d') :
    Agrees (h ++ x.toList) d' := by
  rcases hAgrees with
    ⟨hDelivered, hFailed, hStarted, hStopped, hShut⟩
  -- Each side of a field gains the same from each move.
  cases hMove <;> constructor <;>
    simp_all [inFlight, Happening.isEnd]

/- Every run is agreed on. -/
theorem agrees_after
    (es : List Event) :
    Agrees (history {} es) (after {} es) := by
  induction es using List.reverseRecOn with
  | nil => exact agrees_nil
  | append_singleton es e ih =>
      rw [history_concat, after_concat]
      exact ih.move ((after {} es).move e)

/- Requests are taken until the dispatcher is closed. -/
theorem isOpen_after_eq_false
    (d : Dispatcher)
    (es : List Event) :
    (d.after es).isOpen = false ↔
      d.isOpen = false ∨ .close ∈ es := by
  induction es generalizing d with
  | nil => simp
  | cons e es ih =>
      rw [after_cons, ih, (d.move e).isOpen_eq_false,
        List.mem_cons, or_assoc]

/-
  A delivery takes a request out of the queue, where there
  was one at the beginning or it was accepted since.
-/
theorem count_started_le
    (d : Dispatcher)
    (es : List Event) :
    (d.history es).count .started +
        (d.after es).queued.toNat ≤
      d.queued.toNat +
        (d.history es).count (.answered .accepted) := by
  induction es generalizing d with
  | nil => simp [history]
  | cons e es ih =>
      have hStep := (d.move e).count_started_le
      have hRest := ih (d.step e).2
      simp only [history, List.count_append, after_cons]
      omega

/- A worker that has stopped leaves everything as it is. -/
theorem after_of_stopped
    {d : Dispatcher}
    (hStopped : d.worker = .stopped)
    (es : List Event) :
    (d.after es).worker = .stopped ∧
      (d.after es).delivered = d.delivered ∧
        (d.after es).failed = d.failed ∧
          .started ∉ d.history es := by
  induction es generalizing d with
  | nil => simp [hStopped, history]
  | cons e es ih =>
      rcases (d.move e).of_stopped hStopped with
        ⟨hWorker, hDelivered, hFailed, hSeen⟩
      rcases ih hWorker with
        ⟨hWorker', hDelivered', hFailed', hSeen'⟩
      rw [after_cons]
      refine
        ⟨hWorker', hDelivered'.trans hDelivered,
          hFailed'.trans hFailed, ?_⟩
      simp [history, hSeen, hSeen']

------------------------------------------------------------
-- Requests And Their Deliveries
------------------------------------------------------------

/-
  A delivery starts, and it ends before anything else is
  done with deliveries.  The rest happens after its end.
-/
def Delivers
    (h rest : List Happening) : Prop :=
  ∃ waiting during outcome,
    h =
        waiting ++ .started ::
          (during ++ .ended outcome :: rest) ∧
      Quiet during

/- A request in the queue stays there until it is taken. -/
theorem started_or_queued
    {d : Dispatcher}
    (hQueued : d.queued = true)
    (es : List Event)
    (hCrash : .ended .crashed ∉ d.history es) :
    .started ∈ d.history es ∨ (d.after es).queued = true := by
  induction es generalizing d with
  | nil => exact .inr hQueued
  | cons e es ih =>
      rw [history, List.mem_append, Option.mem_toList,
        not_or] at hCrash
      rw [history, List.mem_append]
      rcases (d.move e).of_queued hQueued hCrash.1 with
        hStarted | hStays
      · rw [hStarted]
        exact .inl (.inl (List.mem_singleton_self _))
      · rcases ih hStays hCrash.2 with hLater | hEnd
        · exact .inl (.inr hLater)
        · exact .inr hEnd

/-
  A delivery under way ends before anything else is done
  with deliveries, or it still is under way.
-/
theorem ended_or_delivering
    {d : Dispatcher}
    (hDelivering : d.worker = .delivering)
    (es : List Event) :
    (d.after es).worker = .delivering ∨
      ∃ during outcome rest,
        d.history es = during ++ .ended outcome :: rest ∧
          Quiet during := by
  induction es generalizing d with
  | nil => exact .inl hDelivering
  | cons e es ih =>
      rw [history, after_cons]
      rcases (d.move e).of_delivering hDelivering with
        ⟨outcome, hEnded⟩ | ⟨hStays, hQuiet⟩
      · rw [hEnded]
        exact
          .inr ⟨[], outcome, _, rfl, List.forall_mem_nil _⟩
      · rcases ih hStays with
          hEnd | ⟨during, outcome, rest, hLater, hDuring⟩
        · exact .inl hEnd
        · rw [hLater, ← List.append_assoc]
          refine .inr ⟨_, outcome, rest, rfl, ?_⟩
          exact List.forall_mem_append.mpr ⟨hQuiet, hDuring⟩

/- A delivery that started is under way, or it has ended. -/
theorem delivers_of_started
    {d : Dispatcher}
    {es : List Event}
    (hStarted : .started ∈ d.history es)
    (hWorker : (d.after es).worker ≠ .delivering) :
    ∃ rest, Delivers (d.history es) rest := by
  rcases List.append_of_mem hStarted with
    ⟨waiting, later, hSplit⟩
  rcases exists_moment hSplit with
    ⟨es₁, e, es₂, rfl, rfl, hAt, rfl⟩
  have hDelivering :=
    (move_of_happening hAt).delivering_of_started
  rw [after_append, after_cons] at hWorker
  rcases ended_or_delivering hDelivering es₂ with
    hStill | ⟨during, outcome, rest, hLater, hQuiet⟩
  · exact absurd hStill hWorker
  · rw [hLater] at hSplit
    exact ⟨rest, _, during, outcome, hSplit, hQuiet⟩

/-
  If the worker has become idle with an empty queue, it has
  delivered the request that was in the queue.
-/
theorem delivers_of_queued
    {d : Dispatcher}
    {es : List Event}
    (hQueued : d.queued = true)
    (hCrash : .ended .crashed ∉ d.history es)
    (hIdle : (d.after es).worker = .idle)
    (hEmpty : (d.after es).queued = false) :
    ∃ rest, Delivers (d.history es) rest := by
  have hDone : (d.after es).worker ≠ .delivering := by
    rw [hIdle]
    decide
  rcases started_or_queued hQueued es hCrash with
    hStarted | hStays
  · exact delivers_of_started hStarted hDone
  · rw [hEmpty] at hStays
    cases hStays

/- A request that was accepted was put into the queue. -/
theorem exists_queued
    {es : List Event}
    {before later : List Happening}
    (hSplit :
      history {} es =
        before ++ .answered .accepted :: later) :
    ∃ (es₁ es₂ : List Event) (d : Dispatcher),
      history {} es₁ = before ∧
        (after {} es₁).worker ≠ .stopped ∧
          d.queued = true ∧
            d.history es₂ = later ∧
              after {} es = d.after es₂ := by
  rcases exists_moment hSplit with
    ⟨es₁, e, es₂, rfl, hBefore, hAt, hLater⟩
  rcases (move_of_happening hAt).queued_of_accepted with
    ⟨hWorker, hQueued⟩
  rw [after_append, after_cons]
  exact ⟨es₁, es₂, _, hBefore, hWorker, hQueued, hLater, rfl⟩

/- A request in the queue waits until a delivery starts. -/
theorem waits_of_accepted
    {es : List Event}
    (hCrash : .ended .crashed ∉ history {} es)
    {before later : List Happening}
    (hSplit :
      history {} es =
        before ++ .answered .accepted :: later) :
    .started ∈ later ∨ (after {} es).queued = true := by
  rcases exists_queued hSplit with
    ⟨es₁, es₂, d, -, -, hQueued, rfl, hAfter⟩
  rw [hAfter]
  refine started_or_queued hQueued es₂ fun hLater => ?_
  rw [hSplit] at hCrash
  simp [hLater] at hCrash

/-
  A worker that stops because nothing is left has delivered
  every request that was accepted.
-/
theorem delivers_of_accepted
    {es : List Event}
    (hCrash : .ended .crashed ∉ history {} es)
    {before later : List Happening}
    (hSplit :
      history {} es =
        before ++ .answered .accepted :: later)
    (hStopped : .stopped ∈ history {} es) :
    ∃ rest, Delivers later rest ∧ .stopped ∈ rest := by
  rcases exists_queued hSplit with
    ⟨es₁, es₂, d, rfl, hWorker, hQueued, rfl, -⟩
  rw [hSplit] at hCrash hStopped
  simp only [List.mem_append, List.mem_cons, reduceCtorEq,
    false_or, not_or] at hCrash hStopped
  have hNotBefore : .stopped ∉ history {} es₁ := fun hBefore =>
    hWorker ((agrees_after es₁).stopped_iff.mpr (.inl hBefore))
  have hLater := hStopped.resolve_left hNotBefore
  -- The worker stopped later on, with an empty queue.
  rcases List.append_of_mem hLater with ⟨first, last, hStop⟩
  rcases exists_moment hStop with
    ⟨es₃, e, es₄, rfl, rfl, hAt, -⟩
  have hIdle := (move_of_happening hAt).idle_of_stopped
  have hCrashFirst :
      .ended .crashed ∉ d.history es₃ := by
    rw [hStop, List.mem_append, not_or] at hCrash
    exact hCrash.2.1
  rcases delivers_of_queued hQueued hCrashFirst hIdle.1
      hIdle.2 with
    ⟨rest, waiting, during, outcome, hFirst, hQuiet⟩
  refine
    ⟨rest ++ .stopped :: last,
      ⟨waiting, during, outcome, ?_, hQuiet⟩, by simp⟩
  rw [hStop, hFirst]
  simp

------------------------------------------------------------
-- Shutting Down
------------------------------------------------------------

/- How many turns a closed dispatcher leaves its worker. -/
def workLeft
    (d : Dispatcher) : Nat :=
  match d.worker with
  | .idle => 1 + 2 * d.queued.toNat
  | .delivering => 2 + 2 * d.queued.toNat
  | .stopped => 0

/- A worker with nothing left to do has stopped. -/
theorem stopped_of_workLeft
    {d : Dispatcher}
    (hNone : d.workLeft = 0) :
    d.worker = .stopped := by
  unfold workLeft at hNone
  split at hNone
  · omega
  · omega
  · assumption

/- The turns of a worker whose deliveries end like this. -/
def turns : List DeliveryEnd → List Event
| [] => [.receive]
| outcome :: outcomes =>
    .receive :: .finish outcome :: turns outcomes

/- Nothing adds to the work of a closed dispatcher. -/
theorem Move.workLeft_le
    {d d' : Dispatcher}
    {e : Event}
    {x : Option Happening}
    (hMove : d.Move e x d')
    (hClosed : d.isOpen = false) :
    d'.workLeft ≤ d.workLeft := by
  cases hMove <;> simp_all [workLeft]

/- A closed dispatcher stays closed, with no more work. -/
theorem workLeft_after_le
    {d : Dispatcher}
    (hClosed : d.isOpen = false)
    (es : List Event) :
    (d.after es).workLeft ≤ d.workLeft := by
  induction es generalizing d with
  | nil => exact Nat.le_refl _
  | cons e es ih =>
      have hStays :=
        (d.move e).isOpen_eq_false.mpr (.inl hClosed)
      exact
        Nat.le_trans (ih hStays)
          ((d.move e).workLeft_le hClosed)

/- An idle worker that is given a turn does some work. -/
theorem Move.workLeft_le_of_receive
    {d d' : Dispatcher}
    {x : Option Happening}
    (hMove : d.Move .receive x d')
    (hClosed : d.isOpen = false)
    {k : Nat}
    (hWork : d.workLeft ≤ 2 * k + 1) :
    d'.workLeft ≤ 2 * k := by
  cases hMove with
  | started hIdle hQueued =>
      simp only [workLeft, hIdle, hQueued, Bool.toNat_true,
        Bool.toNat_false] at hWork ⊢
      omega
  | stopped hIdle hEmpty hClosed => simp [workLeft]
  | waited hWaits =>
      cases hWorker : d.worker with
      | idle =>
          rw [(hWaits hWorker).2] at hClosed
          cases hClosed
      | delivering =>
          simp only [workLeft, hWorker] at hWork ⊢
          omega
      | stopped => simp [workLeft, hWorker]

/- A delivery that ends leaves less work. -/
theorem Move.workLeft_le_of_finish
    {d d' : Dispatcher}
    {outcome : DeliveryEnd}
    {x : Option Happening}
    (hMove : d.Move (.finish outcome) x d')
    {k : Nat}
    (hWork : d.workLeft ≤ 2 * (k + 1)) :
    d'.workLeft ≤ 2 * k + 1 := by
  cases hMove with
  | delivered hDelivering =>
      simp only [workLeft, hDelivering] at hWork ⊢
      omega
  | failed hDelivering =>
      simp only [workLeft, hDelivering] at hWork ⊢
      omega
  | crashed hDelivering => simp [workLeft]
  | nothing hWorker =>
      cases hState : d.worker with
      | idle =>
          simp only [workLeft, hState] at hWork ⊢
          omega
      | delivering => exact absurd hState hWorker
      | stopped => simp [workLeft, hState]

/-
  An event that lowers the work to `m` does so wherever it
  is among other events.
-/
theorem workLeft_after_le_of_mem
    {d : Dispatcher}
    (hClosed : d.isOpen = false)
    {e : Event}
    {es : List Event}
    (hMem : e ∈ es)
    {n m : Nat}
    (hTurn :
      ∀ s : Dispatcher, s.isOpen = false →
        s.workLeft ≤ n → (s.step e).2.workLeft ≤ m)
    (hWork : d.workLeft ≤ n) :
    (d.after es).workLeft ≤ m := by
  rcases List.append_of_mem hMem with ⟨first, last, rfl⟩
  have hThen :=
    (d.isOpen_after_eq_false first).mpr (.inl hClosed)
  have hFirst :=
    Nat.le_trans (workLeft_after_le hClosed first) hWork
  have hNext :=
    ((d.after first).move e).isOpen_eq_false.mpr (.inl hThen)
  rw [after_append, after_cons]
  exact
    Nat.le_trans (workLeft_after_le hNext last)
      (hTurn _ hThen hFirst)

/-
  A closed dispatcher whose worker is given enough turns,
  among any other events, has a worker that stopped.
-/
theorem stopped_of_turns
    {d : Dispatcher}
    (hClosed : d.isOpen = false)
    {outcomes : List DeliveryEnd}
    (hWork : d.workLeft ≤ 2 * outcomes.length + 1)
    {es : List Event}
    (hTurns : (turns outcomes).Sublist es) :
    (d.after es).worker = .stopped := by
  induction outcomes generalizing d es with
  | nil =>
      have hNone :
          (d.after es).workLeft ≤ 2 * 0 :=
        workLeft_after_le_of_mem hClosed
          (List.singleton_sublist.mp hTurns)
          (fun s hOpen =>
            (s.move .receive).workLeft_le_of_receive hOpen)
          hWork
      exact stopped_of_workLeft (Nat.le_zero.mp hNone)
  | cons outcome outcomes ih =>
      rw [turns, List.cons_sublist_iff] at hTurns
      rcases hTurns with ⟨first, rest, rfl, hFirst, hRest⟩
      rw [List.cons_sublist_iff] at hRest
      rcases hRest with ⟨second, third, rfl, hSecond, hThird⟩
      have hClosed₁ :=
        (d.isOpen_after_eq_false first).mpr (.inl hClosed)
      have hClosed₂ :=
        ((d.after first).isOpen_after_eq_false second).mpr
          (.inl hClosed₁)
      have hReceived :
          (d.after first).workLeft ≤
            2 * (outcomes.length + 1) :=
        workLeft_after_le_of_mem hClosed hFirst
          (fun s hOpen =>
            (s.move .receive).workLeft_le_of_receive hOpen)
          hWork
      have hFinished :
          ((d.after first).after second).workLeft ≤
            2 * outcomes.length + 1 :=
        workLeft_after_le_of_mem hClosed₁ hSecond
          (fun s _ =>
            (s.move (.finish outcome)).workLeft_le_of_finish)
          hReceived
      rw [after_append, after_append]
      exact ih hClosed₂ hFinished hThird

/- There never is more to do than two deliveries. -/
theorem workLeft_le
    (d : Dispatcher) : d.workLeft ≤ 4 := by
  have hQueued := Bool.toNat_le d.queued
  unfold workLeft
  split <;> omega

/- Two deliveries are enough turns for any worker. -/
theorem stopped_of_two_turns
    {d : Dispatcher}
    (hClosed : d.isOpen = false)
    {outcome outcome' : DeliveryEnd}
    {es : List Event}
    (hTurns : (turns [outcome, outcome']).Sublist es) :
    (d.after es).worker = .stopped := by
  refine stopped_of_turns hClosed ?_ hTurns
  have hWork := d.workLeft_le
  simp only [List.length_cons, List.length_nil]
  omega

------------------------------------------------------------
-- Coalescing
------------------------------------------------------------

/- What holds at every moment of a run. -/
structure LosesNothing
    (es : List Event) : Prop where
/-
  Unless a delivery crashed, a request that was accepted is
  in the queue until a delivery starts.
-/
  waits :
    .ended .crashed ∉ history {} es →
      ∀ before later,
        history {} es =
            before ++ .answered .accepted :: later →
          .started ∈ later ∨ (after {} es).queued = true
/-
  Once the worker has stopped, a delivery has followed on
  the request.  It started after the request and ended
  before the worker stopped.
-/
  delivers :
    .ended .crashed ∉ history {} es →
      (after {} es).worker = .stopped →
        ∀ before later,
          history {} es =
              before ++ .answered .accepted :: later →
            ∃ rest, Delivers later rest ∧ .stopped ∈ rest
/-
  Once the dispatcher is closed, the worker stops when it
  gets its turns.
-/
  stops :
    .close ∈ es →
      ∀ outcome outcome' later,
        (turns [outcome, outcome']).Sublist later →
          (after {} (es ++ later)).worker = .stopped
/- No delivery starts without a request of its own. -/
  started_le :
    (history {} es).count .started ≤
      (history {} es).count (.answered .accepted)
/- Those that started have ended, but for one under way. -/
  started_eq :
    (history {} es).count .started =
      (history {} es).countP Happening.isEnd +
        (after {} es).inFlight
/- Without further requests at most one more starts. -/
  pending_le :
    ∀ later,
      .answered .accepted ∉ (after {} es).history later →
        ((after {} es).history later).count .started ≤ 1
/- Each delivery is counted as it ends. -/
  delivered_eq :
    (after {} es).delivered =
      (history {} es).count (.ended .delivered)
  failed_eq :
    (after {} es).failed =
      (history {} es).count (.ended .failed)
/- Requests are refused if the dispatcher was closed. -/
  closed_iff :
    .ended .crashed ∉ history {} es →
      ((after {} es).request.1 = .closed ↔ .close ∈ es)
/- A crash ends everything. -/
  closed_of_crash :
    .ended .crashed ∈ history {} es →
      ∀ later,
        (after {} (es ++ later)).request.1 = .closed ∧
          (after {} (es ++ later)).delivered =
              (after {} es).delivered ∧
            (after {} (es ++ later)).failed =
                (after {} es).failed ∧
              .started ∉ (after {} es).history later

/- A request is refused by those who cannot deliver it. -/
theorem request_eq_closed
    (d : Dispatcher) :
    d.request.1 = .closed ↔
      d.isOpen = false ∨ d.worker = .stopped := by
  unfold request
  split
  · simp [*]
  · simp [*]

/- No request is lost, and no delivery is made up. -/
theorem coalescing_loses_nothing
    (es : List Event) :
    LosesNothing es := by
  have hAgrees := agrees_after es
  refine
    { waits := ?_
      delivers := ?_
      stops := ?_
      started_le := ?_
      started_eq := hAgrees.started_eq
      pending_le := ?_
      delivered_eq := hAgrees.delivered_eq
      failed_eq := hAgrees.failed_eq
      closed_iff := ?_
      closed_of_crash := ?_ }
  · intro hCrash _ _ hSplit
    exact waits_of_accepted hCrash hSplit
  · intro hCrash hWorker _ _ hSplit
    rw [hAgrees.stopped_iff] at hWorker
    exact
      delivers_of_accepted hCrash hSplit
        (hWorker.resolve_right hCrash)
  · intro hClose outcome outcome' later hTurns
    have hClosed :=
      (isOpen_after_eq_false {} es).mpr (.inr hClose)
    rw [after_append]
    exact stopped_of_two_turns hClosed hTurns
  · have hCount := count_started_le {} es
    simp only [Bool.toNat_false] at hCount
    omega
  · intro later hNone
    have hCount := count_started_le (after {} es) later
    have hQueued := Bool.toNat_le (after {} es).queued
    rw [List.count_eq_zero_of_not_mem hNone] at hCount
    omega
  · intro hCrash
    rw [request_eq_closed, hAgrees.stopped_iff,
      isOpen_after_eq_false]
    simp only [hCrash, or_false, reduceCtorEq, false_or]
    refine ⟨?_, .inl⟩
    rintro (hClose | hStopped)
    · exact hClose
    · have hShut := hAgrees.isOpen_of_stopped hStopped
      rw [isOpen_after_eq_false] at hShut
      simpa using hShut
  · intro hCrash later
    have hStopped := hAgrees.stopped_iff.mpr (.inr hCrash)
    rcases after_of_stopped hStopped later with
      ⟨hWorker, hDelivered, hFailed, hNone⟩
    rw [after_append, request_eq_closed]
    exact ⟨.inr hWorker, hDelivered, hFailed, hNone⟩

/-
  Three requests come to two deliveries.  The last request
  finds the queue taken, and the delivery for it starts
  after the dispatcher was closed.
-/
theorem coalescing_loses_nothing_amid_closing :
    let es : List Event :=
      [.request, .receive, .request, .request, .close,
        .request, .finish .failed, .receive,
        .finish .delivered, .receive]
    let later : List Happening :=
      [.answered .closed, .ended .failed, .started,
        .ended .delivered, .stopped]
    history {} es =
        [.answered .accepted, .started, .answered .accepted]
          ++ .answered .accepted :: later ∧
      (∃ rest, Delivers later rest ∧ .stopped ∈ rest) ∧
        (after {} es).request.1 = .closed ∧
          (history {} es).count .started ≤ 3 := by
  intro es later
  have hHistory :
      history {} es =
        [.answered .accepted, .started, .answered .accepted]
          ++ .answered .accepted :: later := by
    decide
  have hCrash : .ended .crashed ∉ history {} es := by
    decide
  have hLoses := coalescing_loses_nothing es
  exact
    ⟨hHistory,
      hLoses.delivers hCrash (by decide) _ _ hHistory,
      (hLoses.closed_iff hCrash).mpr (by decide),
      hLoses.started_le⟩

end Dispatcher

end Reframe
