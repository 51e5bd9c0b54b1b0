import Mathlib.Data.List.Count
import Mathlib.Data.List.Induction
import Mathlib.Data.List.ReduceOption
import Reframe.Feedback.Limiter

/-
  How far requests for reference frames are apart: a gap is
  answered by a request if requests are turned on and the
  cool-down since the latest request has passed, whatever
  came of that request and whatever the clock does.

  The proofs relate the limiter to the requests that were
  made so far, which are read off the run.

  Main declarations:
    * `FeedbackLimiter.step_gap_cases`
    * `FeedbackLimiter.requests`
    * `FeedbackLimiter.Tracks`
    * `FeedbackLimiter.SamePace`
    * `FeedbackLimiter.Balances`
    * `FeedbackLimiter.requests_are_paced`
-/

namespace Reframe

namespace FeedbackLimiter

------------------------------------------------------------
-- One Gap
------------------------------------------------------------

/- Counting an outcome changes no setting. -/
@[simp]
theorem cooldown_count
    (l : FeedbackLimiter)
    (outcome : GapOutcome) :
    (l.count outcome).cooldown = l.cooldown := by
  cases outcome <;> rfl

/- Counting an outcome does not turn requests on or off. -/
@[simp]
theorem enabled_count
    (l : FeedbackLimiter)
    (outcome : GapOutcome) :
    (l.count outcome).enabled = l.enabled := by
  cases outcome <;> rfl

/- Counting an outcome makes no request. -/
@[simp]
theorem lastRequest_count
    (l : FeedbackLimiter)
    (outcome : GapOutcome) :
    (l.count outcome).lastRequest = l.lastRequest := by
  cases outcome <;> rfl

/- The outcome of a gap for which a request is made. -/
def requested
    (taken : Bool) : GapOutcome :=
  if taken then .sent else .failed

/- The limiter when a request is made. -/
def requesting
    (l : FeedbackLimiter)
    (now : Nat) : FeedbackLimiter :=
  { l with lastRequest := some now }

/-
  Requests are turned off, or the cool-down has not passed,
  or a request is made.
-/
theorem step_gap_cases
    (l : FeedbackLimiter)
    (now : Nat)
    (taken : Bool) :
    (l.enabled = false ∧
      ∀ calls, l.step calls (.gap now taken) =
        ⟨some .disabled, calls, l.count .disabled⟩) ∨
    (l.enabled = true ∧ ¬ l.IsDue now ∧
      ∀ calls, l.step calls (.gap now taken) =
        ⟨some .suppressed, calls, l.count .suppressed⟩) ∨
    (l.enabled = true ∧ l.IsDue now ∧
      ∀ calls, l.step calls (.gap now taken) =
        ⟨some (requested taken), calls + 1,
          (l.requesting now).count (requested taken)⟩) := by
  by_cases hOff : l.enabled = false
  · apply Or.inl
    refine ⟨hOff, ?_⟩
    intro calls
    simp [step, onGap, hOff]
  · have hOn := Bool.of_not_eq_false hOff
    apply Or.inr
    by_cases hDue : l.IsDue now
    · apply Or.inr
      refine ⟨hOn, hDue, ?_⟩
      intro calls
      cases taken <;>
        simp [step, onGap, hOn, hDue, requesting, requested]
    · apply Or.inl
      refine ⟨hOn, hDue, ?_⟩
      intro calls
      simp [step, onGap, hOn, hDue]

/- Earlier requests are counted, and make no difference. -/
theorem step_eq
    (l : FeedbackLimiter)
    (calls : Nat)
    (e : Event) :
    l.step calls e =
      { l.step 0 e with
        calls := calls + (l.step 0 e).calls } := by
  cases e with
  | gap now taken =>
      rcases l.step_gap_cases now taken with
        ⟨_, hStep⟩ | ⟨_, _, hStep⟩ | ⟨_, _, hStep⟩ <;>
        simp [hStep]
  | frame frameId => rfl
  | enable enabled => rfl

------------------------------------------------------------
-- Requests Of A Run
------------------------------------------------------------

/-
  The time of the request that an event makes, if the sink
  of requests counts one.
-/
def request?
    (l : FeedbackLimiter)
    (e : Event) : Option Nat :=
  match e with
  | .gap now _ =>
      if 0 < (l.step 0 e).calls then some now else none
  | .frame _ => none
  | .enable _ => none

/- The limiter after all events. -/
def after
    (l : FeedbackLimiter)
    (es : List Event) : FeedbackLimiter :=
  es.foldl (fun l e => (l.step 0 e).after) l

/- For each event of a run, the request that it makes. -/
def attempts
    (l : FeedbackLimiter) : List Event → List (Option Nat)
| [] => []
| e :: es => l.request? e :: attempts (l.step 0 e).after es

/- The times of the requests of a run, in order. -/
def requests
    (l : FeedbackLimiter)
    (es : List Event) : List Nat :=
  (l.attempts es).reduceOption

/- What each gap of a run comes to. -/
def outcomes
    (l : FeedbackLimiter)
    (es : List Event) : List GapOutcome :=
  (l.run 0 es).filterMap Step.outcome

/-
  A gap is answered by a request when requests are turned on
  and the cool-down since the latest request has passed.
-/
theorem request?_gap_eq_some_iff
    (l : FeedbackLimiter)
    (now : Nat)
    (taken : Bool)
    (time : Nat) :
    l.request? (.gap now taken) = some time ↔
      now = time ∧ l.enabled = true ∧
        ∀ last, l.lastRequest = some last →
          l.cooldown.nanos ≤ now - last := by
  have hDueIff :
      l.IsDue now ↔
        ∀ last, l.lastRequest = some last →
          l.cooldown.nanos ≤ now - last := by
    unfold IsDue
    cases l.lastRequest <;> simp
  rw [← hDueIff]
  rcases l.step_gap_cases now taken with
    ⟨hOff, hStep⟩ | ⟨hOn, hEarly, hStep⟩ |
    ⟨hOn, hDue, hStep⟩
  · simp [request?, hStep, hOff]
  · simp [request?, hStep, hEarly]
  · simp [request?, hStep, hOn, hDue]

/- The sink counts one request or none. -/
theorem calls_step
    (l : FeedbackLimiter)
    (calls : Nat)
    (e : Event) :
    (l.step calls e).calls =
      calls + (l.request? e).toList.length := by
  cases e with
  | gap now taken =>
      rcases l.step_gap_cases now taken with
        ⟨_, hStep⟩ | ⟨_, _, hStep⟩ | ⟨_, _, hStep⟩ <;>
        simp [request?, hStep]
  | frame frameId => rfl
  | enable enabled => rfl

/- The limiter after a run and one more event. -/
theorem after_concat
    (l : FeedbackLimiter)
    (es : List Event)
    (e : Event) :
    l.after (es ++ [e]) = ((l.after es).step 0 e).after := by
  simp [after]

/- The requests of two parts of a run, event by event. -/
theorem attempts_append
    (l : FeedbackLimiter)
    (es es' : List Event) :
    l.attempts (es ++ es') =
      l.attempts es ++ (l.after es).attempts es' := by
  induction es generalizing l with
  | nil => rfl
  | cons e es ih =>
      simp only [List.cons_append, attempts, ih]
      rfl

/- The requests of two parts of a run. -/
theorem requests_append
    (l : FeedbackLimiter)
    (es es' : List Event) :
    l.requests (es ++ es') =
      l.requests es ++ (l.after es).requests es' := by
  rw [requests, attempts_append, List.reduceOption_append]
  rfl

/- The requests of a first event and of the rest. -/
theorem requests_cons
    (l : FeedbackLimiter)
    (e : Event)
    (es : List Event) :
    l.requests (e :: es) =
      (l.request? e).toList ++
        (l.step 0 e).after.requests es := by
  cases hRequest : l.request? e <;>
    simp [requests, attempts, hRequest]

/- The requests of a run and one more event. -/
theorem requests_concat
    (l : FeedbackLimiter)
    (es : List Event)
    (e : Event) :
    l.requests (es ++ [e]) =
      l.requests es ++ ((l.after es).request? e).toList := by
  have hNil :
      ((l.after es).step 0 e).after.requests [] = [] := rfl
  rw [requests_append, requests_cons, hNil,
    List.append_nil]

/-
  Each step of a run is the one of its event, with the
  requests before it counted.
-/
theorem run_concat
    (l : FeedbackLimiter)
    (calls : Nat)
    (es : List Event)
    (e : Event) :
    l.run calls (es ++ [e]) =
      l.run calls es ++
        [(l.after es).step
          (calls + (l.requests es).length) e] := by
  induction es generalizing l calls with
  | nil => rfl
  | cons e' es ih =>
      have hAfter :
          (l.step calls e').after = (l.step 0 e').after := by
        rw [step_eq]
      simp only [List.cons_append, run, ih, hAfter,
        calls_step, requests_cons, List.length_append,
        Nat.add_assoc]
      rfl

/- The outcomes of a run and one more event. -/
theorem outcomes_concat
    (l : FeedbackLimiter)
    (es : List Event)
    (e : Event) :
    l.outcomes (es ++ [e]) =
      l.outcomes es ++
        ((l.after es).step 0 e).outcome.toList := by
  rw [outcomes, run_concat, step_eq,
    List.filterMap_append]
  cases hOutcome : ((l.after es).step 0 e).outcome <;>
    simp [outcomes, hOutcome]

------------------------------------------------------------
-- What The Limiter Remembers
------------------------------------------------------------

/- The setting that an event makes, if it makes one. -/
def Event.setting? : Event → Option Bool
| .gap _ _ => none
| .frame _ => none
| .enable enabled => some enabled

/- Requests are turned on after events. -/
def enabledAfter
    (enabled : Bool)
    (es : List Event) : Bool :=
  (es.filterMap Event.setting?).getLast?.getD enabled

/-
  What an event does to the pace: it may turn requests on or
  off, and a request that it makes is the latest one.
-/
theorem pace_step
    (l : FeedbackLimiter)
    (e : Event) :
    (l.step 0 e).after.cooldown = l.cooldown ∧
      (l.step 0 e).after.enabled =
          e.setting?.getD l.enabled ∧
        (l.step 0 e).after.lastRequest =
          (l.request? e).or l.lastRequest := by
  cases e with
  | gap now taken =>
      rcases l.step_gap_cases now taken with
        ⟨_, hStep⟩ | ⟨_, _, hStep⟩ | ⟨_, _, hStep⟩ <;>
        simp [hStep, request?, Event.setting?, requesting]
  | frame frameId => exact ⟨rfl, rfl, rfl⟩
  | enable enabled => exact ⟨rfl, rfl, rfl⟩

/-
  A limiter after events: it keeps its cool-down, follows
  the last setting, and remembers the latest request.
-/
structure Tracks
    (l : FeedbackLimiter)
    (es : List Event) : Prop where
  cooldown_eq : (l.after es).cooldown = l.cooldown
  enabled_eq :
    (l.after es).enabled = enabledAfter l.enabled es
  lastRequest_eq :
    (l.after es).lastRequest = (l.requests es).getLast?

/- A limiter that made no request tracks every run. -/
theorem tracks
    {l : FeedbackLimiter}
    (hNew : l.lastRequest = none)
    (es : List Event) :
    l.Tracks es := by
  induction es using List.reverseRecOn with
  | nil => exact ⟨rfl, rfl, hNew⟩
  | append_singleton es e ih =>
      rcases (l.after es).pace_step e with
        ⟨hCooldown, hEnabled, hLast⟩
      constructor
      · rw [after_concat, hCooldown, ih.cooldown_eq]
      · rw [after_concat, hEnabled, ih.enabled_eq,
          enabledAfter, enabledAfter, List.filterMap_append,
          List.getLast?_append]
        cases hSetting : e.setting? <;> simp [hSetting]
      · rw [after_concat, hLast, ih.lastRequest_eq,
          requests_concat, List.getLast?_append]
        cases (l.after es).request? e <;> rfl

------------------------------------------------------------
-- When A Request Is Made
------------------------------------------------------------

/-
  Requests are turned on after events, and the cool-down has
  passed since the latest request, if there was one.  A time
  before that request counts as the time of that request.
-/
def IsDueAfter
    (l : FeedbackLimiter)
    (es : List Event)
    (now : Nat) : Prop :=
  enabledAfter l.enabled es = true ∧
    ∀ last, (l.requests es).getLast? = some last →
      l.cooldown.nanos ≤ now - last

/- A gap comes to a request exactly when one is due. -/
theorem Tracks.request?_eq_some_iff
    {l : FeedbackLimiter}
    {es : List Event}
    (hTracks : l.Tracks es)
    (now : Nat)
    (taken : Bool)
    (time : Nat) :
    (l.after es).request? (.gap now taken) = some time ↔
      now = time ∧ l.IsDueAfter es now := by
  rw [request?_gap_eq_some_iff, hTracks.enabled_eq,
    hTracks.cooldown_eq, hTracks.lastRequest_eq, IsDueAfter]

/-
  A request comes no earlier than the cool-down after all
  requests before it, if there is a cool-down at all.
-/
theorem IsDueAfter.add_le
    {l : FeedbackLimiter}
    {es : List Event}
    {now : Nat}
    (hDue : l.IsDueAfter es now)
    (hPositive : 0 < l.cooldown.nanos)
    (hSpaced :
      (l.requests es).Pairwise
        (fun t t' => t + l.cooldown.nanos ≤ t')) :
    ∀ t ∈ l.requests es, t + l.cooldown.nanos ≤ now := by
  intro t ht
  rcases List.eq_nil_or_concat (l.requests es) with
    hNone | ⟨before, last, hSplit⟩
  · rw [hNone] at ht
    cases ht
  · rw [List.concat_eq_append] at hSplit
    have hSince := hDue.2 last (by simp [hSplit])
    rw [hSplit, List.pairwise_append] at hSpaced
    rw [hSplit, List.mem_append, List.mem_singleton] at ht
    rcases ht with hEarlier | rfl
    · have hBefore := hSpaced.2.2 t hEarlier last (by simp)
      omega
    · omega

/- All requests of a run are the cool-down apart. -/
theorem pairwise_requests
    {l : FeedbackLimiter}
    (hNew : l.lastRequest = none)
    (hPositive : 0 < l.cooldown.nanos)
    (es : List Event) :
    (l.requests es).Pairwise
      (fun t t' => t + l.cooldown.nanos ≤ t') := by
  induction es using List.reverseRecOn with
  | nil => exact List.Pairwise.nil
  | append_singleton es e ih =>
      rw [requests_concat]
      cases hRequest : (l.after es).request? e with
      | none => simpa using ih
      | some time =>
          cases e with
          | gap now taken =>
              rw [(tracks hNew es).request?_eq_some_iff]
                at hRequest
              rcases hRequest with ⟨rfl, hDue⟩
              rw [Option.toList_some, List.pairwise_append]
              refine ⟨ih, List.pairwise_singleton _ _, ?_⟩
              intro t ht t' ht'
              rw [List.mem_singleton] at ht'
              rw [ht']
              exact hDue.add_le hPositive ih t ht
          | frame frameId => cases hRequest
          | enable enabled => cases hRequest

------------------------------------------------------------
-- What Makes No Difference
------------------------------------------------------------

/- Two limiters differ in counts and frame numbers only. -/
structure SamePace
    (l m : FeedbackLimiter) : Prop where
  cooldown_eq : m.cooldown = l.cooldown
  enabled_eq : m.enabled = l.enabled
  lastRequest_eq : m.lastRequest = l.lastRequest

/- The event as it is when its request is taken. -/
def Event.stimulus : Event → Event
| .gap now _ => .gap now true
| .frame frameId => .frame frameId
| .enable enabled => .enable enabled

/- What comes of a request does not matter to the pace. -/
theorem SamePace.step
    {l m : FeedbackLimiter}
    (hSame : l.SamePace m)
    {e e' : Event}
    (hEvent : e'.stimulus = e.stimulus) :
    m.request? e' = l.request? e ∧
      SamePace (l.step 0 e).after (m.step 0 e').after := by
  have hBoth :
      m.request? e' = l.request? e ∧
        e'.setting? = e.setting? := by
    cases e <;> cases e' <;> cases hEvent
    · refine ⟨?_, rfl⟩
      apply Option.ext
      intro time
      simp only [request?_gap_eq_some_iff,
        hSame.cooldown_eq, hSame.enabled_eq,
        hSame.lastRequest_eq]
    · exact ⟨rfl, rfl⟩
    · exact ⟨rfl, rfl⟩
  rcases l.pace_step e with ⟨hCooldown, hEnabled, hLast⟩
  rcases m.pace_step e' with
    ⟨hCooldown', hEnabled', hLast'⟩
  refine ⟨hBoth.1, ?_⟩
  constructor
  · rw [hCooldown, hCooldown', hSame.cooldown_eq]
  · rw [hEnabled, hEnabled', hBoth.2, hSame.enabled_eq]
  · rw [hLast, hLast', hBoth.1, hSame.lastRequest_eq]

/- Requests are made at the same events at the same pace. -/
theorem SamePace.attempts_eq
    {l m : FeedbackLimiter}
    (hSame : l.SamePace m)
    {es es' : List Event}
    (hEvents :
      es'.map Event.stimulus = es.map Event.stimulus) :
    m.attempts es' = l.attempts es := by
  induction es generalizing l m es' with
  | nil =>
      rw [List.map_nil, List.map_eq_nil_iff] at hEvents
      rw [hEvents]
      rfl
  | cons e es ih =>
      cases es' with
      | nil => cases hEvents
      | cons e' es' =>
          simp only [List.map_cons, List.cons.injEq]
            at hEvents
          rcases hSame.step hEvents.1 with
            ⟨hRequest, hAfter⟩
          rw [attempts, attempts, hRequest,
            ih hAfter hEvents.2]

/-
  A gap while requests are turned off changes no request
  behind it.
-/
theorem requests_of_disabled
    {l : FeedbackLimiter}
    {es : List Event}
    (hOff : (l.after es).enabled = false)
    (now : Nat)
    (taken : Bool)
    (later : List Event) :
    l.requests (es ++ .gap now taken :: later) =
      l.requests (es ++ later) := by
  have hNone :
      (l.after es).request? (.gap now taken) = none := by
    rw [Option.eq_none_iff_forall_ne_some]
    intro time hSome
    rw [request?_gap_eq_some_iff, hOff] at hSome
    cases hSome.2.1
  rcases (l.after es).pace_step (.gap now taken) with
    ⟨hCooldown, hEnabled, hLast⟩
  rw [hNone] at hLast
  have hSame :
      SamePace (l.after es)
        ((l.after es).step 0 (.gap now taken)).after :=
    ⟨hCooldown, hEnabled, hLast⟩
  have hLater :
      ((l.after es).step 0
          (.gap now taken)).after.requests later =
        (l.after es).requests later :=
    congrArg List.reduceOption (hSame.attempts_eq rfl)
  rw [requests_append, requests_append, requests_cons,
    hNone, Option.toList_none, List.nil_append, hLater]

------------------------------------------------------------
-- Counts
------------------------------------------------------------

/- The number of requests that the sink got in a run. -/
def calls
    (l : FeedbackLimiter)
    (es : List Event) : Nat :=
  ((l.run 0 es).getLast?.map Step.calls).getD 0

/- The sink got the requests of the run. -/
theorem calls_eq
    (l : FeedbackLimiter)
    (es : List Event) :
    l.calls es = (l.requests es).length := by
  induction es using List.reverseRecOn with
  | nil => rfl
  | append_singleton es e ih =>
      rw [calls, run_concat, requests_concat,
        List.getLast?_concat, Option.map_some,
        Option.getD_some, calls_step, List.length_append,
        Nat.zero_add]

/- Each gap has one of four outcomes. -/
theorem length_eq_counts
    (outcomes : List GapOutcome) :
    outcomes.length =
      outcomes.count .sent + outcomes.count .failed +
        outcomes.count .suppressed +
          outcomes.count .disabled := by
  induction outcomes with
  | nil => rfl
  | cons outcome outcomes ih =>
      cases outcome <;> simp [ih] <;> omega

/- The counts of a limiter are those of the outcomes. -/
structure Balances
    (s : FeedbackStats)
    (outcomes : List GapOutcome)
    (calls : Nat) : Prop where
  gaps_eq : s.gaps = outcomes.length
  sent_eq : s.sent = outcomes.count .sent
  failed_eq : s.failed = outcomes.count .failed
  suppressed_eq :
    s.suppressed = outcomes.count .suppressed
  calls_eq :
    calls = outcomes.count .sent + outcomes.count .failed

/- A gap is counted by its outcome. -/
theorem Balances.count
    {l : FeedbackLimiter}
    {outcomes : List GapOutcome}
    {calls : Nat}
    (hBalances : Balances l.stats outcomes calls)
    (outcome : GapOutcome) :
    Balances (l.count outcome).stats (outcomes ++ [outcome])
      (calls +
        [outcome].count .sent + [outcome].count .failed) := by
  rcases hBalances with
    ⟨hGaps, hSent, hFailed, hSuppressed, hCalls⟩
  cases outcome <;>
    constructor <;>
      simp [FeedbackLimiter.count, hGaps, hSent, hFailed,
        hSuppressed, hCalls] <;>
        omega

/- The counts of a new limiter balance after every run. -/
theorem balances
    {l : FeedbackLimiter}
    (hNew : l.stats = {})
    (es : List Event) :
    Balances (l.after es).stats (l.outcomes es)
      (l.requests es).length := by
  induction es using List.reverseRecOn with
  | nil =>
      rw [after, List.foldl_nil, hNew]
      exact ⟨rfl, rfl, rfl, rfl, rfl⟩
  | append_singleton es e ih =>
      rw [after_concat, outcomes_concat, requests_concat,
        List.length_append]
      cases e with
      | gap now taken =>
          rcases (l.after es).step_gap_cases now taken with
            ⟨_, hStep⟩ | ⟨_, _, hStep⟩ | ⟨_, _, hStep⟩
          · have hAfter := ih.count .disabled
            simpa [request?, hStep] using hAfter
          · have hAfter := ih.count .suppressed
            simpa [request?, hStep] using hAfter
          · have hAfter :=
              Balances.count
                (l := (l.after es).requesting now) ih
                (requested taken)
            cases taken <;>
              simpa [request?, hStep, requested] using hAfter
      | frame frameId =>
          simpa [step, observe, request?] using ih
      | enable enabled =>
          simpa [step, setEnabled, request?] using ih

------------------------------------------------------------
-- Any Run
------------------------------------------------------------

/-
  The requests of a run, the next gap behind it, and what
  may be left out of it or put in another way.
-/
structure IsPaced
    (l : FeedbackLimiter)
    (es : List Event) : Prop where
/- The sink got these requests and no others. -/
  calls_eq : l.calls es = (l.requests es).length
/- A gap comes to a request if one is due. -/
  asked :
    ∀ now taken, l.IsDueAfter es now →
      l.requests (es ++ [.gap now taken]) =
          l.requests es ++ [now] ∧
        l.outcomes (es ++ [.gap now taken]) =
          l.outcomes es ++ [requested taken]
/- It comes to none if none is due. -/
  suppressed :
    ∀ now taken, enabledAfter l.enabled es = true →
      ¬ l.IsDueAfter es now →
        l.requests (es ++ [.gap now taken]) =
            l.requests es ∧
          l.outcomes (es ++ [.gap now taken]) =
            l.outcomes es ++ [.suppressed]
/- While requests are turned off, it might as well not be. -/
  disabled :
    ∀ now taken, enabledAfter l.enabled es = false →
      l.outcomes (es ++ [.gap now taken]) =
          l.outcomes es ++ [.disabled] ∧
        ∀ later,
          l.requests (es ++ .gap now taken :: later) =
            l.requests (es ++ later)
/- Nothing but a gap comes to a request. -/
  quiet :
    ∀ e, (∀ now taken, e ≠ .gap now taken) →
      l.requests (es ++ [e]) = l.requests es
/- Any two requests are the cool-down apart. -/
  spaced :
    0 < l.cooldown.nanos →
      (l.requests es).Pairwise
        (fun t t' => t + l.cooldown.nanos ≤ t')
/- What comes of requests does not change which are made. -/
  attempts_eq :
    ∀ es',
      es'.map Event.stimulus = es.map Event.stimulus →
        l.attempts es' = l.attempts es
/- All gaps and all requests are counted. -/
  gaps_eq :
    (l.after es).stats.gaps =
      (l.after es).stats.sent + (l.after es).stats.failed +
        (l.after es).stats.suppressed +
          (l.outcomes es).count .disabled
  requests_eq :
    l.calls es =
      (l.after es).stats.sent + (l.after es).stats.failed
  balances :
    Balances (l.after es).stats (l.outcomes es) (l.calls es)

/- What the next gap comes to. -/
theorem Tracks.next_gap
    {l : FeedbackLimiter}
    {es : List Event}
    (hTracks : l.Tracks es)
    (now : Nat)
    (taken : Bool) :
    (l.IsDueAfter es now ∧
      l.requests (es ++ [.gap now taken]) =
        l.requests es ++ [now] ∧
      l.outcomes (es ++ [.gap now taken]) =
        l.outcomes es ++ [requested taken]) ∨
    (¬ l.IsDueAfter es now ∧
      l.requests (es ++ [.gap now taken]) =
        l.requests es ∧
      l.outcomes (es ++ [.gap now taken]) =
        l.outcomes es ++
          [if enabledAfter l.enabled es then .suppressed
            else .disabled]) := by
  have hRequest :=
    hTracks.request?_eq_some_iff now taken now
  rw [requests_concat, outcomes_concat,
    ← hTracks.enabled_eq]
  rcases (l.after es).step_gap_cases now taken with
    ⟨hOff, hStep⟩ | ⟨hOn, _, hStep⟩ | ⟨_, _, hStep⟩
  · apply Or.inr
    simp only [request?, hStep] at hRequest
    simpa [request?, hStep, hOff] using hRequest
  · apply Or.inr
    simp only [request?, hStep] at hRequest
    simpa [request?, hStep, hOn] using hRequest
  · apply Or.inl
    simp only [request?, hStep] at hRequest
    simpa [request?, hStep] using hRequest

/-
  The requests of every run are paced, whether they are
  turned on at first or not.
-/
theorem requests_are_paced
    (cooldown : Duration)
    (enabled : Bool)
    (es : List Event) :
    IsPaced
      { cooldown := cooldown, enabled := enabled } es := by
  have hTracks :=
    tracks (l := { cooldown := cooldown, enabled := enabled })
      rfl es
  have hBalances :=
    balances
      (l := { cooldown := cooldown, enabled := enabled })
      rfl es
  rw [← calls_eq] at hBalances
  refine
    { calls_eq := calls_eq _ es
      asked := ?_
      suppressed := ?_
      disabled := ?_
      quiet := ?_
      spaced := fun hPositive =>
        pairwise_requests rfl hPositive es
      attempts_eq := fun es' hEvents =>
        SamePace.attempts_eq ⟨rfl, rfl, rfl⟩ hEvents
      gaps_eq := ?_
      requests_eq := ?_
      balances := hBalances }
  · intro now taken hDue
    rcases hTracks.next_gap now taken with
      ⟨_, hNext⟩ | ⟨hNot, _⟩
    · exact hNext
    · exact absurd hDue hNot
  · intro now taken hOn hEarly
    rcases hTracks.next_gap now taken with
      ⟨hDue, _⟩ | ⟨_, hRequests, hOutcomes⟩
    · exact absurd hDue hEarly
    · rw [if_pos hOn] at hOutcomes
      exact ⟨hRequests, hOutcomes⟩
  · intro now taken hOff
    rcases hTracks.next_gap now taken with
      ⟨hDue, _⟩ | ⟨_, hRequests, hOutcomes⟩
    · rw [hDue.1] at hOff
      cases hOff
    · rw [hOff] at hOutcomes
      exact
        ⟨hOutcomes,
          requests_of_disabled
            (hTracks.enabled_eq.trans hOff) now taken⟩
  · intro e hOther
    cases e with
    | gap now taken => exact absurd rfl (hOther now taken)
    | frame frameId => simp [requests_concat, request?]
    | enable enabled => simp [requests_concat, request?]
  · rw [hBalances.gaps_eq, length_eq_counts,
      hBalances.sent_eq, hBalances.failed_eq,
      hBalances.suppressed_eq]
  · rw [hBalances.calls_eq, hBalances.sent_eq,
      hBalances.failed_eq]

/-
  The clock steps back behind a request that failed, and the
  next request waits for the cool-down all the same.  A gap
  while requests are turned off does not put it off.
-/
theorem requests_are_paced_over_steps_back :
    let l : FeedbackLimiter := { cooldown := ⟨10⟩ }
    let es : List Event :=
      [.gap 20 false, .gap 5 true, .frame 7, .enable false,
        .gap 29 true, .enable true]
    l.requests es = [20] ∧
      l.IsDueAfter es 30 ∧
      l.requests (es ++ [.gap 30 true]) = [20, 30] ∧
      l.outcomes (es ++ [.gap 30 true]) =
        [.failed, .suppressed, .disabled, .sent] ∧
      0 < l.cooldown.nanos ∧
      (l.requests (es ++ [.gap 30 true])).Pairwise
        (fun t t' => t + 10 ≤ t') := by
  intro l es
  have hDue : l.IsDueAfter es 30 := by
    refine ⟨by decide, ?_⟩
    intro last hLast
    have hTwenty : last = 20 :=
      Option.some.inj (hLast.symm.trans (by decide))
    subst hTwenty
    decide
  have hPositive : 0 < l.cooldown.nanos := by
    decide
  have hPaced := requests_are_paced ⟨10⟩ true es
  have hPaced' :=
    requests_are_paced ⟨10⟩ true (es ++ [.gap 30 true])
  rcases hPaced.asked 30 true hDue with
    ⟨hRequests, hOutcomes⟩
  exact
    ⟨by decide, hDue, hRequests, hOutcomes, hPositive,
      hPaced'.spaced hPositive⟩

end FeedbackLimiter

end Reframe
