import Reframe.Scan.Reader
import Reframe.Proofs.Fragment.Split
import Reframe.Proofs.Scan.Parse

/-
  What a reader owes of a source: the frames of all bytes in
  front of the first end, in order, and between them each
  failure, behind the frames that end in front of it.
  Interrupted reads are not told of.

  Main declarations:
    * `ByteSource.IsDue`
    * `ByteSource.due`
    * `ByteSource.due_of_yields`
    * `ByteSource.isDue_due_ahead`
    * `ByteSource.due_ofArrivals`
-/

namespace Reframe

------------------------------------------------------------
-- What Lies In A Source
------------------------------------------------------------

namespace ReadEvent

/- The bytes of an event. -/
def chunk : ReadEvent → Bytes
| .data bs => bs
| .finish => []
| .fail _ => []

/- A read is interrupted, and made again. -/
def IsInterrupted : ReadEvent → Prop
| .data _ => False
| .finish => False
| .fail e => e.kind = .interrupted

instance
    (event : ReadEvent) :
    Decidable event.IsInterrupted := by
  cases event <;> unfold IsInterrupted <;> infer_instance

/- The failure of an event, unless it is interrupted. -/
def failure? : ReadEvent → Option IoError
| .data _ => none
| .finish => none
| .fail e => if e.kind = .interrupted then none else some e

end ReadEvent

namespace ByteSource

/- All bytes of a source. -/
def bytes
    (source : ByteSource) : Bytes :=
  source.flatMap ReadEvent.chunk

/- All failures of a source but interrupted reads. -/
def failures
    (source : ByteSource) : List IoError :=
  source.filterMap ReadEvent.failure?

/- What lies in front of the first end. -/
def ahead
    (source : ByteSource) : ByteSource :=
  source.takeWhile (fun event => event ≠ .finish)

/- A source in which no read is interrupted. -/
def uninterrupted
    (source : ByteSource) : ByteSource :=
  source.filter (fun event => ¬ event.IsInterrupted)

/- Behind the first end, nothing lies ahead. -/
@[simp]
theorem ahead_finish
    (source : ByteSource) :
    ahead (.finish :: source) = [] := by
  simp [ahead]

/- Bytes that are not an end lie ahead. -/
@[simp]
theorem ahead_data
    (bs : Bytes)
    (source : ByteSource) :
    ahead (.data bs :: source) =
      .data bs :: ahead source := by
  simp [ahead]

/- A failure lies ahead. -/
@[simp]
theorem ahead_fail
    (e : IoError)
    (source : ByteSource) :
    ahead (.fail e :: source) = .fail e :: ahead source := by
  simp [ahead]

/- The bytes of the first event come first. -/
@[simp]
theorem bytes_cons
    (event : ReadEvent)
    (source : ByteSource) :
    bytes (event :: source) =
      event.chunk ++ bytes source := by
  simp [bytes]

/- The bytes of two parts of a source. -/
@[simp]
theorem bytes_append
    (source source' : ByteSource) :
    bytes (source ++ source') =
      bytes source ++ bytes source' := by
  simp [bytes]

/- Interrupted reads add nothing to the bytes ahead. -/
theorem bytes_ahead_uninterrupted
    (source : ByteSource) :
    source.uninterrupted.ahead.bytes =
      source.ahead.bytes := by
  unfold uninterrupted
  induction source with
  | nil => rfl
  | cons event source ih =>
      cases event with
      | data bs =>
          rw [List.filter_cons_of_pos
            (by simp [ReadEvent.IsInterrupted])]
          rw [ahead_data, ahead_data, bytes_cons, bytes_cons,
            ih]
      | finish =>
          rw [List.filter_cons_of_pos
            (by simp [ReadEvent.IsInterrupted])]
          rw [ahead_finish, ahead_finish]
      | fail e =>
          rw [ahead_fail, bytes_cons, ReadEvent.chunk,
            List.nil_append, ← ih]
          by_cases hKind : e.kind = .interrupted
          · rw [List.filter_cons_of_neg
              (by simp [ReadEvent.IsInterrupted, hKind])]
          · rw [List.filter_cons_of_pos
              (by simp [ReadEvent.IsInterrupted, hKind])]
            rw [ahead_fail, bytes_cons, ReadEvent.chunk,
              List.nil_append]

end ByteSource

------------------------------------------------------------
-- Results Of Calls
------------------------------------------------------------

/- Frames with numbers from `n` on. -/
def numbered
    (n : Nat)
    (fs : List Bytes) : List ScannedFrame :=
  (fs.zipIdx n).map (fun p => ⟨p.2, p.1⟩)

/- Frames are numbered one after another. -/
theorem numbered_append
    (n : Nat)
    (fs fs' : List Bytes) :
    numbered n (fs ++ fs') =
      numbered n fs ++ numbered (n + fs.length) fs' := by
  simp [numbered, List.zipIdx_append]

/- The frame that a call handed out. -/
def ReadResult.frame? : ReadResult → Option ScannedFrame
| .ok found => found
| .error _ => none

/- The failure that a call told of. -/
def ReadResult.failure? : ReadResult → Option FrameError
| .ok _ => none
| .error e => some e

/- The frames that calls handed out, in order. -/
def deliveries
    (results : List ReadResult) : List ScannedFrame :=
  results.filterMap ReadResult.frame?

/- The failures that calls told of, in order. -/
def reportedFailures
    (results : List ReadResult) : List FrameError :=
  results.filterMap ReadResult.failure?

/- The frames of two rows of calls. -/
@[simp]
theorem deliveries_append
    (results results' : List ReadResult) :
    deliveries (results ++ results') =
      deliveries results ++ deliveries results' :=
  List.filterMap_append

/- The failures of two rows of calls. -/
@[simp]
theorem reportedFailures_append
    (results results' : List ReadResult) :
    reportedFailures (results ++ results') =
      reportedFailures results ++
        reportedFailures results' :=
  List.filterMap_append

/- The frame of the first call comes first. -/
theorem deliveries_cons
    (result : ReadResult)
    (results : List ReadResult) :
    deliveries (result :: results) =
      result.frame?.toList ++ deliveries results := by
  rw [deliveries, List.filterMap_cons]
  cases result.frame? <;> rfl

/- A call that fails hands out no frame. -/
@[simp]
theorem deliveries_cons_error
    (e : FrameError)
    (results : List ReadResult) :
    deliveries (.error e :: results) = deliveries results :=
  rfl

/- A call that fails tells of its failure. -/
@[simp]
theorem reportedFailures_cons_error
    (e : FrameError)
    (results : List ReadResult) :
    reportedFailures (.error e :: results) =
      e :: reportedFailures results :=
  rfl

/- Calls that hand out frames with numbers from `n` on. -/
def handOuts
    (n : Nat)
    (fs : List Bytes) : List ReadResult :=
  (numbered n fs).map (fun f => .ok (some f))

/- Without frames, no call hands one out. -/
@[simp]
theorem handOuts_nil
    (n : Nat) :
    handOuts n [] = [] :=
  rfl

/- Frames are handed out one after another. -/
theorem handOuts_append
    (n : Nat)
    (fs fs' : List Bytes) :
    handOuts n (fs ++ fs') =
      handOuts n fs ++ handOuts (n + fs.length) fs' := by
  simp [handOuts, numbered_append]

/- The frames that are handed out are those. -/
@[simp]
theorem deliveries_handOuts
    (n : Nat)
    (fs : List Bytes) :
    deliveries (handOuts n fs) = numbered n fs := by
  have hFrame :
      ReadResult.frame? ∘ (fun f => .ok (some f)) = some :=
    rfl
  rw [deliveries, handOuts, List.filterMap_map, hFrame,
    List.filterMap_some]

/- Calls that hand out frames tell of no failure. -/
@[simp]
theorem reportedFailures_handOuts
    (n : Nat)
    (fs : List Bytes) :
    reportedFailures (handOuts n fs) = [] := by
  simp [reportedFailures, handOuts, ReadResult.failure?]

/- Calls that hand out frames do not say that none is left. -/
theorem notMem_handOuts
    (n : Nat)
    (fs : List Bytes) :
    .ok none ∉ handOuts n fs := by
  simp [handOuts]

------------------------------------------------------------
-- What Is Due
------------------------------------------------------------

namespace ByteSource

/-
  The results that calls owe of a source without an end: the
  frames of all bytes, numbered from zero, and each failure
  once.  In front of a failure stand the frames and failures
  of what lies in front of it, and no others.
-/
structure IsDue
    (source : ByteSource)
    (due : List ReadResult) : Prop where
  deliveries_eq :
    deliveries due =
      numbered 0 (Marked.frames source.bytes)
  failures_eq :
    reportedFailures due = source.failures.map FrameError.io
  failure_at :
    ∀ (before : ByteSource) (e : IoError)
      (later : ByteSource),
      source = before ++ .fail e :: later →
        e.kind ≠ .interrupted →
          ∃ front back,
            due = front ++ .error (.io e) :: back ∧
              deliveries front =
                numbered 0 (Marked.frames before.bytes) ∧
              reportedFailures front =
                before.failures.map FrameError.io
  answers : .ok none ∉ due

/-
  The results that are due of a source when `n` frames were
  handed out and some bytes are at hand.
-/
def due
    (n : Nat)
    (bs : Bytes) : ByteSource → List ReadResult
| [] => handOuts n (Marked.frames bs)
| .finish :: _ => handOuts n (Marked.frames bs)
| .data more :: source => due n (bs ++ more) source
| .fail e :: source =>
    if e.kind = .interrupted then due n bs source
    else
      handOuts n (Marked.frames bs) ++
        .error (.io e) ::
          due (n + (Marked.frames bs).length)
            (Marked.remainder bs) source

/- What lies behind the first end is not due. -/
theorem due_ahead
    (n : Nat)
    (bs : Bytes)
    (source : ByteSource) :
    due n bs source.ahead = due n bs source := by
  fun_induction due n bs source with
  | case1 n bs => rfl
  | case2 n bs source =>
      rw [ahead_finish]
      rfl
  | case3 n bs more source ih =>
      rw [ahead_data, due, ih]
  | case4 n bs e source hKind ih =>
      rw [ahead_fail, due, if_pos hKind, ih]
  | case5 n bs e source hKind ih =>
      rw [ahead_fail, due, if_neg hKind, ih]

/- Interrupted reads do not change what is due. -/
theorem due_uninterrupted
    (n : Nat)
    (bs : Bytes)
    (source : ByteSource) :
    due n bs source.uninterrupted = due n bs source := by
  unfold uninterrupted
  fun_induction due n bs source with
  | case1 n bs => rfl
  | case2 n bs source =>
      rw [List.filter_cons_of_pos
        (by simp [ReadEvent.IsInterrupted])]
      rfl
  | case3 n bs more source ih =>
      rw [List.filter_cons_of_pos
        (by simp [ReadEvent.IsInterrupted]), due, ih]
  | case4 n bs e source hKind ih =>
      rw [List.filter_cons_of_neg
        (by simp [ReadEvent.IsInterrupted, hKind]), ih]
  | case5 n bs e source hKind ih =>
      rw [List.filter_cons_of_pos
        (by simp [ReadEvent.IsInterrupted, hKind]), due,
        if_neg hKind, ih]

/-
  Frames that are read off the bytes at hand are the first
  that are due.
-/
theorem due_of_yields
    {bs rest : Bytes}
    {read : List Bytes}
    (hYields : Marked.Yields bs read rest)
    (n : Nat)
    (source : ByteSource) :
    due n bs source =
      handOuts n read ++
        due (n + read.length) rest source := by
  induction source generalizing n bs rest read with
  | nil =>
      rw [due, due, hYields.frames_eq_rest,
        handOuts_append]
  | cons event source ih =>
      cases event with
      | data more => rw [due, due, ih (hYields.append more)]
      | finish =>
          rw [due, due, hYields.frames_eq_rest,
            handOuts_append]
      | fail e =>
          by_cases hKind : e.kind = .interrupted
          · rw [due, due, if_pos hKind, if_pos hKind,
              ih hYields]
          · rw [due, due, if_neg hKind, if_neg hKind,
              hYields.frames_eq_rest, handOuts_append,
              ih hYields.remainder]
            simp [handOuts, numbered, Nat.add_assoc]

------------------------------------------------------------
-- What Is Due Is Owed
------------------------------------------------------------

/- What is due of a source without an end. -/
theorem deliveries_due
    {source : ByteSource}
    (hEnd : .finish ∉ source)
    (n : Nat)
    (bs : Bytes) :
    deliveries (due n bs source) =
        numbered n (Marked.frames (bs ++ source.bytes)) ∧
      reportedFailures (due n bs source) =
        source.failures.map FrameError.io ∧
      .ok none ∉ due n bs source := by
  fun_induction due n bs source with
  | case1 n bs =>
      simp [bytes, failures, notMem_handOuts]
  | case2 n bs source => simp at hEnd
  | case3 n bs more source ih =>
      have hRest := ih (fun h => hEnd (by simp [h]))
      rw [bytes_cons, failures, List.filterMap_cons,
        ← List.append_assoc]
      exact hRest
  | case4 n bs e source hKind ih =>
      have hRest := ih (fun h => hEnd (by simp [h]))
      simpa [ReadEvent.chunk, failures, ReadEvent.failure?,
        hKind] using hRest
  | case5 n bs e source hKind ih =>
      rcases ih (fun h => hEnd (by simp [h])) with
        ⟨hFrames, hFailures, hAnswers⟩
      have hAll :=
        (Marked.yields_remainder bs).frames_eq
          (bytes source)
      refine ⟨?_, ?_, ?_⟩
      · rw [bytes_cons, ReadEvent.chunk, List.nil_append,
          hAll, numbered_append, ← hFrames,
          deliveries_append, deliveries_handOuts,
          deliveries_cons_error]
      · simp [hFailures, failures, ReadEvent.failure?, hKind]
      · simp [notMem_handOuts, hAnswers]

/- What is due in front of a failure comes in front of it. -/
theorem due_append_fail
    (n : Nat)
    (bs : Bytes)
    {before : ByteSource}
    (hEnd : .finish ∉ before)
    {e : IoError}
    (hKind : e.kind ≠ .interrupted)
    (later : ByteSource) :
    ∃ back,
      due n bs (before ++ .fail e :: later) =
        due n bs before ++ .error (.io e) :: back := by
  fun_induction due n bs before with
  | case1 n bs =>
      rw [List.nil_append, due, if_neg hKind]
      exact ⟨_, rfl⟩
  | case2 n bs source => simp at hEnd
  | case3 n bs more source ih =>
      rw [List.cons_append, due]
      exact ih (fun h => hEnd (by simp [h]))
  | case4 n bs e' source hKind' ih =>
      rw [List.cons_append, due, if_pos hKind']
      exact ih (fun h => hEnd (by simp [h]))
  | case5 n bs e' source hKind' ih =>
      rcases ih (fun h => hEnd (by simp [h])) with
        ⟨back, hBack⟩
      refine ⟨back, ?_⟩
      rw [List.cons_append, due, if_neg hKind', hBack,
        List.append_assoc, List.cons_append]

/- There is no end in front of the first end. -/
theorem finish_notMem_ahead
    (source : ByteSource) :
    .finish ∉ source.ahead := by
  intro hEnd
  have hNot :=
    List.all_eq_true.mp List.all_takeWhile _ hEnd
  simp at hNot

/- What is due of a source is owed up to its first end. -/
theorem isDue_due_ahead
    (source : ByteSource) :
    source.ahead.IsDue (due 0 [] source) := by
  have hEnd := source.finish_notMem_ahead
  rw [← due_ahead]
  rcases deliveries_due hEnd 0 [] with
    ⟨hFrames, hFailures, hAnswers⟩
  refine
    { deliveries_eq := hFrames
      failures_eq := hFailures
      failure_at := ?_
      answers := hAnswers }
  intro before e later hSplit hKind
  rw [hSplit, List.mem_append, not_or] at hEnd
  rcases due_append_fail 0 [] hEnd.1 hKind later with
    ⟨back, hBack⟩
  rcases deliveries_due hEnd.1 0 [] with
    ⟨hFront, hFailed, _⟩
  exact
    ⟨due 0 [] before, back, by rw [hSplit, hBack],
      hFront, hFailed⟩

------------------------------------------------------------
-- Arrivals
------------------------------------------------------------

end ByteSource

/- The event of a source that one read takes. -/
def Arrival.event : Arrival → ReadEvent
| .ok [] => .finish
| .ok (b :: bs) => .data (b :: bs)
| .error e => .fail e

/- A read that finds bytes takes them. -/
theorem Arrival.event_of_ne_nil
    {piece : Bytes}
    (hPiece : piece ≠ []) :
    Arrival.event (.ok piece) = .data piece := by
  cases piece with
  | nil => exact absurd rfl hPiece
  | cons b bs => rfl

namespace ByteSource

/- What reads yield, as a source of its own. -/
def ofArrivals
    (arrivals : List Arrival) : ByteSource :=
  arrivals.map Arrival.event

/- Pieces that are cut off bytes are not empty. -/
theorem ne_nil_of_mem_slices
    {size n : Nat}
    {bs piece : Bytes}
    (hSize : 0 < size)
    (hRoom : n * size < bs.length + size)
    (hPiece : piece ∈ Fragment.slices size n bs) :
    piece ≠ [] := by
  induction n generalizing bs with
  | zero => simp [Fragment.slices] at hPiece
  | succ n ih =>
      rw [Nat.succ_mul] at hRoom
      rw [Fragment.slices, List.mem_cons] at hPiece
      rcases hPiece with rfl | hRest
      · intro hNil
        have hLength := congrArg List.length hNil
        simp only [List.length_take, List.length_nil]
          at hLength
        omega
      · apply ih ?_ hRest
        rw [List.length_drop]
        omega

/-
  The pieces of bytes are not empty, and together they are
  the bytes.
-/
theorem pieces_spec
    {capacity : Nat}
    (hCapacity : 0 < capacity)
    (bs : Bytes) :
    (pieces capacity bs).flatten = bs ∧
      ∀ piece ∈ pieces capacity bs, piece ≠ [] := by
  let n := (bs.length + capacity - 1) / capacity
  have hDivision :=
    Nat.div_add_mod (bs.length + capacity - 1) capacity
  have hRest :=
    Nat.mod_lt (bs.length + capacity - 1) hCapacity
  rw [Nat.mul_comm] at hDivision
  refine ⟨?_, ?_⟩
  · rw [pieces, Fragment.flatten_slices]
    apply List.take_of_length_le
    omega
  · intro piece hPiece
    apply ne_nil_of_mem_slices hCapacity ?_ hPiece
    omega

/- There is no piece of no bytes. -/
theorem pieces_nil
    {capacity : Nat}
    (hCapacity : 0 < capacity) :
    pieces capacity [] = [] := by
  have hNone : (0 + capacity - 1) / capacity = 0 :=
    Nat.div_eq_of_lt (by omega)
  rw [pieces, List.length_nil, hNone]
  rfl

/- The first piece comes in front of those of the rest. -/
theorem pieces_of_ne_nil
    {capacity : Nat}
    (hCapacity : 0 < capacity)
    {bs : Bytes}
    (hBytes : bs ≠ []) :
    pieces capacity bs =
      bs.take capacity ::
        pieces capacity (bs.drop capacity) := by
  have hLength := List.length_pos_iff.mpr hBytes
  have hCount :
      (bs.length + capacity - 1) / capacity =
        ((bs.drop capacity).length + capacity - 1) /
          capacity + 1 := by
    rw [List.length_drop]
    by_cases hMore : capacity ≤ bs.length
    · rw [← Nat.add_div_right _ hCapacity]
      congr 1
      omega
    · have hNone :
          (bs.length - capacity + capacity - 1) /
            capacity = 0 :=
        Nat.div_eq_of_lt (by omega)
      have hOne :
          (bs.length - 1) / capacity = 0 :=
        Nat.div_eq_of_lt (by omega)
      rw [hNone, ← hOne, ← Nat.add_div_right _ hCapacity]
      congr 1
      omega
  rw [pieces, hCount]
  rfl

/- The arrivals of the first event come first. -/
theorem ofArrivals_cons
    (capacity : Nat)
    (event : ReadEvent)
    (source : ByteSource) :
    ofArrivals (arrivals capacity (event :: source)) =
      ofArrivals (arrivalsOf capacity event) ++
        ofArrivals (arrivals capacity source) := by
  simp [ofArrivals, arrivals]

/- Pieces in front add their bytes to what is at hand. -/
theorem due_pieces
    {ps : List Bytes}
    (hPieces : ∀ piece ∈ ps, piece ≠ [])
    (n : Nat)
    (bs : Bytes)
    (source : ByteSource) :
    due n bs (ofArrivals (ps.map Except.ok) ++ source) =
      due n (bs ++ ps.flatten) source := by
  induction ps generalizing bs with
  | nil => simp [ofArrivals]
  | cons piece ps ih =>
      have hHere :=
        Arrival.event_of_ne_nil (hPieces piece (by simp))
      have hRest :=
        ih (fun p hp => hPieces p (by simp [hp]))
          (bs ++ piece)
      simp only [ofArrivals, List.map_cons,
        List.cons_append, hHere, due]
      rw [List.flatten_cons, ← List.append_assoc]
      exact hRest

/- However a source is read, the same is due. -/
theorem due_ofArrivals
    {capacity : Nat}
    (hCapacity : 0 < capacity)
    (n : Nat)
    (bs : Bytes)
    (source : ByteSource) :
    due n bs (ofArrivals (source.arrivals capacity)) =
      due n bs source := by
  fun_induction due n bs source with
  | case1 n bs => rfl
  | case2 n bs source => rfl
  | case3 n bs more source ih =>
      rcases pieces_spec hCapacity more with ⟨hAll, hEach⟩
      rw [ofArrivals_cons, arrivalsOf, due_pieces hEach,
        hAll, ih]
  | case4 n bs e source hKind ih =>
      rw [ofArrivals_cons]
      simp only [arrivalsOf, ofArrivals, List.map_cons,
        List.map_nil, List.singleton_append, Arrival.event,
        due, if_pos hKind]
      exact ih
  | case5 n bs e source hKind ih =>
      rw [ofArrivals_cons, ← ih]
      simp only [arrivalsOf, ofArrivals, List.map_cons,
        List.map_nil, List.singleton_append, Arrival.event,
        due, if_neg hKind]

/- Pieces in front add their bytes to what lies ahead. -/
theorem bytes_ahead_pieces
    {ps : List Bytes}
    (hPieces : ∀ piece ∈ ps, piece ≠ [])
    (source : ByteSource) :
    bytes (ahead (ofArrivals (ps.map Except.ok) ++ source)) =
      ps.flatten ++ source.ahead.bytes := by
  induction ps with
  | nil => simp [ofArrivals]
  | cons piece ps ih =>
      have hHere :=
        Arrival.event_of_ne_nil (hPieces piece (by simp))
      have hRest :=
        ih (fun p hp => hPieces p (by simp [hp]))
      simp only [ofArrivals, List.map_cons,
        List.cons_append, hHere, ahead_data, bytes_cons,
        ReadEvent.chunk, List.flatten_cons,
        List.append_assoc]
      congr 1

/- However a source is read, the same bytes lie ahead. -/
theorem bytes_ahead_ofArrivals
    {capacity : Nat}
    (hCapacity : 0 < capacity)
    (source : ByteSource) :
    (ofArrivals (source.arrivals capacity)).ahead.bytes =
      source.ahead.bytes := by
  induction source with
  | nil => rfl
  | cons event source ih =>
      rw [ofArrivals_cons]
      cases event with
      | data bs =>
          rcases pieces_spec hCapacity bs with ⟨hAll, hEach⟩
          rw [arrivalsOf, bytes_ahead_pieces hEach, hAll, ih,
            ahead_data, bytes_cons, ReadEvent.chunk]
      | finish =>
          simp [arrivalsOf, ofArrivals, Arrival.event]
      | fail e =>
          simp only [arrivalsOf, ofArrivals, List.map_cons,
            List.map_nil, List.singleton_append,
            Arrival.event, ahead_fail, bytes_cons,
            ReadEvent.chunk, List.nil_append]
          exact ih

end ByteSource

end Reframe
