import Reframe.Scan.Search

/-
  This file defines scanners: they take a stream in chunks
  and hand out the frames in it, numbered from zero.

  Key definitions include:
    * `ScannedFrame`
    * `Scanner`
    * `Scanner.push`
    * `Scanner.next`
    * `Scanner.feed`
    * `Scanner.clear`
    * `Scanner.run`
-/

namespace Reframe

------------------------------------------------------------
-- Scanners
------------------------------------------------------------

/-
  A frame cut out of a stream, markers included, and its
  number.
-/
structure ScannedFrame where
  sequence : Nat
  data : Bytes
deriving DecidableEq, Repr

/-
  A scanner: the bytes that are not handed out yet, the
  search in them, and the number of the next frame.
-/
structure Scanner where
  buffer : ByteQueue := {}
  state : FrameSearch := {}
  nextSequence : Nat := 0
deriving DecidableEq, Repr

namespace Scanner

def withLimit
    (maxFrameSize : Nat) : Scanner where
  state := { maxFrameSize := maxFrameSize }

def stats
    (s : Scanner) : ScanStats :=
  s.state.stats

def buffered
    (s : Scanner) : Nat :=
  s.buffer.size

def push
    (s : Scanner)
    (chunk : Bytes) : Scanner :=
  { s with buffer := s.buffer.append chunk }

/- Hand out the next complete frame, if there is one. -/
def next
    (s : Scanner) : Option ScannedFrame × Scanner :=
  let x := s.state.extract s.buffer
  match x.frame with
  | none =>
      (none, { s with buffer := x.rest, state := x.after })
  | some data =>
      (some ⟨s.nextSequence, data⟩,
        { buffer := x.rest
          state := x.after
          nextSequence := s.nextSequence + 1 })

/- Drop the bytes that are not handed out.  Numbers go on. -/
def clear
    (s : Scanner) : Scanner :=
  { s with buffer := {}, state := s.state.reset }

/- Handing a frame out shortens the buffer. -/
theorem buffered_lt_of_next
    {s after : Scanner}
    {f : ScannedFrame}
    (h : s.next = (some f, after)) :
    after.buffered < s.buffered := by
  unfold next at h
  cases hx : (s.state.extract s.buffer).frame with
  | none => simp [hx] at h
  | some data =>
      simp only [hx, Prod.mk.injEq] at h
      rw [← h.2]
      exact FrameSearch.size_lt_of_extract hx

------------------------------------------------------------
-- Several Frames
------------------------------------------------------------

/- Hand out frames until there are none. -/
def drain
    (s : Scanner) : List ScannedFrame × Scanner :=
  match _h : s.next with
  | (none, after) => ([], after)
  | (some f, after) =>
      let r := after.drain
      (f :: r.1, r.2)
termination_by s.buffered
decreasing_by exact buffered_lt_of_next _h

/- Hand out at most a number of frames. -/
def take
    (s : Scanner) : Nat → List ScannedFrame × Scanner
| 0 => ([], s)
| n + 1 =>
    match s.next with
    | (none, after) => ([], after)
    | (some f, after) =>
        let r := after.take n
        (f :: r.1, r.2)

/-
  Take a chunk in and hand out frames: all there are, or at
  most a number of them.
-/
def feed
    (s : Scanner)
    (chunk : Bytes)
    (most : Option Nat) : List ScannedFrame × Scanner :=
  match most with
  | none => (s.push chunk).drain
  | some n => (s.push chunk).take n

------------------------------------------------------------
-- Runs
------------------------------------------------------------

/- What may be done with a scanner. -/
inductive Event where
| feed (chunk : Bytes) (most : Option Nat)
| push (chunk : Bytes)
| next
| clear
deriving DecidableEq, Repr

/- Let one event happen: the frames it hands out. -/
def step
    (s : Scanner) : Event → List ScannedFrame × Scanner
| .feed chunk most => s.feed chunk most
| .push chunk => ([], s.push chunk)
| .next =>
    match s.next with
    | (f, after) => (f.toList, after)
| .clear => ([], s.clear)

/-
  Let events happen in order.  The frames of each event come
  with the scanner right after it.
-/
def run
    (s : Scanner) :
    List Event → List (List ScannedFrame × Scanner)
| [] => []
| e :: es =>
    let r := s.step e
    r :: run r.2 es

end Scanner

end Reframe
